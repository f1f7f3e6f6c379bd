import Mathlib.Logic.Relation
import ReductionIR.Axes
import ReductionIR.Proofs.IntegerArrays
import ReductionIR.Proofs.Numbering
/-
What drafting does to a draft. Every build is a sequence of two kinds of steps, an
operator with its result or a constant, and each step takes a free number above all
earlier ones. What the steps add is described by one invariant.
-/
namespace ReductionIR

/-! Steps that carry a state and may fail -/

namespace Stepwise

variable {σ α β : Type} {d d' : σ} {fault : Fault}

theorem bind_eq_ok_iff {x : EStateM Fault σ α} {f : α → EStateM Fault σ β} {b : β} :
    (x >>= f) d = .ok b d' ↔ ∃ a middle, x d = .ok a middle ∧ f a middle = .ok b d' := by
  change EStateM.bind x f d = _ ↔ _
  unfold EStateM.bind
  cases x d with
  | ok a middle =>
    constructor
    · intro done
      exact ⟨a, middle, rfl, done⟩
    · rintro ⟨a', middle', same, done⟩
      cases same
      exact done
  | error e middle => simp

theorem bind_eq_error_iff {x : EStateM Fault σ α} {f : α → EStateM Fault σ β} :
    (x >>= f) d = .error fault d' ↔
      x d = .error fault d' ∨ ∃ a middle, x d = .ok a middle ∧ f a middle = .error fault d' := by
  change EStateM.bind x f d = _ ↔ _
  unfold EStateM.bind
  cases x d with
  | ok a middle =>
    constructor
    · intro failed
      exact Or.inr ⟨a, middle, rfl, failed⟩
    · rintro (early | ⟨a', middle', same, failed⟩)
      · contradiction
      · cases same
        exact failed
  | error e middle => simp

theorem pure_apply (a : α) : (pure a : EStateM Fault σ α) d = .ok a d := rfl

theorem throw_apply (fault : Fault) : (throw fault : EStateM Fault σ α) d = .error fault d := rfl

theorem ofExcept_apply (result : Except Fault α) :
    (MonadExcept.ofExcept result : EStateM Fault σ α) d =
      match result with
      | .ok a => .ok a d
      | .error fault => .error fault d := by
  cases result <;> rfl

theorem except_bind_eq_ok_iff {ε : Type} {x : Except ε α} {f : α → Except ε β} {b : β} :
    x >>= f = .ok b ↔ ∃ a, x = .ok a ∧ f a = .ok b := by
  cases x <;> simp [bind, Except.bind]

theorem mapError_eq_ok_iff {ε η : Type} {x : Except ε α} {f : ε → η} {a : α} :
    x.mapError f = .ok a ↔ x = .ok a := by
  cases x <;> simp [Except.mapError]

theorem lift_eq_ok_iff {x : Except Breakdown α} {a : α} : Fault.lift x = .ok a ↔ x = .ok a :=
  mapError_eq_ok_iff

end Stepwise

open Stepwise

namespace Draft

/-- The draft with one more operator of an inferred result. -/
def withOp (g : Graph) (opType : String) (inputs : List Tensor) (attributes : Fields)
    (inferred : Inferred) (d : Draft) : Draft :=
  let n := g.freeNumber opType d.counter
  let out := output opType n inferred
  { d with counter := n }.record inputs
    { id := Graph.numbered opType n, opType, inputs := inputs.map Tensor.id,
      outputs := [out.id], attributes, source? := d.source? } out

/-- The constant that comes next. -/
def nextConstant (g : Graph) (stem : String) (data : Dense) (d : Draft) : Tensor :=
  let n := g.freeNumber stem d.counter
  .constant (.made n) (Graph.numbered stem n) data

/-- The draft with one more constant. -/
def withConstant (g : Graph) (stem : String) (data : Dense) (d : Draft) : Draft :=
  { d with
    counter := g.freeNumber stem d.counter
    tensors := d.tensors ++ [d.nextConstant g stem data] }

theorem make_apply (g : Graph) (opType : String) (inputs : List Tensor) (attributes : Fields)
    (d : Draft) :
    make g opType inputs attributes d =
      match infer opType (inputs.map Tensor.toFacts) attributes with
      | .ok inferred =>
        .ok (output opType (g.freeNumber opType d.counter) inferred)
          (d.withOp g opType inputs attributes inferred)
      | .error fault => .error fault d := by
  unfold make
  cases infer opType (inputs.map Tensor.toFacts) attributes <;> rfl

theorem constant_apply (g : Graph) (data : Except Breakdown Dense) (stem : String)
    (d : Draft) :
    constant g data stem d =
      match data with
      | .ok data => .ok (d.nextConstant g stem data) (d.withConstant g stem data)
      | .error failure => .error (.bare failure) d := by
  unfold constant
  cases data <;> rfl

/-- One step of drafting: an operator that reads given or drafted tensors, or a constant of
    integers. -/
inductive Step (g : Graph) (given : List Tensor) (d : Draft) : Draft → Prop where
  | op {opType : String} {inputs : List Tensor} {attributes : Fields} {inferred : Inferred}
      (known : ∀ t ∈ inputs, t ∈ given ∨ t ∈ d.tensors)
      (fits : infer opType (inputs.map Tensor.toFacts) attributes = .ok inferred) :
      Step g given d (d.withOp g opType inputs attributes inferred)
  | constant (stem : String) (data : Dense) (whole : data.HoldsIntegers) :
      Step g given d (d.withConstant g stem data)

abbrev Steps (g : Graph) (given : List Tensor) : Draft → Draft → Prop :=
  Relation.ReflTransGen (Step g given)

/-- What drafting makes with a number: a constant under its id, or the result of an
    operator. -/
inductive Made (g : Graph) (n : Nat) : Tensor → Prop where
  | constant {stem : String} (data : Dense) (whole : data.HoldsIntegers)
      (free : g.isTaken (Graph.numbered stem n) = false) :
      Made g n (.constant (.made n) (Graph.numbered stem n) data)
  | result {opType : String} (inferred : Inferred)
      (free : g.isTaken (Graph.numbered opType n) = false) : Made g n (output opType n inferred)

/-- A drafted operator: its number, its result, and inputs that were given or were made with
    smaller numbers. -/
structure NewOp (g : Graph) (given tensors : List Tensor) (n : Nat) (op : Op) : Prop where
  kind : ∃ kind : OpKind, kind.opType = op.opType
  id_eq : op.id = Graph.numbered op.opType n
  free : g.isTaken op.id = false
  outputs_eq : op.outputs = [Graph.resultId op.id]
  result : ∃ inferred, output op.opType n inferred ∈ tensors
  inputs_known : ∀ id ∈ op.inputs,
    ∃ t, t.id = id ∧ (t ∈ given ∨ t ∈ tensors ∧ ∃ m, m < n ∧ Made g m t)

/-- The invariant of drafting from a counter on. -/
structure Sound (g : Graph) (given : List Tensor) (start : Nat) (d : Draft) : Prop where
  start_le : start ≤ d.counter
  made : ∀ t ∈ d.tensors, ∃ n, start < n ∧ n ≤ d.counter ∧ Made g n t
  numbers : d.tensors.Pairwise fun s t => ∀ m n, Made g m s → Made g n t → m < n
  newOps : ∀ op ∈ d.ops, ∃ n, start < n ∧ n ≤ d.counter ∧ NewOp g given d.tensors n op
  opNumbers : d.ops.Pairwise fun a b =>
    ∀ m n, a.id = Graph.numbered a.opType m → b.id = Graph.numbered b.opType n → m < n
  results : ∀ t ∈ d.tensors, t.data = none → ∃ op ∈ d.ops, t.id = Graph.resultId op.id
  operands_known : ∀ id t, d.operands.find? id = some t → t.id = id ∧ (t ∈ given ∨ t ∈ d.tensors)
  operands_cover : ∀ op ∈ d.ops, ∀ id ∈ op.inputs, d.operands.contains id = true

theorem Made.origin_eq {g : Graph} {n : Nat} {t : Tensor} (made : Made g n t) :
    t.origin = .made n := by
  cases made <;> rfl

theorem Made.number_unique {g : Graph} {m n : Nat} {t : Tensor} (first : Made g m t)
    (second : Made g n t) : m = n := by
  have same := first.origin_eq.symm.trans second.origin_eq
  exact Origin.made.inj same

theorem Made.id_eq {g : Graph} {n : Nat} {t : Tensor} (made : Made g n t) :
    (∃ stem, t.id = Graph.numbered stem n ∧ t.data ≠ none) ∨
      ∃ opType, t.id = Graph.resultId (Graph.numbered opType n) ∧ t.data = none := by
  cases made with
  | @constant stem data whole free => exact Or.inl ⟨stem, rfl, by simp [Tensor.constant]⟩
  | @result opType inferred free => exact Or.inr ⟨opType, rfl, rfl⟩

theorem Made.number_eq_of_id_eq {g : Graph} {m n : Nat} {s t : Tensor} (first : Made g m s)
    (second : Made g n t) (same : s.id = t.id) : m = n := by
  rcases first.id_eq with ⟨a, first, _⟩ | ⟨a, first, _⟩ <;>
    rcases second.id_eq with ⟨b, second, _⟩ | ⟨b, second, _⟩
  · exact Graph.number_eq_of_numbered_eq (first.symm.trans (same.trans second))
  · exact absurd (second.symm.trans (same.symm.trans first)) (Graph.resultId_ne_numbered _ _ _)
  · exact absurd (first.symm.trans (same.trans second)) (Graph.resultId_ne_numbered _ _ _)
  · exact (Graph.resultId_numbered_injective (first.symm.trans (same.trans second))).2

/-- The operands that are noted once some inputs are read. -/
def noted (inputs : List Tensor) (operands : Table String Tensor) : Table String Tensor :=
  inputs.foldl (fun seen t => seen.insertNew t.id t) operands

theorem find?_noted {inputs : List Tensor} {operands : Table String Tensor} {id : String}
    {t : Tensor} (found : (noted inputs operands).find? id = some t) :
    operands.find? id = some t ∨ t ∈ inputs ∧ t.id = id := by
  induction inputs generalizing operands with
  | nil => exact Or.inl found
  | cons u rest ih =>
    rcases ih found with early | ⟨member, named⟩
    · rw [Table.find?_insertNew] at early
      split at early
      · rename_i same
        cases present : operands.find? u.id with
        | none =>
          simp only [present, Option.getD_none, Option.some.injEq] at early
          subst early
          exact Or.inr ⟨by simp, same.symm⟩
        | some old =>
          simp only [present, Option.getD_some, Option.some.injEq] at early
          subst early
          exact Or.inl (same ▸ present)
      · exact Or.inl early
    · exact Or.inr ⟨List.mem_cons_of_mem u member, named⟩

theorem contains_noted_of_contains {inputs : List Tensor} {operands : Table String Tensor}
    {id : String} (present : operands.contains id = true) :
    (noted inputs operands).contains id = true := by
  induction inputs generalizing operands with
  | nil => exact present
  | cons u rest ih =>
    apply ih
    unfold Table.contains at present ⊢
    rw [Table.find?_insertNew]
    split <;> simp [present]

theorem contains_noted {inputs : List Tensor} {operands : Table String Tensor} {t : Tensor}
    (member : t ∈ inputs) : (noted inputs operands).contains t.id = true := by
  induction inputs generalizing operands with
  | nil => simp at member
  | cons u rest ih =>
    rcases List.mem_cons.mp member with rfl | later
    · have first : (operands.insertNew t.id t).contains t.id = true := by
        simp [Table.contains, Table.find?_insertNew]
      change (noted rest (operands.insertNew t.id t)).contains t.id = true
      exact contains_noted_of_contains first
    · exact ih later

theorem NewOp.mono {g : Graph} {given tensors more : List Tensor} {n : Nat} {op : Op}
    (new : NewOp g given tensors n op) (grown : tensors ⊆ more) : NewOp g given more n op where
  kind := new.kind
  id_eq := new.id_eq
  free := new.free
  outputs_eq := new.outputs_eq
  result := by
    obtain ⟨inferred, member⟩ := new.result
    exact ⟨inferred, grown member⟩
  inputs_known := by
    intro id member
    obtain ⟨t, named, known⟩ := new.inputs_known id member
    refine ⟨t, named, ?_⟩
    rcases known with given | ⟨drafted, smaller⟩
    · exact Or.inl given
    · exact Or.inr ⟨grown drafted, smaller⟩

theorem Sound.number_le {g : Graph} {given : List Tensor} {start : Nat} {d : Draft}
    (sound : Sound g given start d) {t : Tensor} (member : t ∈ d.tensors) {n : Nat}
    (made : Made g n t) : n ≤ d.counter := by
  obtain ⟨m, _, bound, first⟩ := sound.made t member
  rw [made.number_unique first]
  exact bound

theorem Sound.opNumber_le {g : Graph} {given : List Tensor} {start : Nat} {d : Draft}
    (sound : Sound g given start d) {op : Op} (member : op ∈ d.ops) {n : Nat}
    (numbered : op.id = Graph.numbered op.opType n) : n ≤ d.counter := by
  obtain ⟨m, _, bound, new⟩ := sound.newOps op member
  rw [Graph.number_eq_of_numbered_eq (numbered.symm.trans new.id_eq)]
  exact bound

theorem sound_blank (g : Graph) (given : List Tensor) (start : Nat) (source? : Option String) :
    Sound g given start { counter := start, source? } where
  start_le := Nat.le_refl _
  made := by simp
  numbers := List.Pairwise.nil
  newOps := by simp
  opNumbers := List.Pairwise.nil
  results := by simp
  operands_known := by
    intro id t found
    change Table.empty.find? id = some t at found
    simp at found
  operands_cover := by simp

theorem Sound.numbers_append {g : Graph} {given : List Tensor} {start n : Nat} {d : Draft}
    (sound : Sound g given start d) (above : d.counter < n) {t : Tensor} (made : Made g n t) :
    (d.tensors ++ [t]).Pairwise fun s t => ∀ m n, Made g m s → Made g n t → m < n := by
  rw [List.pairwise_append]
  refine ⟨sound.numbers, List.pairwise_singleton _ _, ?_⟩
  intro s old u new m k first second
  obtain rfl := List.mem_singleton.mp new
  rw [second.number_unique made]
  exact Nat.lt_of_le_of_lt (sound.number_le old first) above

theorem Sound.made_append {g : Graph} {given : List Tensor} {start n : Nat} {d : Draft}
    (sound : Sound g given start d) (above : d.counter < n) {t : Tensor} (made : Made g n t) :
    ∀ u ∈ d.tensors ++ [t], ∃ m, start < m ∧ m ≤ n ∧ Made g m u := by
  intro u member
  rcases List.mem_append.mp member with old | new
  · obtain ⟨m, low, high, known⟩ := sound.made u old
    exact ⟨m, low, Nat.le_trans high (Nat.le_of_lt above), known⟩
  · obtain rfl := List.mem_singleton.mp new
    exact ⟨n, Nat.lt_of_le_of_lt sound.start_le above, Nat.le_refl _, made⟩

theorem Sound.newOps_mono {g : Graph} {given more : List Tensor} {start n : Nat} {d : Draft}
    (sound : Sound g given start d) (above : d.counter < n) (grown : d.tensors ⊆ more) :
    ∀ op ∈ d.ops, ∃ m, start < m ∧ m ≤ n ∧ NewOp g given more m op := by
  intro op member
  obtain ⟨m, low, high, new⟩ := sound.newOps op member
  exact ⟨m, low, Nat.le_trans high (Nat.le_of_lt above), new.mono grown⟩

theorem Sound.opNumbers_append {g : Graph} {given : List Tensor} {start n : Nat} {d : Draft}
    (sound : Sound g given start d) (above : d.counter < n) {op : Op}
    (numbered : op.id = Graph.numbered op.opType n) :
    (d.ops ++ [op]).Pairwise fun a b =>
      ∀ m n, a.id = Graph.numbered a.opType m → b.id = Graph.numbered b.opType n → m < n := by
  rw [List.pairwise_append]
  refine ⟨sound.opNumbers, List.pairwise_singleton _ _, ?_⟩
  intro a old b new m k first second
  obtain rfl := List.mem_singleton.mp new
  rw [← Graph.number_eq_of_numbered_eq (numbered.symm.trans second)]
  exact Nat.lt_of_le_of_lt (sound.opNumber_le old first) above

theorem Sound.withConstant {g : Graph} {given : List Tensor} {start : Nat} {d : Draft}
    (sound : Sound g given start d) (stem : String) {data : Dense} (whole : data.HoldsIntegers) :
    Sound g given start (d.withConstant g stem data) := by
  have above := Graph.counter_lt_freeNumber g stem d.counter
  have made : Made g (g.freeNumber stem d.counter) (d.nextConstant g stem data) :=
    .constant data whole (Graph.freeNumber_is_free g stem d.counter)
  have grown : d.tensors ⊆ (d.withConstant g stem data).tensors := List.subset_append_left _ _
  exact {
    start_le := Nat.le_trans sound.start_le (Nat.le_of_lt above)
    made := sound.made_append above made
    numbers := sound.numbers_append above made
    newOps := sound.newOps_mono above grown
    opNumbers := sound.opNumbers
    results := by
      intro t member absent
      rcases List.mem_append.mp member with old | new
      · exact sound.results t old absent
      · obtain rfl := List.mem_singleton.mp new
        simp [nextConstant, Tensor.constant] at absent
    operands_known := by
      intro id t found
      obtain ⟨named, known⟩ := sound.operands_known id t found
      exact ⟨named, known.imp_right fun old => grown old⟩
    operands_cover := sound.operands_cover }

theorem kind_of_infer {opType : String} {operands : List Facts} {attributes : Fields}
    {inferred : Inferred} (fits : infer opType operands attributes = .ok inferred) :
    ∃ kind : OpKind, kind.opType = opType := by
  unfold infer at fits
  split at fits
  · rename_i kind found
    exact ⟨kind, by simpa using List.find?_some found⟩
  · contradiction

theorem Sound.newOps_append {g : Graph} {given : List Tensor} {start : Nat} {d : Draft}
    (sound : Sound g given start d) {opType : String} {inputs : List Tensor}
    {attributes : Fields} {inferred : Inferred}
    (known : ∀ t ∈ inputs, t ∈ given ∨ t ∈ d.tensors)
    (fits : infer opType (inputs.map Tensor.toFacts) attributes = .ok inferred) :
    ∀ op ∈ (d.withOp g opType inputs attributes inferred).ops,
      ∃ n, start < n ∧ n ≤ g.freeNumber opType d.counter ∧
        NewOp g given (d.withOp g opType inputs attributes inferred).tensors n op := by
  have above := Graph.counter_lt_freeNumber g opType d.counter
  have grown : d.tensors ⊆ (d.withOp g opType inputs attributes inferred).tensors :=
    List.subset_append_left _ _
  intro op member
  rcases List.mem_append.mp member with old | new
  · exact sound.newOps_mono above grown op old
  · obtain rfl := List.mem_singleton.mp new
    -- the new operator has the next free number, and reads what has smaller ones
    refine ⟨_, Nat.lt_of_le_of_lt sound.start_le above, Nat.le_refl _, ?_⟩
    exact {
      kind := kind_of_infer fits
      id_eq := rfl
      free := Graph.freeNumber_is_free g opType d.counter
      outputs_eq := rfl
      result := ⟨inferred, List.mem_append_right _ (by simp)⟩
      inputs_known := by
        intro id member
        obtain ⟨t, read, rfl⟩ := List.mem_map.mp member
        refine ⟨t, rfl, (known t read).imp_right fun old => ⟨grown old, ?_⟩⟩
        obtain ⟨m, _, high, form⟩ := sound.made t old
        exact ⟨m, Nat.lt_of_le_of_lt high above, form⟩ }

theorem Sound.withOp {g : Graph} {given : List Tensor} {start : Nat} {d : Draft}
    (sound : Sound g given start d) {opType : String} {inputs : List Tensor}
    {attributes : Fields} {inferred : Inferred}
    (known : ∀ t ∈ inputs, t ∈ given ∨ t ∈ d.tensors)
    (fits : infer opType (inputs.map Tensor.toFacts) attributes = .ok inferred) :
    Sound g given start (d.withOp g opType inputs attributes inferred) := by
  have above := Graph.counter_lt_freeNumber g opType d.counter
  have made := Made.result (g := g) inferred (Graph.freeNumber_is_free g opType d.counter)
  have grown : d.tensors ⊆ (d.withOp g opType inputs attributes inferred).tensors :=
    List.subset_append_left _ _
  exact {
    start_le := Nat.le_trans sound.start_le (Nat.le_of_lt above)
    made := sound.made_append above made
    numbers := sound.numbers_append above made
    newOps := sound.newOps_append known fits
    opNumbers := sound.opNumbers_append above rfl
    results := by
      intro t member absent
      rcases List.mem_append.mp member with old | new
      · obtain ⟨op, drafted, named⟩ := sound.results t old absent
        exact ⟨op, List.mem_append_left _ drafted, named⟩
      · obtain rfl := List.mem_singleton.mp new
        exact ⟨_, List.mem_append_right _ (List.mem_singleton_self _), rfl⟩
    operands_known := by
      intro id t found
      rcases find?_noted found with old | ⟨read, named⟩
      · obtain ⟨named, origin⟩ := sound.operands_known id t old
        exact ⟨named, origin.imp_right fun old => grown old⟩
      · exact ⟨named, (known t read).imp_right fun old => grown old⟩
    operands_cover := by
      intro op member id input
      rcases List.mem_append.mp member with old | new
      · exact contains_noted_of_contains (sound.operands_cover op old id input)
      · obtain rfl := List.mem_singleton.mp new
        obtain ⟨t, read, rfl⟩ := List.mem_map.mp input
        exact contains_noted read }

theorem Step.sound {g : Graph} {given : List Tensor} {start : Nat} {d d' : Draft}
    (step : Step g given d d') (sound : Sound g given start d) : Sound g given start d' := by
  cases step with
  | op known fits => exact sound.withOp known fits
  | constant stem data whole => exact sound.withConstant stem whole

theorem Steps.sound {g : Graph} {given : List Tensor} {start : Nat} {d d' : Draft}
    (steps : Steps g given d d') (sound : Sound g given start d) : Sound g given start d' := by
  induction steps with
  | refl => exact sound
  | tail _ step ih => exact step.sound ih

end Draft

end ReductionIR
