import ReductionIR.Lowering
import ReductionIR.Proofs.Drafting
/-
The builds of a lowering as sequences of steps. Checks only read the draft; everything
else extends it by steps that read given operands and what was drafted before.
-/
namespace ReductionIR

open Draft Stepwise

namespace Build

variable {α β : Type} {g : Graph} {given : List Tensor} {d : Draft}

/-- A build that leaves every draft as it is. -/
def ReadOnly (m : Build α) : Prop :=
  ∀ d, (∃ a, m d = .ok a d) ∨ ∃ fault, m d = .error fault d

theorem readOnly_pure (a : α) : ReadOnly (pure a) := fun _ => Or.inl ⟨a, rfl⟩

theorem readOnly_throw (fault : Fault) : ReadOnly (throw fault : Build α) :=
  fun _ => Or.inr ⟨fault, rfl⟩

theorem readOnly_ofExcept (result : Except Fault α) :
    ReadOnly (MonadExcept.ofExcept result : Build α) := by
  cases result with
  | ok a => exact readOnly_pure a
  | error fault => exact readOnly_throw fault

theorem ReadOnly.bind {m : Build α} {f : α → Build β} (first : ReadOnly m)
    (rest : ∀ a, ReadOnly (f a)) : ReadOnly (m >>= f) := by
  intro d
  rcases first d with ⟨a, done⟩ | ⟨fault, failed⟩
  · rcases rest a d with ⟨b, finished⟩ | ⟨fault, failed⟩
    · exact Or.inl ⟨b, bind_eq_ok_iff.mpr ⟨a, d, done, finished⟩⟩
    · exact Or.inr ⟨fault, bind_eq_error_iff.mpr (Or.inr ⟨a, d, done, failed⟩)⟩
  · exact Or.inr ⟨fault, bind_eq_error_iff.mpr (Or.inl failed)⟩

theorem ReadOnly.draft_eq_of_ok {m : Build α} (readOnly : ReadOnly m) {a : α} {d' : Draft}
    (done : m d = .ok a d') : d' = d := by
  rcases readOnly d with ⟨b, same⟩ | ⟨fault, failed⟩
  · rw [done] at same
    cases same
    rfl
  · rw [done] at failed
    contradiction

theorem ReadOnly.bind_ok {m : Build α} {f : α → Build β} {b : β} {d' : Draft}
    (readOnly : ReadOnly m) (done : (m >>= f) d = .ok b d') :
    ∃ a, m d = .ok a d ∧ f a d = .ok b d' := by
  obtain ⟨a, middle, first, rest⟩ := bind_eq_ok_iff.mp done
  have same := readOnly.draft_eq_of_ok first
  rw [same] at first rest
  exact ⟨a, first, rest⟩

/-- A build that ends in a draft steps away, with a result that meets a condition there. -/
def Grows (g : Graph) (given : List Tensor) (m : Build α) (d : Draft)
    (post : α → Draft → Prop) : Prop :=
  match m d with
  | .ok a d' => Steps g given d d' ∧ post a d'
  | .error _ d' => Steps g given d d'

theorem Grows.bind {m : Build α} {f : α → Build β} {middle : α → Draft → Prop}
    {post : β → Draft → Prop} (first : Grows g given m d middle)
    (rest : ∀ a d', Steps g given d d' → middle a d' → Grows g given (f a) d' post) :
    Grows g given (m >>= f) d post := by
  unfold Grows at first ⊢
  change match EStateM.bind m f d with
    | .ok b d' => Steps g given d d' ∧ post b d'
    | .error _ d' => Steps g given d d'
  unfold EStateM.bind
  cases early : m d with
  | error fault d' =>
    rw [early] at first
    exact first
  | ok a d' =>
    rw [early] at first
    have later := rest a d' first.1 first.2
    unfold Grows at later
    dsimp only
    cases late : f a d' with
    | error fault d'' =>
      rw [late] at later
      exact first.1.trans later
    | ok b d'' =>
      rw [late] at later
      exact ⟨first.1.trans later.1, later.2⟩

theorem Grows.mono {m : Build α} {post weaker : α → Draft → Prop}
    (grows : Grows g given m d post)
    (weaken : ∀ a d', Steps g given d d' → post a d' → weaker a d') :
    Grows g given m d weaker := by
  unfold Grows at grows ⊢
  cases run : m d with
  | error fault d' =>
    rw [run] at grows
    exact grows
  | ok a d' =>
    rw [run] at grows
    exact ⟨grows.1, weaken a d' grows.1 grows.2⟩

theorem grows_pure {a : α} {post : α → Draft → Prop} (holds : post a d) :
    Grows g given (pure a) d post := ⟨Relation.ReflTransGen.refl, holds⟩

theorem ReadOnly.grows {m : Build α} (readOnly : ReadOnly m) :
    Grows g given m d fun a d' => d' = d ∧ m d = .ok a d := by
  unfold Grows
  rcases readOnly d with ⟨a, done⟩ | ⟨fault, failed⟩
  · rw [done]
    exact ⟨Relation.ReflTransGen.refl, rfl, rfl⟩
  · rw [failed]

theorem Grows.of_ok {m : Build α} {post : α → Draft → Prop} {a : α} {d' : Draft}
    (grows : Grows g given m d post) (done : m d = .ok a d') :
    Steps g given d d' ∧ post a d' := by
  unfold Grows at grows
  rwa [done] at grows

theorem Grows.of_error {m : Build α} {post : α → Draft → Prop} {fault : Fault} {d' : Draft}
    (grows : Grows g given m d post) (failed : m d = .error fault d') :
    Steps g given d d' := by
  unfold Grows at grows
  rwa [failed] at grows

end Build

open Build

/-- A tensor that steps may read: a given one or a drafted one. -/
def Draft.Known (given : List Tensor) (d : Draft) (t : Tensor) : Prop :=
  t ∈ given ∨ t ∈ d.tensors

variable {g : Graph} {given : List Tensor} {d : Draft}

theorem Draft.Step.tensors_subset {d' : Draft} (step : Step g given d d') :
    d.tensors ⊆ d'.tensors := by
  cases step with
  | op known fits => exact List.subset_append_left _ _
  | constant stem data whole => exact List.subset_append_left _ _

theorem Draft.Steps.tensors_subset {d' : Draft} (steps : Steps g given d d') :
    d.tensors ⊆ d'.tensors := by
  induction steps with
  | refl => exact List.Subset.refl _
  | tail _ step ih => exact List.Subset.trans ih step.tensors_subset

theorem Draft.Known.mono {d' : Draft} {t : Tensor} (known : Known given d t)
    (steps : Steps g given d d') : Known given d' t :=
  known.imp_right fun old => Draft.Steps.tensors_subset steps old

theorem Draft.known_of_drafted {t : Tensor} (drafted : t ∈ d.tensors) : Known given d t :=
  Or.inr drafted

theorem Draft.make_grows {opType : String} {inputs : List Tensor} {attributes : Fields}
    (known : ∀ t ∈ inputs, Known given d t) :
    Grows g given (make g opType inputs attributes) d fun t d' => t ∈ d'.tensors := by
  unfold Grows
  rw [make_apply]
  cases fits : infer opType (inputs.map Tensor.toFacts) attributes with
  | error fault => exact Relation.ReflTransGen.refl
  | ok inferred =>
    exact ⟨Relation.ReflTransGen.single (.op known fits),
      List.mem_append_right _ (List.mem_singleton_self _)⟩

theorem Draft.constant_grows {data : Except Breakdown Dense} {stem : String}
    (whole : ∀ a, data = .ok a → a.HoldsIntegers) :
    Grows g given (constant g data stem) d fun t d' => t ∈ d'.tensors := by
  unfold Grows
  rw [constant_apply]
  cases data with
  | error failure => exact Relation.ReflTransGen.refl
  | ok data =>
    exact ⟨Relation.ReflTransGen.single (.constant stem data (whole data rfl)),
      List.mem_append_right _ (List.mem_singleton_self _)⟩

namespace Context

theorem readOnly_fail {α : Type} (ctx : Context) (cause : NodeFailure.Cause) :
    ReadOnly (ctx.fail cause : Build α) := readOnly_throw _

theorem readOnly_operand (ctx : Context) (index : Nat) : ReadOnly (ctx.operand index) := by
  unfold operand
  split
  · exact readOnly_pure _
  · exact ctx.readOnly_fail _

theorem readOnly_read {α : Type} (ctx : Context) (result : Except LookupFailure α) :
    ReadOnly (ctx.read result) := readOnly_ofExcept _

/-- The operands that are not left out. -/
def present (ctx : Context) : List Tensor := ctx.operands.filterMap id

theorem mem_present_of_operand? {ctx : Context} {index : Nat} {t : Tensor}
    (found : ctx.operand? index = some t) : t ∈ ctx.present := by
  unfold operand? at found
  cases entry : ctx.operands[index]? with
  | none => simp [entry] at found
  | some o =>
    rw [entry] at found
    obtain rfl : o = some t := found
    exact List.mem_filterMap.mpr ⟨some t, List.mem_of_getElem? entry, rfl⟩

theorem operand_eq_ok_iff {ctx : Context} {index : Nat} {t : Tensor} {d d' : Draft} :
    ctx.operand index d = .ok t d' ↔ ctx.operand? index = some t ∧ d' = d := by
  unfold operand
  cases ctx.operand? index with
  | none => simp [fail, throw_apply]
  | some u => simp [pure_apply, eq_comm]

theorem read_eq_ok_iff {α : Type} {ctx : Context} {result : Except LookupFailure α} {a : α}
    {d d' : Draft} : ctx.read result d = .ok a d' ↔ result = .ok a ∧ d' = d := by
  unfold read
  rw [ofExcept_apply]
  cases result <;> simp [Except.mapError, eq_comm]

theorem read_bind_ok {α β : Type} {ctx : Context} {result : Except LookupFailure α}
    {f : α → Build β} {b : β} {d d' : Draft} (done : (ctx.read result >>= f) d = .ok b d') :
    ∃ a, result = .ok a ∧ f a d = .ok b d' := by
  obtain ⟨a, found, rest⟩ := (ctx.readOnly_read result).bind_ok done
  exact ⟨a, (read_eq_ok_iff.mp found).1, rest⟩

end Context

namespace Axes

/-- The tensor an axes form holds, if any, may be read. -/
def Known (given : List Tensor) (d : Draft) : Axes → Prop
  | fixed _ | none => True
  | Axes.given t | synthesized t => Draft.Known given d t

theorem allOf_grows {data : Tensor} (known : Draft.Known given d data) :
    Grows g given (allOf g data) d fun t d' => t ∈ d'.tensors := by
  unfold allOf
  refine (make_grows (by simpa using known)).bind fun lengths d₁ _ in₁ => ?_
  refine (make_grows (by simpa using known_of_drafted in₁)).bind fun rank d₂ _ in₂ => ?_
  refine (make_grows (by simpa using known_of_drafted in₂)).bind fun stop d₃ _ in₃ => ?_
  refine (constant_grows fun _ => Dense.holdsIntegers_of_ofInt).bind fun start d₄ to₄ in₄ => ?_
  refine (constant_grows fun _ => Dense.holdsIntegers_of_ofInt).bind fun step d₅ to₅ in₅ => ?_
  apply make_grows
  intro t member
  simp only [List.mem_cons, List.not_mem_nil, or_false] at member
  rcases member with rfl | rfl | rfl
  · exact Or.inr (Draft.Steps.tensors_subset to₅ in₄)
  · exact Or.inr (Draft.Steps.tensors_subset (to₄.trans to₅) in₃)
  · exact Or.inr in₅

theorem readOnly_checkFixed (ctx : Context) (values : List Int) (rank : Nat) :
    ReadOnly (checkFixed ctx values rank) := by
  unfold checkFixed
  split
  · exact ctx.readOnly_fail _
  · exact readOnly_pure _

theorem readOnly_checkCount (ctx : Context) (axes : Tensor) (rank : Nat) :
    ReadOnly (checkCount ctx axes rank) := by
  unfold checkCount
  split
  · split
    · exact ctx.readOnly_fail _
    · exact readOnly_pure _
  · exact readOnly_pure _

theorem readOnly_checkValues (ctx : Context) (axes : Tensor) (rank : Nat) :
    ReadOnly (checkValues ctx axes rank) := by
  unfold checkValues
  split
  · exact (readOnly_ofExcept _).bind fun _ => readOnly_checkFixed ctx _ _
  · exact readOnly_pure _

theorem readOnly_checkOperand (ctx : Context) (axes : Tensor) (rank : Nat) :
    ReadOnly (checkOperand ctx axes rank) :=
  (readOnly_checkCount ctx axes rank).bind fun _ => readOnly_checkValues ctx axes rank

theorem readOnly_whenRanked {data : Tensor} {check : Nat → Build Unit}
    (readOnly : ∀ rank, ReadOnly (check rank)) : ReadOnly (whenRanked data check) := by
  unfold whenRanked
  split
  · exact readOnly _
  · exact readOnly_pure _

variable {ctx : Context} {data : Tensor}

theorem every_grows (known : Draft.Known given d data) :
    Grows ctx.graph given (every ctx data) d fun axes d' => axes.Known given d' := by
  unfold every
  split
  · exact grows_pure trivial
  · refine (allOf_grows known).bind fun t d' _ drafted => ?_
    exact grows_pure (Or.inr drafted)

theorem whenAbsent_grows {noop : Int} (known : Draft.Known given d data) :
    Grows ctx.graph given (whenAbsent ctx data noop) d fun axes d' => axes.Known given d' := by
  unfold whenAbsent
  split
  · exact grows_pure trivial
  · refine (allOf_grows known).bind fun t d' _ drafted => ?_
    exact grows_pure (Or.inr drafted)

theorem fromAttribute_grows (known : Draft.Known given d data) :
    Grows ctx.graph given (fromAttribute ctx data) d
      fun axes d' => axes.Known given d' := by
  unfold fromAttribute
  refine (ctx.readOnly_read _).grows.bind fun values d₁ to₁ _ => ?_
  dsimp only
  split
  · exact every_grows (known.mono to₁)
  · refine (readOnly_whenRanked fun _ => readOnly_checkFixed ctx _ _).grows.bind
      fun _ d₂ _ _ => ?_
    exact grows_pure trivial

theorem fromInput_grows (operands : ctx.present ⊆ given) (known : Draft.Known given d data) :
    Grows ctx.graph given (fromInput ctx data) d fun axes d' => axes.Known given d' := by
  unfold fromInput
  refine (ctx.readOnly_read _).grows.bind fun noop d₁ to₁ _ => ?_
  split
  · exact whenAbsent_grows (known.mono to₁)
  · rename_i axes found
    have operand : Draft.Known given d₁ axes :=
      Or.inl (operands (Context.mem_present_of_operand? found))
    split
    · refine (ctx.readOnly_fail _).grows.mono fun _ _ _ impossible => ?_
      exact absurd impossible.2 (by simp [Context.fail, throw_apply])
    · split
      · exact whenAbsent_grows (known.mono to₁)
      · refine (readOnly_whenRanked fun _ => readOnly_checkOperand ctx _ _).grows.bind
          fun _ d₂ to₂ _ => ?_
        exact grows_pure (operand.mono to₂)

theorem resolve_grows (operands : ctx.present ⊆ given) (known : Draft.Known given d data)
    (policy : Option AxesPolicy) :
    Grows ctx.graph given (resolve ctx data policy) d fun axes d' => axes.Known given d' := by
  unfold resolve
  split
  · exact fromAttribute_grows known
  · exact fromInput_grows operands known
  · exact Relation.ReflTransGen.refl

theorem operand_grows {axes : Axes} (known : axes.Known given d) :
    Grows g given (axes.operand g) d fun t d' => Draft.Known given d' t := by
  unfold operand
  split
  · exact (constant_grows fun _ => Dense.holdsIntegers_of_ofInts).mono
      fun _ _ _ drafted => Or.inr drafted
  · exact grows_pure known
  · exact grows_pure known
  · exact Relation.ReflTransGen.refl

end Axes

namespace Reduction

variable {ctx : Context} {x : Tensor}

theorem prepare_grows (r : Reduction) (known : Draft.Known given d x) :
    Grows ctx.graph given (r.prepare ctx x) d fun t d' => Draft.Known given d' t := by
  have drafted : ∀ opType inputs, (∀ t ∈ inputs, Draft.Known given d t) →
      Grows ctx.graph given (ctx.make opType inputs []) d
        fun t d' => Draft.Known given d' t := by
    intro opType inputs known
    exact (make_grows known).mono fun _ _ _ drafted => Or.inr drafted
  cases r
  case logSumExp => exact drafted _ _ (by simpa using known)
  case sumSquare => exact drafted _ _ (by simpa using known)
  all_goals exact grows_pure known

theorem finish_grows (r : Reduction) (known : Draft.Known given d x) :
    Grows ctx.graph given (r.finish ctx x) d fun t d' => Draft.Known given d' t := by
  have drafted : Grows ctx.graph given (ctx.make "Log" [x] []) d
      fun t d' => Draft.Known given d' t :=
    (make_grows (by simpa using known)).mono fun _ _ _ drafted => Or.inr drafted
  cases r
  case logSum => exact drafted
  case logSumExp => exact drafted
  all_goals exact grows_pure known

theorem reduce_grows (r : Reduction) {keepDims : Bool} {axes : Axes}
    (known : Draft.Known given d x) (axesKnown : axes.Known given d) :
    Grows ctx.graph given (r.reduce ctx keepDims axes x) d
      fun t d' => Draft.Known given d' t := by
  unfold reduce
  split
  · exact grows_pure known
  · refine (Axes.operand_grows axesKnown).bind fun operand d₁ to₁ operandKnown => ?_
    have inputs : ∀ t ∈ [x, operand], Draft.Known given d₁ t := by
      intro t member
      simp only [List.mem_cons, List.not_mem_nil, or_false] at member
      rcases member with rfl | rfl
      · exact known.mono to₁
      · exact operandKnown
    exact (make_grows inputs).mono fun _ _ _ drafted => Or.inr drafted

theorem readOnly_checkType (regime : Regime) (ctx : Context) (x : Tensor) :
    ReadOnly (checkType regime ctx x) := by
  unfold checkType
  split
  · exact readOnly_pure _
  · exact ctx.readOnly_fail _

theorem lower_grows (r : Reduction) (regime : Regime) (ctx : Context) (d : Draft) :
    Grows ctx.graph ctx.present (r.lower regime ctx) d
      fun t d' => Draft.Known ctx.present d' t := by
  unfold lower
  refine (ctx.readOnly_operand 0).grows.bind fun data d₁ _ found => ?_
  have known : Draft.Known ctx.present d₁ data :=
    Or.inl (Context.mem_present_of_operand? (Context.operand_eq_ok_iff.mp found.2).1)
  refine (readOnly_checkType regime ctx data).grows.bind fun _ d₂ to₂ _ => ?_
  refine (ctx.readOnly_read _).grows.bind fun keepDims d₃ to₃ _ => ?_
  have known := known.mono (to₂.trans to₃)
  refine (Axes.resolve_grows (List.Subset.refl _) known _).bind fun axes d₄ to₄ axesKnown => ?_
  refine (prepare_grows r (known.mono to₄)).bind fun prepared d₅ to₅ preparedKnown => ?_
  have axesKnown : axes.Known ctx.present d₅ := by
    cases axes
    case given t => exact Draft.Known.mono axesKnown to₅
    case synthesized t => exact Draft.Known.mono axesKnown to₅
    all_goals trivial
  refine (reduce_grows r preparedKnown axesKnown).bind fun reduced d₆ _ reducedKnown => ?_
  exact finish_grows r reducedKnown

end Reduction

end ReductionIR
