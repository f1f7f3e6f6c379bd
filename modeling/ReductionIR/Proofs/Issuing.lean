import ReductionIR.Proofs.Editing
/-
New ids over whole runs. The search for a number ends at the first free one. Ids are handed out
with growing numbers, whether a caller asks for them, a draft takes them or a lowering that fails
has used them up; and since the number can be read off an id, none is handed out twice.
-/
namespace ReductionIR

namespace Graph

/-- The search for a new id: the counter goes up by one until the id of its number is free. -/
inductive Searches (g : Graph) (stem : String) : Nat → Nat → Prop
  | found {counter : Nat} (free : g.isTaken (numbered stem (counter + 1)) = false) :
      Searches g stem counter (counter + 1)
  | next {counter n : Nat} (taken : g.isTaken (numbered stem (counter + 1)) = true)
      (later : Searches g stem (counter + 1) n) : Searches g stem counter n

variable {g : Graph} {stem : String} {counter : Nat}

theorem Searches.unique {m n : Nat} (first : g.Searches stem counter m)
    (second : g.Searches stem counter n) : m = n := by
  induction first with
  | found free =>
    cases second with
    | found _ => rfl
    | next taken _ =>
      rw [free] at taken
      contradiction
  | next taken _ ih =>
    cases second with
    | found free =>
      rw [free] at taken
      contradiction
    | next _ later => exact ih later

theorem searches_freeFrom {steps : Nat}
    (free : g.isTaken (numbered stem (g.freeFrom stem steps (counter + 1))) = false) :
    g.Searches stem counter (g.freeFrom stem steps (counter + 1)) := by
  induction steps generalizing counter with
  | zero => exact .found free
  | succ steps ih =>
    unfold freeFrom at free ⊢
    split at free
    · rename_i taken
      rw [if_pos taken]
      exact .next taken (ih free)
    · rename_i notTaken
      rw [if_neg notTaken]
      exact .found free

/-- The bound on the steps never cuts a search short. -/
theorem searches_freeNumber (g : Graph) (stem : String) (counter : Nat) :
    g.Searches stem counter (g.freeNumber stem counter) :=
  searches_freeFrom (g.freeNumber_is_free stem counter)

theorem freeFrom_le (g : Graph) (stem : String) (steps n : Nat) :
    g.freeFrom stem steps n ≤ n + steps := by
  induction steps generalizing n with
  | zero => exact Nat.le_refl n
  | succ steps ih =>
    unfold freeFrom
    split
    · have later := ih (n + 1)
      omega
    · omega

/-- Ids of numbers above one counter and up to a later one, each once. -/
structure Issued (low high : Nat) (ids : List String) : Prop where
  le : low ≤ high
  once : ids.Nodup
  numbers : ∀ id ∈ ids, ∃ stem n, low < n ∧ n ≤ high ∧ id = numbered stem n

namespace Issued

variable {low middle high : Nat} {ids more : List String}

theorem nil (le : low ≤ high) : Issued low high [] :=
  ⟨le, List.nodup_nil, fun _ member => nomatch member⟩

theorem single {n : Nat} (above : low < n) : Issued low n [numbered stem n] where
  le := Nat.le_of_lt above
  once := List.nodup_singleton _
  numbers := by
    intro id member
    exact ⟨stem, n, above, Nat.le_refl n, List.mem_singleton.mp member⟩

/-- What is handed out later has greater numbers, so it is nothing that was handed out before. -/
theorem append (first : Issued low middle ids) (second : Issued middle high more) :
    Issued low high (ids ++ more) where
  le := Nat.le_trans first.le second.le
  once := by
    refine first.once.append second.once ?_
    intro id early late
    obtain ⟨s, m, _, bound, rfl⟩ := first.numbers id early
    obtain ⟨t, n, above, _, same⟩ := second.numbers _ late
    have equal := number_eq_of_numbered_eq same
    omega
  numbers := by
    intro id member
    rcases List.mem_append.mp member with early | late
    · obtain ⟨s, n, above, bound, same⟩ := first.numbers id early
      exact ⟨s, n, above, Nat.le_trans bound second.le, same⟩
    · obtain ⟨s, n, above, bound, same⟩ := second.numbers id late
      exact ⟨s, n, Nat.lt_of_le_of_lt first.le above, bound, same⟩

theorem ne_resultId (issued : Issued low high ids) {id : String} (member : id ∈ ids)
    (op : String) : id ≠ resultId op := by
  obtain ⟨s, n, _, _, rfl⟩ := issued.numbers id member
  exact (resultId_ne_numbered op s n).symm

end Issued

end Graph

/-! Ids of drafts -/

namespace Draft

theorem run_eq {α : Type} (d : Draft) (g : Graph) (steps : Build α) :
    d.run g steps =
      match steps { d with counter := g.counter } with
      | .ok a d' => (.ok a, d', { g with counter := d'.counter })
      | .error fault d' => (.error fault, d', { g with counter := d'.counter }) := rfl

theorem run_make (d : Draft) (g : Graph) (opType : String) (inputs : List Tensor)
    (attributes : Fields) : d.run g (make g opType inputs attributes) =
      match infer opType (inputs.map Tensor.toFacts) attributes with
      | .ok inferred =>
        (.ok (output opType (g.freeNumber opType g.counter) inferred),
          { d with counter := g.counter }.withOp g opType inputs attributes inferred,
          (g.freshId opType).2)
      | .error fault => (.error fault, { d with counter := g.counter }, g) := by
  unfold make
  cases infer opType (inputs.map Tensor.toFacts) attributes <;> rfl

theorem run_constant (d : Draft) (g : Graph) (data : Except Breakdown Dense) (stem : String) :
    d.run g (constant g data stem) =
      match data with
      | .ok data =>
        (.ok ({ d with counter := g.counter }.nextConstant g stem data),
          { d with counter := g.counter }.withConstant g stem data, (g.freshId stem).2)
      | .error failure => (.error (.bare failure), { d with counter := g.counter }, g) := by
  unfold constant
  cases data <;> rfl

/-- The ids that a draft has taken: those of its operators and of its constants. -/
def ids (d : Draft) : List String :=
  d.ops.map Op.id ++ (d.tensors.filter Tensor.isConstant).map Tensor.id

variable {g : Graph} {given : List Tensor} {start : Nat} {d : Draft}

/-- A constant and the result of an operator never come of one number. -/
theorem Sound.opId_ne_constant (sound : Sound g given start d) {op : Op} (drafted : op ∈ d.ops)
    {t : Tensor} (stored : t ∈ d.tensors.filter Tensor.isConstant) : op.id ≠ t.id := by
  intro same
  obtain ⟨member, constant⟩ := List.mem_filter.mp stored
  obtain ⟨n, _, _, new⟩ := sound.newOps op drafted
  obtain ⟨inferred, result⟩ := new.result
  obtain ⟨m, _, _, made⟩ := sound.made t member
  obtain ⟨stem, named, _⟩ | ⟨_, _, empty⟩ := made.id_eq
  · have number : n = m :=
      Graph.number_eq_of_numbered_eq (new.id_eq.symm.trans (same.trans named))
    have origin : (output op.opType n inferred).origin = t.origin := by
      rw [made.origin_eq, ← number]
      rfl
    have one := List.inj_on_of_nodup_map sound.origins_nodup result member origin
    rw [← one] at constant
    contradiction
  · rw [Tensor.isConstant, empty] at constant
    contradiction

theorem Sound.issued (sound : Sound g given start d) : Graph.Issued start d.counter d.ids where
  le := sound.start_le
  once := by
    refine sound.opIds_nodup.append ?_ ?_
    · exact sound.ids_nodup.sublist (List.filter_sublist.map Tensor.id)
    · intro id ofOp ofConstant
      obtain ⟨op, drafted, rfl⟩ := List.mem_map.mp ofOp
      obtain ⟨t, stored, same⟩ := List.mem_map.mp ofConstant
      exact sound.opId_ne_constant drafted stored same.symm
  numbers := by
    intro id member
    rcases List.mem_append.mp member with ofOp | ofConstant
    · obtain ⟨op, drafted, rfl⟩ := List.mem_map.mp ofOp
      obtain ⟨n, above, bound, new⟩ := sound.newOps op drafted
      exact ⟨op.opType, n, above, bound, new.id_eq⟩
    · obtain ⟨t, stored, rfl⟩ := List.mem_map.mp ofConstant
      obtain ⟨drafted, constant⟩ := List.mem_filter.mp stored
      obtain ⟨n, above, bound, made⟩ := sound.made t drafted
      obtain ⟨stem, named, _⟩ | ⟨_, _, empty⟩ := made.id_eq
      · exact ⟨stem, n, above, bound, named⟩
      · rw [Tensor.isConstant, empty] at constant
        contradiction

end Draft

/-- What the lowering of a node has drafted when it ends, or when it fails. -/
def Lowering.draftOf (source : SourceNode) (operands : List (Option Tensor)) (g : Graph) : Draft :=
  match Registry.standard.resolve source.opType source.opset with
  | .error _ => blank source g
  | .ok entry => ((blank source g).run g (draftWith entry { node := source, operands, graph := g })).2.1

namespace Lowering

variable (source : SourceNode) (operands : List (Option Tensor)) (g : Graph)

theorem sound_draftOf :
    Draft.Sound g (operands.filterMap id) g.counter (draftOf source operands g) := by
  unfold draftOf
  split
  · exact Draft.sound_blank _ _ _ _
  · rename_i entry found
    obtain ⟨r, _, _, rfl⟩ := Registry.standard_resolve_eq_ok_iff.mp found
    rw [Draft.run_eq]
    cases run : draftWith (r.entryAt source.opset) { node := source, operands, graph := g }
        { blank source g with counter := g.counter } with
    | ok outputs d =>
      rw [draftWith_routine (r.routine_entryAt source.opset)] at run
      obtain ⟨t, middle, lowered, finished⟩ := Stepwise.bind_eq_ok_iff.mp run
      cases finished
      exact ((r.lower_grows _ _ _).of_ok lowered).1.sound (Draft.sound_blank _ _ _ _)
    | error fault d =>
      have failed := lower_of_draftWith_error (r.routine_entryAt source.opset) run
      exact ((r.lower_grows _ _ _).of_error failed).sound (Draft.sound_blank _ _ _ _)

/-- The counter of the graph goes on from where the draft ends, whatever becomes of the draft. -/
theorem counter_lowerNode :
    (lowerNode .standard source operands g).2.counter = (draftOf source operands g).counter := by
  unfold lowerNode draftOf runEntry Draft.run EStateM.run
  cases Registry.standard.resolve source.opType source.opset with
  | error cause => rfl
  | ok entry =>
    dsimp only [blank]
    cases draftWith entry { node := source, operands, graph := g }
        { counter := g.counter, source? := some source.location } with
    | ok outputs d => exact Draft.counter_attach ..
    | error fault d => rfl

end Lowering

/-! Runs -/

/-- What may go on while ids are handed out: a caller changes a graph, asks for an id or has a node
    lowered; or drafts that are still open take ids for operators and constants, and are
    committed some time later. -/
inductive Event
  | edit (edit : Edit)
  | make (d : Draft) (opType : String) (inputs : List Tensor) (attributes : Fields)
  | constant (d : Draft) (data : Except Breakdown Dense) (stem : String)
  | commit (d : Draft)

/-- The ids that a step hands out. -/
def Edit.ids (g : Graph) : Edit → List String
  | fresh stem => [(g.freshId stem).1]
  | lower source operands => (Lowering.draftOf source operands g).ids
  | input _ | output _ | constant _ | tensor _ | node _ => []

namespace Event

def apply (g : Graph) : Event → Graph
  | edit e => e.apply g
  | make d opType inputs attributes => (d.run g (Draft.make g opType inputs attributes)).2.2
  | constant d data stem => (d.run g (Draft.constant g data stem)).2.2
  | commit d => (d.commit g).2

/-- The ids handed out: those of the operators or constants that an open draft gains. -/
def ids (g : Graph) : Event → List String
  | edit e => e.ids g
  | make d opType inputs attributes =>
    ((d.run g (Draft.make g opType inputs attributes)).2.1.ops.drop d.ops.length).map Op.id
  | constant d data stem =>
    ((d.run g (Draft.constant g data stem)).2.1.tensors.drop d.tensors.length).map Tensor.id
  | commit _ => []

/-- The ids that a run hands out, in order. -/
def issued (g : Graph) : List Event → List String
  | [] => []
  | event :: rest => event.ids g ++ issued (event.apply g) rest

/-- The graph that a run ends with. -/
def ending (g : Graph) (events : List Event) : Graph := events.foldl apply g

theorem issued_ids (event : Event) (g : Graph) :
    Graph.Issued g.counter (event.apply g).counter (event.ids g) := by
  -- edits take no numbers, but for a fresh id and the draft of a lowering
  cases event with
  | edit e =>
    cases e with
    | fresh stem => exact .single (g.counter_lt_freeNumber stem g.counter)
    | lower source operands =>
      rw [apply, Edit.apply, Lowering.counter_lowerNode]
      exact (Lowering.sound_draftOf source operands g).issued
    | input t => exact .nil (Edit.counter_le _ g)
    | output t => exact .nil (Edit.counter_le _ g)
    | constant t => exact .nil (Edit.counter_le _ g)
    | tensor t => exact .nil (Edit.counter_le _ g)
    | node op => exact .nil (Edit.counter_le _ g)
  | make d opType inputs attributes =>
    rw [apply, ids, Draft.run_make]
    cases infer opType (inputs.map Tensor.toFacts) attributes with
    | error fault =>
      rw [List.drop_length]
      exact .nil (Nat.le_refl _)
    | ok inferred =>
      have gained : ({ d with counter := g.counter }.withOp g opType inputs attributes inferred).ops =
          d.ops ++ [_] := rfl
      rw [gained, List.drop_left]
      exact .single (g.counter_lt_freeNumber opType g.counter)
  | constant d data stem =>
    rw [apply, ids, Draft.run_constant]
    cases data with
    | error failure =>
      rw [List.drop_length]
      exact .nil (Nat.le_refl _)
    | ok data =>
      have gained : ({ d with counter := g.counter }.withConstant g stem data).tensors =
          d.tensors ++ [_] := rfl
      rw [gained, List.drop_left]
      exact .single (g.counter_lt_freeNumber stem g.counter)
  | commit d =>
    refine .nil (Nat.le_of_eq ?_)
    rw [apply, Draft.commit]
    split
    · rfl
    · exact (Draft.counter_attach ..).symm

theorem issued_run (events : List Event) (g : Graph) :
    Graph.Issued g.counter (ending g events).counter (issued g events) := by
  induction events generalizing g with
  | nil => exact .nil (Nat.le_refl _)
  | cons event rest ih => exact (event.issued_ids g).append (ih (event.apply g))

/-- Stems that end in a number themselves do not matter. -/
example : issued { name := "g" } [.edit (.fresh "a"), .edit (.fresh "a_2"), .edit (.fresh "a")] =
    ["a_1", "a_2_2", "a_3"] := by decide +kernel

end Event

/-- A search for a new id ends, with an id that is in neither table; and over any run no id is
    handed out twice, nor is one the id of the result that belongs to another. -/
theorem new_ids_are_free_and_never_repeated (g : Graph) :
    (∀ stem, ∃ n, g.Searches stem g.counter n ∧ (∀ m, g.Searches stem g.counter m → m = n) ∧
      n ≤ g.counter + g.tensors.size + g.ops.size + 1 ∧
      g.freshId stem = (Graph.numbered stem n, { g with counter := n }) ∧
      g.tensors.find? (Graph.numbered stem n) = none ∧
      g.ops.find? (Graph.numbered stem n) = none) ∧
    ∀ events : List Event, (Event.issued g events).Nodup ∧
      ∀ id ∈ Event.issued g events, ∀ other ∈ Event.issued g events, id ≠ Graph.resultId other := by
  constructor
  · intro stem
    have ends := g.searches_freeNumber stem g.counter
    have bound := g.freeFrom_le stem (g.tensors.size + g.ops.size) (g.counter + 1)
    obtain ⟨noTensor, noOp⟩ :=
      (g.isTaken_eq_false_iff _).mp (g.freeNumber_is_free stem g.counter)
    refine ⟨g.freeNumber stem g.counter, ends, fun m other => other.unique ends, ?_, rfl, noTensor,
      noOp⟩
    unfold Graph.freeNumber
    omega
  · intro events
    have issued := Event.issued_run events g
    exact ⟨issued.once, fun id member other _ => issued.ne_resultId member other⟩

/-- A run over a graph that has an operator `Log_2`: a lowering that fails after it took an id, an
    open draft that takes the next free one, and two callers. -/
def mixedRun : List Event :=
  [.edit (.node { id := "Log_2", opType := "Log" }),
   .edit (.lower overflowingNode [some unrankedData]),
   .make { counter := 0 } "Log" [unrankedData] [],
   .edit (.fresh "Exp"),
   .edit (.fresh "Exp_4")]

theorem four_ids_are_told_apart :
    Event.issued { name := "g" } mixedRun = ["Exp_1", "Log_3", "Exp_4", "Exp_4_5"] ∧
      (Event.issued { name := "g" } mixedRun).Nodup ∧ "Exp_4" ≠ Graph.resultId "Exp_1" := by
  have all : Event.issued { name := "g" } mixedRun = ["Exp_1", "Log_3", "Exp_4", "Exp_4_5"] := by
    decide +kernel
  obtain ⟨once, apart⟩ := (new_ids_are_free_and_never_repeated { name := "g" }).2 mixedRun
  refine ⟨all, once, apart _ ?_ _ ?_⟩
  · rw [all]
    decide
  · rw [all]
    decide

end ReductionIR
