import ReductionIR.Proofs.Atomicity
import ReductionIR.Proofs.Deciding
/-
Which nodes are lowered. The first reason that applies to a node and its operands decides how
its lowering fails, and without one it succeeds: what comes after the checks cannot fail.
-/
namespace ReductionIR

open Stepwise

namespace Registry

theorem resolve_of_other {operator : String} (other : operator ∉ SourceNode.operators)
    (opset : Int) : standard.resolve operator opset = .error (.unsupportedOperator operator) := by
  have unknown : ∀ r : Reduction, operator ≠ r.operator := by
    rintro r rfl
    exact other (by cases r <;> decide)
  unfold resolve
  rw [standard_entries_of_other unknown]

theorem resolve_of_early (r : Reduction) {opset : Int} (early : opset < 1) :
    standard.resolve r.operator opset = .error (.unsupportedVersion r.operator opset 1) := by
  unfold resolve
  rw [standard_entries, Reduction.entries_eq]
  simp only [newest?_entries_of_early r early]
  rfl

end Registry

namespace Lowering

variable {ctx : Context} {entry : Entry} {r : Reduction}

theorem runEntry_of_error (routine : entry.routine = r.routine) {fault : Fault} {d : Draft}
    (failed : r.lower entry.toRegime ctx (blank ctx.node ctx.graph) = .error fault d) :
    runEntry entry ctx = (.error (blame ctx.node fault), { ctx.graph with counter := d.counter }) := by
  have drafted : draftWith entry ctx (blank ctx.node ctx.graph) = .error fault d := by
    rw [draftWith_routine routine]
    exact bind_eq_error_iff.mpr (Or.inl failed)
  unfold blank at drafted
  simp only [runEntry, Draft.run, EStateM.run, drafted]

theorem blame_of_rejected (node : SourceNode) {fault : Fault} {kind : FailureKind}
    (ends : fault.EndsAs (.rejected kind)) :
    ∃ failure, blame node fault = .node failure ∧ failure.kind = kind := by
  cases fault
  case node cause => exact ⟨cause, rfl, ends⟩
  case lookup cause => exact ⟨_, rfl, ends⟩
  all_goals exact ends.elim

theorem blame_of_broken (node : SourceNode) {fault : Fault} (ends : fault.EndsAs .broken) :
    ∃ failure, blame node fault = .bare failure := by
  cases fault
  case bare cause => exact ⟨cause, rfl⟩
  all_goals exact ends.elim

end Lowering

section Endings

variable (node : SourceNode) (operands : List (Option Tensor)) (g : Graph)

/-- An operator that is not known is rejected before anything else is looked at. -/
theorem lowerNode_of_other (other : node.opType ∉ SourceNode.operators) :
    firstReason (node.endings operands) = some (.rejected .unsupportedOperator) ∧
      ∃ failure : NodeFailure, lowerNode .standard node operands g = (.error (.node failure), g) ∧
        failure.kind = .unsupportedOperator := by
  have rejected := Registry.resolve_of_other other node.opset
  constructor
  · simp only [SourceNode.endings, SourceNode.formReasons, Ending.ofReasons, List.cons_append,
      List.map_cons, firstReason_cons, List.contains_eq_mem, other, decide_false, Bool.not_false,
      ↓reduceIte]
  · rw [lowerNode, rejected]
    exact ⟨_, rfl, rfl⟩

theorem lowerNode_of_early {r : Reduction} (known : node.opType = r.operator)
    (early : node.opset < 1) :
    firstReason (node.endings operands) = some (.rejected .unsupportedOperatorVersion) ∧
      ∃ failure : NodeFailure, lowerNode .standard node operands g = (.error (.node failure), g) ∧
        failure.kind = .unsupportedOperatorVersion := by
  have listed : node.opType ∈ SourceNode.operators := by
    rw [known]
    cases r <;> decide
  have rejected := Registry.resolve_of_early r early
  rw [← known] at rejected
  constructor
  · simp only [SourceNode.endings, SourceNode.formReasons, Ending.ofReasons, List.cons_append,
      List.map_cons, firstReason_cons, List.contains_eq_mem, listed, early, decide_true,
      Bool.not_true, Bool.false_eq_true, ↓reduceIte]
  · rw [lowerNode, rejected]
    exact ⟨_, rfl, rfl⟩

theorem lowerNode_decided :
    match firstReason (node.endings operands) with
    | some (.rejected kind) => ∃ failure : NodeFailure,
        lowerNode .standard node operands g = (.error (.node failure), g) ∧ failure.kind = kind
    | some .broken => ∃ failure g', lowerNode .standard node operands g = (.error (.bare failure), g')
    | none => ∃ t g', lowerNode .standard node operands g = (.ok [t], g') := by
  by_cases listed : node.opType ∈ SourceNode.operators
  case neg =>
    obtain ⟨first, failure, outcome, ofKind⟩ := lowerNode_of_other node operands g listed
    rw [first]
    exact ⟨failure, outcome, ofKind⟩
  obtain ⟨r, _, same⟩ : ∃ r ∈ Reduction.all, r.operator = node.opType := List.mem_map.mp listed
  have known := same.symm
  by_cases late : 1 ≤ node.opset
  case neg =>
    obtain ⟨first, failure, outcome, ofKind⟩ :=
      lowerNode_of_early node operands g known (Int.not_le.mp late)
    rw [first]
    exact ⟨failure, outcome, ofKind⟩
  let ctx : Context := { node, operands, graph := g }
  have decided := Reduction.decided_lower ctx known late (Lowering.blank node g)
  have step : lowerNode .standard node operands g =
      Lowering.runEntry (r.entryAt node.opset) ctx := by
    rw [lowerNode, Registry.standard_resolve_eq_ok_iff.mpr ⟨r, known, late, rfl⟩]
  cases first : firstReason (node.endings operands) with
  | none =>
    rw [first] at decided
    obtain ⟨t, d, done, _⟩ := decided
    exact ⟨t, _, lowerNode_of_lower known late done⟩
  | some ending =>
    rw [first] at decided
    obtain ⟨fault, d, failed, ends⟩ := decided
    have outcome := step.trans (Lowering.runEntry_of_error (r.routine_entryAt node.opset) failed)
    cases ending with
    | rejected kind =>
      obtain ⟨failure, same, ofKind⟩ := Lowering.blame_of_rejected node ends
      -- a failure that is blamed on the node leaves the graph as it was
      obtain ⟨unchanged, _⟩ := (lowerNode_eq_error outcome).2.resolve_right fun other =>
        other (same ▸ trivial)
      rw [same, unchanged] at outcome
      exact ⟨failure, outcome, ofKind⟩
    | broken =>
      obtain ⟨failure, same⟩ := Lowering.blame_of_broken node ends
      rw [same] at outcome
      exact ⟨failure, _, outcome⟩

end Endings

/-- Axes of an attribute are integers of 64 bits, a constant of axes holds integers, and no shape
    is longer than a list can be. -/
structure SourceNode.WellTyped (node : SourceNode) (operands : List (Option Tensor)) : Prop where
  fixed : ∀ axis ∈ node.axesAttribute, fitsInt64 axis = true
  held : ∀ t array, operands[1]?.join = some t → t.data = some array →
    ∀ v ∈ array.elements, ∃ n, v = .int n
  listed : ∀ t rank, operands[0]?.join = some t → t.rank? = some rank → rank ≤ 9223372036854775808

theorem Dense.integers_of_ints {array : Dense} (ints : ∀ v ∈ array.elements, ∃ n, v = .int n) :
    ∃ values, array.integers = .ok values := by
  unfold integers
  generalize array.elements = elements at ints
  induction elements with
  | nil => exact ⟨[], rfl⟩
  | cons v rest ih =>
    obtain ⟨n, rfl⟩ := ints v (List.mem_cons_self ..)
    obtain ⟨values, done⟩ := ih fun v later => ints v (List.mem_cons_of_mem _ later)
    rw [List.mapM_cons, done]
    exact ⟨_, rfl⟩

namespace SourceNode.WellTyped

variable {node : SourceNode} {operands : List (Option Tensor)}

theorem not_unreadable (typed : node.WellTyped operands) : node.isUnreadable operands = false := by
  unfold isUnreadable axesOperand?
  cases named : operands[1]?.join with
  | none => simp
  | some t =>
    have readable : t.isUnreadable = false := by
      unfold Tensor.isUnreadable
      cases stored : t.data with
      | none => rfl
      | some array =>
        obtain ⟨values, done⟩ := Dense.integers_of_ints (typed.held t array named stored)
        rw [Option.any_some, done]
        rfl
    simp [Option.filter_some, apply_ite, readable]

theorem not_overflowing (typed : node.WellTyped operands) :
    node.isOverflowing operands = false := by
  unfold isOverflowing
  split
  · have short : ((rank? operands).any fun rank => decide (9223372036854775808 < rank)) = false := by
      unfold rank? data?
      cases found : operands[0]?.join with
      | none => rfl
      | some t =>
        cases known : t.rank? with
        | none => simp [known]
        | some rank =>
          have below := typed.listed t rank found known
          simpa [known] using below
    rw [short, Bool.and_false]
  · have fits : (node.axesAttribute.any fun axis => !fitsInt64 axis) = false := by
      refine List.any_eq_false.mpr fun axis member => ?_
      simp [typed.fixed axis member]
    rw [fits, Bool.and_false]

theorem firstReason_endings (typed : node.WellTyped operands) :
    firstReason (node.endings operands) =
      (firstReason (node.reasons operands)).map Ending.rejected := by
  unfold endings
  rw [typed.not_unreadable, typed.not_overflowing]
  simp [reasons, Ending.ofReasons, firstReason_map, Option.map_or]

end SourceNode.WellTyped

/-- A node is lowered unless a reason rejects it, and the first such reason tells the kind of the
    failure. -/
theorem lowering_is_decided_by_first_reason (node : SourceNode) (operands : List (Option Tensor))
    (g : Graph) (typed : node.WellTyped operands) :
    match firstReason (node.reasons operands) with
    | some kind => ∃ failure : NodeFailure,
        lowerNode .standard node operands g = (.error (.node failure), g) ∧ failure.kind = kind
    | none => ∃ t g', lowerNode .standard node operands g = (.ok [t], g') := by
  have decided := lowerNode_decided node operands g
  rw [typed.firstReason_endings] at decided
  cases first : firstReason (node.reasons operands) with
  | some kind =>
    rw [first] at decided
    exact decided
  | none =>
    rw [first] at decided
    exact decided

/-- A log-sum-exp that is read with an axes operand. -/
def axesLogSumExp : SourceNode := { opType := "ReduceLogSumExp", opset := 18 }

def cubeOfFloats : Tensor :=
  { dtype := .bfloat16, shape := .ranked [.named "n", .anonymous, .known 4], data := none,
    origin := .given 0, id := "x", name := "x" }

/-- A constant matrix of axes. -/
def matrixOfAxes (axes : List Int) : Tensor :=
  .constant (.given 1) "axes" ⟨.int32, [1, axes.length], axes.map .int⟩

/-- Counted in a list the axes would be too many for a smaller rank; here the last one is out of
    range, and without it the node is lowered. -/
theorem matrix_of_axes_is_checked :
    (∃ failure : NodeFailure, lowerNode .standard axesLogSumExp
        [some cubeOfFloats, some (matrixOfAxes [0, -1, 3])] { name := "g" } =
          (.error (.node failure), { name := "g" }) ∧ failure.kind = .axisOutOfRange) ∧
      ∃ t g', lowerNode .standard axesLogSumExp
        [some cubeOfFloats, some (matrixOfAxes [0, -1])] { name := "g" } = (.ok [t], g') := by
  have typed : ∀ axes, axesLogSumExp.WellTyped [some cubeOfFloats, some (matrixOfAxes axes)] := by
    intro axes
    constructor
    · intro axis member
      cases member
    · intro t array named stored v member
      cases named
      cases stored
      obtain ⟨n, _, rfl⟩ := List.mem_map.mp member
      exact ⟨n, rfl⟩
    · intro t rank found known
      cases found
      cases known
      decide
  exact ⟨lowering_is_decided_by_first_reason axesLogSumExp _ { name := "g" } (typed [0, -1, 3]),
    lowering_is_decided_by_first_reason axesLogSumExp _ { name := "g" } (typed [0, -1])⟩

end ReductionIR
