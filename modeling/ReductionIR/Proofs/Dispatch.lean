import ReductionIR.Proofs.Building
import ReductionIR.Proofs.Registering
/-
Which entry a node goes to. The standard registry holds two entries for each reduction,
and the opset of the node alone decides between them.
-/
namespace ReductionIR

namespace Reduction

theorem operator_injective {r s : Reduction} (same : r.operator = s.operator) : r = s := by
  cases r <;> cases s <;> simp [operator] at same ⊢

theorem one_lt_operandSince (r : Reduction) : 1 < r.operandSince := by
  cases r <;> decide

/-- The first of the two entries. -/
def attributeEntry (r : Reduction) : Entry :=
  { operator := r.operator, since := 1, routine := r.routine, types := baseTypes,
    policy := some .fromAttribute }

/-- The second of the two entries. -/
def inputEntry (r : Reduction) : Entry :=
  { operator := r.operator, since := r.operandSince, routine := r.routine,
    types := extendedTypes, policy := some .fromInput }

theorem entries_eq (r : Reduction) : r.entries = [r.attributeEntry, r.inputEntry] := rfl

/-- The entry that an opset from 1 on selects. -/
def entryAt (r : Reduction) (opset : Int) : Entry :=
  if opset < r.operandSince then r.attributeEntry else r.inputEntry

theorem routine_entryAt (r : Reduction) (opset : Int) :
    (r.entryAt opset).routine = r.routine := by
  unfold entryAt
  split <;> rfl

end Reduction

namespace Registry

open Reduction

theorem exists_standard : ∃ b : Builder, standard = b.build ∧ b.Holds reductionEntries := by
  obtain ⟨b, done, holds⟩ := Builder.holds_empty.registerAll reductionEntries (by decide)
  exact ⟨b, by rw [standard, done], holds⟩

theorem standard_entries (r : Reduction) : standard.entries r.operator = r.entries := by
  obtain ⟨b, same, holds⟩ := exists_standard
  rw [same, holds.entries_build]
  cases r <;> rfl

theorem standard_entries_of_other {operator : String}
    (other : ∀ r : Reduction, operator ≠ r.operator) : standard.entries operator = [] := by
  obtain ⟨b, same, holds⟩ := exists_standard
  rw [same, holds.entries_eq_nil_iff]
  rintro ⟨e, listed, rfl⟩
  obtain ⟨r, _, member⟩ := List.mem_flatMap.mp listed
  refine other r ?_
  rw [entries_eq] at member
  rcases List.mem_pair.mp member with rfl | rfl <;> rfl

theorem inOrder_entries (r : Reduction) : InOrder [r.attributeEntry, r.inputEntry] :=
  List.pairwise_pair.mpr r.one_lt_operandSince

theorem newest?_entries_of_early (r : Reduction) {opset : Int} (early : opset < 1) :
    newest? [r.attributeEntry, r.inputEntry] opset = none := by
  have later := r.one_lt_operandSince
  rw [newest?_eq_none_iff (inOrder_entries r)]
  intro e member
  rcases List.mem_pair.mp member with rfl | rfl
  · exact early
  · exact Int.lt_trans early later

theorem newest?_entries (r : Reduction) {opset : Int} (late : 1 ≤ opset) :
    newest? [r.attributeEntry, r.inputEntry] opset = some (r.entryAt opset) := by
  rw [newest?_eq (inOrder_entries r)]
  unfold entryAt
  by_cases before : opset < r.operandSince
  · have second : ¬ r.operandSince ≤ opset := by omega
    simp [attributeEntry, inputEntry, late, second, before]
  · have second : r.operandSince ≤ opset := by omega
    simp [attributeEntry, inputEntry, late, second, before]

/-- The standard registry knows the reductions from opset 1 on, and no other operator. -/
theorem standard_resolve_eq_ok_iff {operator : String} {opset : Int} {entry : Entry} :
    standard.resolve operator opset = .ok entry ↔
      ∃ r : Reduction, operator = r.operator ∧ 1 ≤ opset ∧ entry = r.entryAt opset := by
  unfold resolve
  by_cases known : ∃ r : Reduction, operator = r.operator
  · obtain ⟨r, rfl⟩ := known
    rw [standard_entries, entries_eq]
    have only : (∃ s : Reduction, r.operator = s.operator ∧ 1 ≤ opset ∧
        entry = s.entryAt opset) ↔ 1 ≤ opset ∧ entry = r.entryAt opset := by
      constructor
      · rintro ⟨s, same, rest⟩
        exact operator_injective same ▸ rest
      · intro rest
        exact ⟨r, rfl, rest⟩
    rw [only]
    by_cases early : opset < 1
    · simp only [newest?_entries_of_early r early, reduceCtorEq, false_iff]
      omega
    · have late : 1 ≤ opset := by omega
      simp only [newest?_entries r late, Except.ok.injEq, late, true_and, eq_comm]
  · have other : ∀ r : Reduction, operator ≠ r.operator := fun r same => known ⟨r, same⟩
    rw [standard_entries_of_other other]
    simp only [reduceCtorEq, false_iff]
    rintro ⟨r, same, _⟩
    exact known ⟨r, same⟩

end Registry

namespace Lowering

variable {ctx : Context} {entry : Entry} {r : Reduction}

theorem draftWith_routine (routine : entry.routine = r.routine) :
    draftWith entry ctx = r.lower entry.toRegime ctx >>= fun t => pure [t] := by
  unfold draftWith
  rw [routine]
  funext d
  cases lowered : r.lower entry.toRegime ctx d <;>
    simp [Reduction.routine, bind, EStateM.bind, lowered, pure, EStateM.pure]

end Lowering

/-- The draft that the lowering of a node starts from. -/
def Lowering.blank (node : SourceNode) (g : Graph) : Draft :=
  { counter := g.counter, source? := some node.location }

/-- A node that is lowered is one of the reductions: the graph takes in its draft. -/
theorem lowerNode_eq_ok {node : SourceNode} {operands : List (Option Tensor)} {g g' : Graph}
    {outputs : List Tensor} (done : lowerNode .standard node operands g = (.ok outputs, g')) :
    ∃ (r : Reduction) (t : Tensor) (d : Draft), node.opType = r.operator ∧ 1 ≤ node.opset ∧
      outputs = [t] ∧
      r.lower (r.entryAt node.opset).toRegime { node, operands, graph := g }
        (Lowering.blank node g) = .ok t d ∧
      g' = d.attach { g with counter := d.counter } := by
  unfold lowerNode at done
  split at done
  · simp at done
  · rename_i entry found
    obtain ⟨r, known, late, rfl⟩ := Registry.standard_resolve_eq_ok_iff.mp found
    unfold Lowering.runEntry Draft.run at done
    dsimp only [EStateM.run] at done
    rw [Lowering.draftWith_routine (r.routine_entryAt node.opset)] at done
    split at done
    · rename_i run
      split at run
      · rename_i both
        obtain ⟨t, d, lowered, finished⟩ := Stepwise.bind_eq_ok_iff.mp both
        rw [Stepwise.pure_apply] at finished
        cases finished
        cases run
        simp only [Prod.mk.injEq, Except.ok.injEq] at done
        exact ⟨r, t, _, known, late, done.1.symm, lowered, done.2.symm⟩
      · simp at run
    · simp at done

theorem lowerNode_of_lower {node : SourceNode} {operands : List (Option Tensor)} {g : Graph}
    {r : Reduction} {t : Tensor} {d : Draft} (known : node.opType = r.operator)
    (late : 1 ≤ node.opset)
    (done : r.lower (r.entryAt node.opset).toRegime { node, operands, graph := g }
      (Lowering.blank node g) = .ok t d) :
    lowerNode .standard node operands g = (.ok [t], d.attach { g with counter := d.counter }) := by
  have entry : Registry.standard.resolve node.opType node.opset = .ok (r.entryAt node.opset) :=
    Registry.standard_resolve_eq_ok_iff.mpr ⟨r, known, late, rfl⟩
  have drafted : Lowering.draftWith (r.entryAt node.opset) { node, operands, graph := g }
      (Lowering.blank node g) = .ok [t] d := by
    rw [Lowering.draftWith_routine (r.routine_entryAt node.opset)]
    exact Stepwise.bind_eq_ok_iff.mpr ⟨t, d, done, rfl⟩
  unfold Lowering.blank at drafted
  simp only [lowerNode, entry, Lowering.runEntry, Draft.run, EStateM.run, drafted]

/-- What was drafted for a lowered node is sound, and its output was given or drafted. -/
theorem lowerNode_sound {node : SourceNode} {operands : List (Option Tensor)} {g g' : Graph}
    {outputs : List Tensor} (done : lowerNode .standard node operands g = (.ok outputs, g')) :
    ∃ (t : Tensor) (d : Draft), outputs = [t] ∧ Draft.Sound g (operands.filterMap id) g.counter d ∧
      Draft.Known (operands.filterMap id) d t ∧ g' = d.attach { g with counter := d.counter } := by
  obtain ⟨r, t, d, _, _, outputs_eq, lowered, attached⟩ := lowerNode_eq_ok done
  obtain ⟨steps, known⟩ := (r.lower_grows _ _ _).of_ok lowered
  exact ⟨t, d, outputs_eq, steps.sound (Draft.sound_blank _ _ _ _), known, attached⟩

end ReductionIR
