import Mathlib.Algebra.BigOperators.Group.List.Basic
import ReductionIR.Dense
/-
Arrays made of integers. The outline of a flat list has one axis, its items are the
elements, and an integer that fits stays what it is.
-/
namespace ReductionIR

/-- The integers of 64 bits. -/
def fitsInt64 (n : Int) : Bool := decide (-9223372036854775808 ≤ n ∧ n ≤ 9223372036854775807)

namespace Outline

theorem visitItems_ints (ns : List Int) (o : Outline) (settled : o.settled = true)
    (limit : o.limit = 1) : visitItems 1 o (ns.map .int) = o := by
  induction ns generalizing o with
  | nil => rfl
  | cons n rest ih =>
    have step : visit 1 o (.int n) = o := by
      obtain ⟨lengths, least, done, ragged⟩ := o
      simp only at settled limit
      subst settled limit
      simp [visit, element]
    rw [List.map_cons, visitItems, step]
    exact ih o settled limit

theorem ofValue_ints (ns : List Int) :
    ofValue Dense.axisLimit (.list (ns.map .int)) =
      { lengths := [ns.length], limit := 1, settled := true, ragged := false } := by
  cases ns with
  | nil => rfl
  | cons n rest =>
    have first : visit 1 { lengths := [rest.length + 1], limit := Dense.axisLimit } (.int n) =
        { lengths := [rest.length + 1], limit := 1, settled := true, ragged := false } := rfl
    have later := visitItems_ints rest
      { lengths := [rest.length + 1], limit := 1, settled := true, ragged := false } rfl rfl
    simp only [ofValue, visit, enter, Dense.axisLimit, List.length_map, List.map_cons,
      List.length_cons, List.isEmpty_cons, visitItems] at first later ⊢
    simpa [first] using later

end Outline

theorem Value.itemsOfAll_ints (ns : List Int) :
    itemsOfAll 0 (ns.map .int) = ns.map .int := by
  induction ns with
  | nil => rfl
  | cons n rest ih =>
    have item : itemsAt 0 (.int n) = [.int n] := rfl
    rw [List.map_cons, itemsOfAll, ih, item, List.singleton_append]

theorem Value.asElement_int64_iff {n : Int} {v : Value} :
    Value.asElement .int64 (.int n) = .ok v ↔ fitsInt64 n = true ∧ v = .int n := by
  have spelled : Value.asElement .int64 (.int n) =
      Value.bounded (-9223372036854775808) 9223372036854775807 n := rfl
  rw [spelled, Value.bounded, fitsInt64, decide_eq_true_iff]
  split
  · next fits => simp [fits, eq_comm]
  · next large => simp [large]

theorem Value.mapM_asElement_int64 {ns : List Int} {elements : List Value}
    (done : (ns.map Value.int).mapM (Value.asElement .int64) = .ok elements) :
    elements = ns.map .int := by
  induction ns generalizing elements with
  | nil =>
    cases done
    rfl
  | cons n rest ih =>
    rw [List.map_cons, List.mapM_cons] at done
    cases first : Value.asElement .int64 (.int n) with
    | error failure =>
      rw [first] at done
      contradiction
    | ok v =>
      cases later : (rest.map Value.int).mapM (Value.asElement .int64) with
      | error failure =>
        rw [first, later] at done
        contradiction
      | ok vs =>
        rw [first, later] at done
        cases done
        rw [(Value.asElement_int64_iff.mp first).2, ih later, List.map_cons]

theorem Dense.ofInts_eq_ok {ns : List Int} {a : Dense} (done : Dense.ofInts ns = .ok a) :
    a = ⟨.int64, [ns.length], ns.map .int⟩ := by
  unfold Dense.ofInts Dense.ofValue at done
  rw [Outline.ofValue_ints] at done
  have items : Value.itemsAt 1 (.list (ns.map .int)) = ns.map .int := by
    rw [Value.itemsAt, if_neg (by decide)]
    exact Value.itemsOfAll_ints ns
  simp only [Bool.false_and, Bool.false_eq_true, ↓reduceIte, Outline.dims, List.take_succ_cons,
    List.take_zero, List.length_singleton, items, Dense.fittedKind] at done
  cases elements : (ns.map Value.int).mapM (Value.asElement .int64) with
  | error failure =>
    rw [elements] at done
    contradiction
  | ok vs =>
    rw [elements] at done
    cases done
    rw [Value.mapM_asElement_int64 elements]

theorem Value.toBool_mapM_asElement_int64 (ns : List Int) :
    ((ns.map Value.int).mapM (Value.asElement .int64)).toBool = ns.all fitsInt64 := by
  induction ns with
  | nil => rfl
  | cons n rest ih =>
    have spelled : Value.asElement .int64 (.int n) =
        Value.bounded (-9223372036854775808) 9223372036854775807 n := rfl
    rw [List.map_cons, List.mapM_cons, List.all_cons, ← ih, spelled, Value.bounded, fitsInt64]
    by_cases fits : -9223372036854775808 ≤ n ∧ n ≤ 9223372036854775807
    · rw [if_pos fits, decide_eq_true fits, Bool.true_and]
      cases (rest.map Value.int).mapM (Value.asElement .int64) <;> rfl
    · rw [if_neg fits, decide_eq_false fits]
      rfl

theorem Dense.toBool_ofInts (ns : List Int) : (Dense.ofInts ns).toBool = ns.all fitsInt64 := by
  have items : Value.itemsAt 1 (.list (ns.map .int)) = ns.map .int := by
    rw [Value.itemsAt, if_neg (by decide)]
    exact Value.itemsOfAll_ints ns
  rw [← Value.toBool_mapM_asElement_int64]
  unfold Dense.ofInts Dense.ofValue
  rw [Outline.ofValue_ints]
  simp only [Bool.false_and, Bool.false_eq_true, ↓reduceIte, Outline.dims, List.take_succ_cons,
    List.take_zero, List.length_singleton, items, Dense.fittedKind]
  cases (ns.map Value.int).mapM (Value.asElement .int64) <;> rfl

/-- An array of 64-bit integers, as many as its dims say. -/
structure Dense.HoldsIntegers (a : Dense) : Prop where
  kind : a.kind = .int64
  full : a.elements.length = a.dims.prod
  fits : ∀ v ∈ a.elements, ∃ n, v = .int n ∧ fitsInt64 n = true

theorem Dense.holdsIntegers_of_ofInts {ns : List Int} {a : Dense} (done : ofInts ns = .ok a) :
    a.HoldsIntegers := by
  have fits : ns.all fitsInt64 = true := by
    rw [← toBool_ofInts, done]
    rfl
  rw [ofInts_eq_ok done]
  refine ⟨rfl, by simp, fun v member => ?_⟩
  obtain ⟨n, listed, rfl⟩ := List.mem_map.mp member
  exact ⟨n, rfl, List.all_eq_true.mp fits n listed⟩

theorem Dense.holdsIntegers_of_ofInt {n : Int} {a : Dense} (done : ofInt n = .ok a) :
    a.HoldsIntegers := by
  have outline : Outline.ofValue axisLimit (.int n) = { limit := 0, settled := true } := rfl
  have items : Value.itemsAt 0 (.int n) = [.int n] := rfl
  unfold ofInt ofValue at done
  simp only [outline, Bool.false_and, Bool.false_eq_true, ↓reduceIte, Outline.dims, List.take_nil,
    List.length_nil, items, fittedKind, List.mapM_cons, List.mapM_nil] at done
  cases element : Value.asElement .int64 (.int n) with
  | error failure =>
    rw [element] at done
    contradiction
  | ok v =>
    rw [element] at done
    cases done
    obtain ⟨fits, rfl⟩ := Value.asElement_int64_iff.mp element
    exact ⟨rfl, rfl, fun v member => ⟨n, List.mem_singleton.mp member, fits⟩⟩

end ReductionIR
