import Mathlib.Data.List.Nodup
import ReductionIR.Graph
import ReductionIR.Proofs.TableLaws
/-
Ids made of a stem and a number. The number can be read back off the id, so ids of
different numbers differ whatever their stems are, and no such id is the id of a result,
which ends in a colon and a zero. The search for a free number stops at one.
-/
namespace ReductionIR

namespace Graph

/-- The id of the result of the operator with an id. -/
def resultId (op : String) : String := op ++ ":0"

theorem toList_numbered (stem : String) (n : Nat) :
    (numbered stem n).toList = stem.toList ++ '_' :: Nat.toDigits 10 n := by
  simp [numbered, String.toList_append, Nat.toString_eq_repr, Nat.toList_repr]

theorem digits_of_numbered (stem : String) (n : Nat) :
    (numbered stem n).toList.reverse.takeWhile Char.isDigit = (Nat.toDigits 10 n).reverse := by
  have digits : ∀ c ∈ (Nat.toDigits 10 n).reverse, c.isDigit = true := by
    intro c member
    exact Nat.isDigit_of_mem_toDigits (by decide) (by decide) (List.mem_reverse.mp member)
  rw [toList_numbered, List.reverse_append, List.reverse_cons, List.append_assoc,
    List.takeWhile_append_of_pos digits]
  simp

theorem numbered_injective {s t : String} {m n : Nat} (same : numbered s m = numbered t n) :
    s = t ∧ m = n := by
  have digits : Nat.toDigits 10 m = Nat.toDigits 10 n := by
    have reversed := digits_of_numbered s m
    rw [same, digits_of_numbered t n] at reversed
    exact (List.reverse_inj.mp reversed).symm
  have number : m = n := by
    rw [← Nat.ofDigitChars_ten_toDigits (n := m), digits, Nat.ofDigitChars_ten_toDigits]
  have lists := congrArg String.toList same
  rw [toList_numbered, toList_numbered, digits] at lists
  exact ⟨String.toList_inj.mp (List.append_cancel_right lists), number⟩

theorem number_eq_of_numbered_eq {s t : String} {m n : Nat}
    (same : numbered s m = numbered t n) : m = n := (numbered_injective same).2

theorem resultId_ne_numbered (op s : String) (n : Nat) : resultId op ≠ numbered s n := by
  intro same
  have fromEnd : (numbered s n).toList.reverse = '0' :: ':' :: op.toList.reverse := by
    rw [← same]
    simp [resultId, String.toList_append]
  have one := digits_of_numbered s n
  rw [fromEnd] at one
  have digits : Nat.toDigits 10 n = ['0'] := by
    have : (Nat.toDigits 10 n).reverse = ['0'] := by rw [← one]; rfl
    simpa using congrArg List.reverse this
  rw [toList_numbered, digits] at fromEnd
  simp at fromEnd

theorem resultId_injective {a b : String} (same : resultId a = resultId b) : a = b :=
  String.append_left_inj _ |>.mp same

theorem resultId_numbered_injective {s t : String} {m n : Nat}
    (same : resultId (numbered s m) = resultId (numbered t n)) : s = t ∧ m = n :=
  numbered_injective (resultId_injective same)

theorem numbered_ne_axes (s op : String) (n : Nat) : numbered s n ≠ op ++ "_axes" := by
  intro same
  have digits := digits_of_numbered s n
  have letters : (numbered s n).toList.reverse.takeWhile Char.isDigit = [] := by
    rw [same]
    simp [String.toList_append]
  rw [letters] at digits
  exact Nat.toDigits_ne_nil (List.reverse_eq_nil_iff.mp digits.symm)

theorem resultId_ne_axes (op other : String) : resultId op ≠ other ++ "_axes" := by
  intro same
  have lists := congrArg (fun id => id.toList.reverse.head?) same
  simp [resultId, String.toList_append] at lists

/-! The search for a free number -/

theorem le_freeFrom (g : Graph) (stem : String) (steps n : Nat) :
    n ≤ g.freeFrom stem steps n := by
  induction steps generalizing n with
  | zero => exact Nat.le_refl n
  | succ steps ih =>
    unfold freeFrom
    split
    · exact Nat.le_of_succ_le (ih (n + 1))
    · exact Nat.le_refl n

/-- A search that ends at a taken number has met as many taken ones as it had steps. -/
theorem taken_before_freeFrom (g : Graph) (stem : String) (steps n : Nat)
    (taken : g.isTaken (numbered stem (g.freeFrom stem steps n)) = true) (i : Nat)
    (bound : i ≤ steps) : g.isTaken (numbered stem (n + i)) = true := by
  induction steps generalizing n i with
  | zero =>
    obtain rfl : i = 0 := by omega
    simpa [freeFrom] using taken
  | succ steps ih =>
    unfold freeFrom at taken
    split at taken
    · rename_i first
      cases i with
      | zero => exact first
      | succ i =>
        have later := ih (n + 1) taken i (by omega)
        rwa [Nat.add_right_comm] at later
    · rename_i free
      exact absurd taken free

/-- The ids in use. -/
def ids (g : Graph) : List String := g.tensors.keys ++ g.ops.keys

theorem isTaken_iff_mem_ids (g : Graph) (id : String) : g.isTaken id = true ↔ id ∈ g.ids := by
  simp only [isTaken, ids, Bool.or_eq_true, List.mem_append, Table.contains_iff_mem_keys]

theorem isTaken_eq_false_iff (g : Graph) (id : String) :
    g.isTaken id = false ↔ g.tensors.find? id = none ∧ g.ops.find? id = none := by
  simp [isTaken, Table.contains_eq_false_iff]

/-- One more number than there are ids cannot all be taken. -/
theorem freeNumber_is_free (g : Graph) (stem : String) (counter : Nat) :
    g.isTaken (numbered stem (g.freeNumber stem counter)) = false := by
  by_contra notFree
  have taken : g.isTaken (numbered stem (g.freeNumber stem counter)) = true := by
    simpa using notFree
  let bound := g.tensors.size + g.ops.size
  let candidates := (List.range (bound + 1)).map fun i => numbered stem (counter + 1 + i)
  have nodup : candidates.Nodup := by
    apply List.Nodup.map _ List.nodup_range
    intro i j same
    have := number_eq_of_numbered_eq same
    omega
  have used : candidates ⊆ g.ids := by
    intro id member
    obtain ⟨i, inRange, rfl⟩ := List.mem_map.mp member
    have small : i ≤ bound := Nat.lt_succ_iff.mp (List.mem_range.mp inRange)
    exact (isTaken_iff_mem_ids g _).mp
      (taken_before_freeFrom g stem bound (counter + 1) taken i small)
  have count := nodup.length_le_of_subset used
  simp only [candidates, ids, List.length_map, List.length_range, List.length_append,
    Table.length_keys, bound] at count
  omega

theorem counter_lt_freeNumber (g : Graph) (stem : String) (counter : Nat) :
    counter < g.freeNumber stem counter :=
  le_freeFrom g stem _ (counter + 1)

end Graph

end ReductionIR
