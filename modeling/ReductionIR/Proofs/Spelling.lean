import Mathlib
import ReductionIR.Model
/-
Bytes and their spellings. A byte can be read off its two hexadecimal digits, and a text off its
bytes.
-/
namespace ReductionIR

namespace Text

/-- The number of a hexadecimal digit. -/
def hexValue (c : Char) : Nat := if c.toNat < 58 then c.toNat - 48 else c.toNat - 87

theorem hexValue_hexDigit {n : Nat} (small : n < 16) : hexValue (hexDigit n) = n := by
  decide +revert

@[simp] theorem length_hexDigits (count n : Nat) : (hexDigits count n).length = count := by
  induction count generalizing n with
  | zero => rfl
  | succ count ih => rw [hexDigits, List.length_append, ih, List.length_singleton]

theorem foldl_hexDigits (count n : Nat) :
    (hexDigits count n).foldl (fun value c => 16 * value + hexValue c) 0 = n % 16 ^ count := by
  induction count generalizing n with
  | zero => simp [hexDigits, Nat.mod_one]
  | succ count ih =>
    rw [hexDigits, List.foldl_append, ih, List.foldl_cons, List.foldl_nil,
      hexValue_hexDigit (Nat.mod_lt n (by decide)), Nat.pow_succ', Nat.mod_mul, Nat.add_comm]

theorem byte_eq_of_hexDigits_eq {a b : UInt8} (same : hexDigits 2 a.toNat = hexDigits 2 b.toNat) :
    a = b := by
  have value (b : UInt8) : (hexDigits 2 b.toNat).foldl (fun value c => 16 * value + hexValue c) 0 =
      b.toNat := (foldl_hexDigits 2 b.toNat).trans (Nat.mod_eq_of_lt b.toNat_lt)
  exact UInt8.toNat_inj.mp (by rw [← value a, same, value b])

/-- Each byte has two digits, so bytes are read back two digits at a time. -/
theorem bytes_eq_of_hexDigits_eq {first second : List UInt8}
    (same : first.flatMap (fun b => hexDigits 2 b.toNat) =
      second.flatMap fun b => hexDigits 2 b.toNat) : first = second := by
  have lengths : first.length = second.length := by
    have doubled := congrArg List.length same
    simp only [List.length_flatMap, length_hexDigits, List.map_const', List.sum_replicate_nat]
      at doubled
    omega
  induction first generalizing second with
  | nil => exact (List.length_eq_zero_iff.mp lengths.symm).symm
  | cons a rest ih =>
    cases second with
    | nil => contradiction
    | cons b more =>
      rw [List.flatMap_cons, List.flatMap_cons] at same
      obtain ⟨here, later⟩ := List.append_inj same (by simp)
      rw [byte_eq_of_hexDigits_eq here, ih later (Nat.succ.inj lengths)]

theorem toList_loop (bytes : ByteArray) (i : Nat) (read : List UInt8) :
    ByteArray.toList.loop bytes i read = read.reverse ++ bytes.data.toList.drop i := by
  fun_induction ByteArray.toList.loop bytes i read with
  | case1 i read inside ih =>
    have next : bytes.data.toList.drop i = bytes.get! i :: bytes.data.toList.drop (i + 1) := by
      simpa [ByteArray.get!, inside] using
        List.drop_eq_getElem_cons (l := bytes.data.toList) (i := i) inside
    rw [ih, next, List.reverse_cons, List.append_assoc, List.singleton_append]
  | case2 i read outside =>
    have done : bytes.data.toList.drop i = [] := List.drop_eq_nil_of_le (Nat.le_of_not_lt outside)
    rw [done, List.append_nil]

theorem bytes_eq (s : String) : s.toUTF8.toList = s.toByteArray.data.toList := toList_loop _ 0 []

theorem eq_of_bytes_eq {s t : String} (same : s.toUTF8.toList = t.toUTF8.toList) : s = t := by
  rw [bytes_eq, bytes_eq] at same
  exact String.toByteArray_inj.mp (ByteArray.ext (Array.toList_inj.mp same))

end Text

theorem Model.decodeText_bytes (s : String) : decodeText s.toUTF8.toList = .ok s := by
  have whole : (⟨s.toUTF8.toList.toArray⟩ : ByteArray) = s.toByteArray := by
    rw [Text.bytes_eq]
  have read : String.fromUTF8? s.toByteArray = some s := dif_pos s.isValidUTF8
  rw [decodeText, whole, read]

end ReductionIR
