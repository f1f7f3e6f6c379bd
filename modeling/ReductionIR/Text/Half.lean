/-
Halves of pairs: numbers that text in units of 16 bits uses in twos, and that are no
characters. A text may hold one alone all the same; a character of a private range stands in
for it.
-/
namespace ReductionIR.Text

def isHalf (n : Nat) : Bool := decide (0xD800 ≤ n ∧ n ≤ 0xDFFF)

/-- The distance from a half to its stand-in. -/
def halfShift : Nat := 0x100000

/-- The character of a number, or the stand-in for a half. -/
def ofNumber (n : Nat) : Char := Char.ofNat (if isHalf n then n + halfShift else n)

def half? (c : Char) : Option Nat :=
  if halfShift ≤ c.toNat ∧ isHalf (c.toNat - halfShift) then some (c.toNat - halfShift) else none

end ReductionIR.Text
