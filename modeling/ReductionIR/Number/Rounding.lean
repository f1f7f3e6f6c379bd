/-
Rounding a quotient of naturals to a binary grid, ties to the even neighbour, and the
four binary interchange layouts. Everything is exact integer arithmetic.
-/
namespace ReductionIR

/-- The integer nearest to `num / den`; a tie goes to the even one. -/
def roundHalfEven (num den : Nat) : Nat :=
  let low := num / den
  let rest := num % den
  if 2 * rest < den then low
  else if den < 2 * rest then low + 1
  else if low % 2 = 0 then low else low + 1

/-- How many bits the binary form of `n` has; zero has none. -/
def bitLength (n : Nat) : Nat := if n = 0 then 0 else n.log2 + 1

/-- `num / den / 2 ^ step` as a quotient of naturals. -/
def scaleDown (num den : Nat) (step : Int) : Nat × Nat :=
  if 0 ≤ step then (num, den * Nat.pow 2 step.toNat) else (num * Nat.pow 2 (-step).toNat, den)

/-- A binary floating-point layout: `precision` significant bits, least bit `2 ^ minExp`,
    and every finite magnitude below `2 ^ maxExp`. -/
structure BinaryLayout where
  precision : Nat
  minExp : Int
  maxExp : Int

namespace BinaryLayout

def binary64 : BinaryLayout := ⟨53, -1074, 1024⟩
def binary32 : BinaryLayout := ⟨24, -149, 128⟩
def binary16 : BinaryLayout := ⟨11, -24, 16⟩
/-- The exponent range of `binary32` with eight significant bits. -/
def brain16 : BinaryLayout := ⟨8, -133, 128⟩

/-- The exponent of the last bit kept for `num / den`. -/
def lastBit (layout : BinaryLayout) (num den : Nat) : Int :=
  let guess := max ((bitLength num : Int) - bitLength den - layout.precision) layout.minExp
  let (a, b) := scaleDown num den guess
  if a / b < Nat.pow 2 layout.precision then guess else guess + 1

/-- The nearest value `m * 2 ^ e` of the layout, or `none` when it lies past the largest one. -/
def nearest (layout : BinaryLayout) (num den : Nat) : Option (Nat × Int) :=
  let e := layout.lastBit num den
  let (a, b) := scaleDown num den e
  let m := roundHalfEven a b
  if e + bitLength m ≤ layout.maxExp then some (m, e) else none

end BinaryLayout

end ReductionIR
