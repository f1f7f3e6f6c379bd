import ReductionIR.Number.Binary64
/-
Numbers of eight bits and fewer. Their layouts give up what the interchange layouts have, for
the sake of range: the sign, numbers below the normal ones, infinities, or all but one of the
patterns that stand for no number.
-/
namespace ReductionIR

/-- A layout of a few bits: a sign, then the exponent with `bias` added, then the fraction. Some
    patterns stand for no finite number. -/
structure TinyLayout where
  isSigned : Bool := true
  exponentBits : Nat
  fractionBits : Nat
  bias : Int
  /-- Does the least exponent stand for numbers without a leading one? -/
  hasSubnormals : Bool := true
  infinities : List Nat := []
  nans : List Nat := []

namespace TinyLayout

def e4m3fn : TinyLayout :=
  { exponentBits := 4, fractionBits := 3, bias := 7, nans := [0x7F, 0xFF] }

def e4m3fnuz : TinyLayout := { exponentBits := 4, fractionBits := 3, bias := 8, nans := [0x80] }

def e5m2 : TinyLayout :=
  { exponentBits := 5, fractionBits := 2, bias := 15, infinities := [0x7C, 0xFC]
    nans := [0x7D, 0x7E, 0x7F, 0xFD, 0xFE, 0xFF] }

def e5m2fnuz : TinyLayout := { exponentBits := 5, fractionBits := 2, bias := 16, nans := [0x80] }

def e2m1 : TinyLayout := { exponentBits := 2, fractionBits := 1, bias := 1 }

/-- Powers of two, for scales. -/
def e8m0 : TinyLayout :=
  { isSigned := false, exponentBits := 8, fractionBits := 0, bias := 127, hasSubnormals := false
    nans := [0xFF] }

def width (layout : TinyLayout) : Nat :=
  layout.exponentBits + layout.fractionBits + if layout.isSigned then 1 else 0

/-- The number that a pattern stands for. -/
def value (layout : TinyLayout) (pattern : Nat) : Binary64 :=
  let hidden := Nat.pow 2 layout.fractionBits
  let fields := Nat.pow 2 layout.exponentBits
  let fraction := pattern % hidden
  let field := pattern / hidden % fields
  let negative := layout.isSigned && pattern / hidden / fields % 2 == 1
  let lastBit := (field : Int) - layout.bias - layout.fractionBits
  if layout.nans.contains pattern then .nan
  else if layout.infinities.contains pattern then .infinity negative
  else if field = 0 && layout.hasSubnormals then .pack negative fraction (lastBit + 1)
  else .pack negative (hidden + fraction) lastBit

/-- The pattern of a number of the layout. -/
def pattern? (layout : TinyLayout) (x : Binary64) : Option Nat :=
  (List.range (Nat.pow 2 layout.width)).find? fun pattern => layout.value pattern == x

end TinyLayout

end ReductionIR
