import ReductionIR.Number.Rounding
/-
Double-precision numbers as their 64 bits. Conversions go through exact integers, so
no rounding happens outside `BinaryLayout.nearest`.
-/
namespace ReductionIR

/-- The bits of an IEEE 754 binary64 number. -/
structure Binary64 where
  bits : UInt64
deriving DecidableEq, Inhabited

namespace Binary64

/-- What the bits stand for: a signed multiple of a power of two, an infinity or no number. -/
inductive Reading
  | finite (negative : Bool) (mantissa : Nat) (exponent : Int)
  | infinite (negative : Bool)
  | nan

def negative (x : Binary64) : Bool := decide (Nat.pow 2 63 ≤ x.bits.toNat)

def read (x : Binary64) : Reading :=
  let field : Nat := x.bits.toNat / Nat.pow 2 52 % 2048
  let fraction : Nat := x.bits.toNat % Nat.pow 2 52
  if field = 2047 then
    if fraction = 0 then .infinite x.negative else .nan
  else if field = 0 then .finite x.negative fraction (-1074)
  else .finite x.negative (Nat.pow 2 52 + fraction) ((field : Int) - 1075)

def ofNatBits (n : Nat) : Binary64 := ⟨n.toUInt64⟩

def signBit (negative : Bool) : Nat := if negative then Nat.pow 2 63 else 0

def infinity (negative : Bool) : Binary64 := ofNatBits (signBit negative + 2047 * Nat.pow 2 52)

def nan : Binary64 := ofNatBits (4095 * Nat.pow 2 51)

def zero : Binary64 := ofNatBits 0

def isNaN (x : Binary64) : Bool :=
  match x.read with
  | .nan => true
  | _ => false

/-- All numbers that are no number become one bit pattern. -/
def canonical (x : Binary64) : Binary64 := if x.isNaN then nan else x

/-- The bits of `m * 2 ^ e`, where `m` is at most `2 ^ 53` and `e` at least -1074. -/
def pack (negative : Bool) (m : Nat) (e : Int) : Binary64 :=
  let shift := 53 - bitLength m
  let exponent := e - shift
  if m = 0 then ofNatBits (signBit negative)
  else if m = Nat.pow 2 53 then ofNatBits (signBit negative + (e + 1076).toNat * Nat.pow 2 52)
  else if exponent < -1074 then
    ofNatBits (signBit negative + m * Nat.pow 2 (e + 1074).toNat)
  else
    ofNatBits (signBit negative + (exponent + 1075).toNat * Nat.pow 2 52 +
      (m * Nat.pow 2 shift - Nat.pow 2 52))

/-- The nearest number to `num / den`, with the given sign. -/
def ofRatio (negative : Bool) (num den : Nat) : Binary64 :=
  match BinaryLayout.binary64.nearest num den with
  | some (m, e) => pack negative m e
  | none => infinity negative

/-- The nearest number to an integer; `none` when it lies past the largest finite one. -/
def ofInt? (n : Int) : Option Binary64 :=
  match BinaryLayout.binary64.nearest n.natAbs 1 with
  | some _ => some (ofRatio (decide (n < 0)) n.natAbs 1)
  | none => none

def ofIntIn (layout : BinaryLayout) (n : Int) : Binary64 :=
  match layout.nearest n.natAbs 1 with
  | some (m, e) => pack (decide (n < 0)) m e
  | none => infinity (decide (n < 0))

def narrow (layout : BinaryLayout) (x : Binary64) : Binary64 :=
  match x.read with
  | .nan => nan
  | .infinite _ => x
  | .finite negative m e =>
    let (num, den) := scaleDown m 1 (-e)
    match layout.nearest num den with
    | some (m, e) => pack negative m e
    | none => infinity negative

/-- Why a number has no integer part. -/
inductive NoInteger
  | nan
  | infinite

def truncate (x : Binary64) : Except NoInteger Int :=
  match x.read with
  | .nan => .error .nan
  | .infinite _ => .error .infinite
  | .finite negative m e =>
    let magnitude := if 0 ≤ e then m * Nat.pow 2 e.toNat else m / Nat.pow 2 (-e).toNat
    .ok (if negative then -(magnitude : Int) else magnitude)

def integer? (x : Binary64) : Option Int :=
  match x.read with
  | .finite negative m e =>
    let (num, den) := scaleDown m 1 (-e)
    if num % den = 0 then
      some (if negative then -((num / den : Nat) : Int) else (num / den : Nat))
    else none
  | _ => none

def isZero (x : Binary64) : Bool := x.bits.toNat % Nat.pow 2 63 = 0

/-- Is the number at least `n`? Nothing that is no number is. -/
def atLeast (x : Binary64) (n : Int) : Bool :=
  match x.read with
  | .nan => false
  | .infinite negative => !negative
  | .finite negative m e =>
    let (num, den) := scaleDown m 1 (-e)
    let signed : Int := if negative then -num else num
    decide (n * den ≤ signed)

/-- Is the number below `n`? -/
def below (x : Binary64) (n : Int) : Bool := !x.isNaN && !x.atLeast n

def negate (x : Binary64) : Binary64 := ofNatBits ((x.bits.toNat + Nat.pow 2 63) % Nat.pow 2 64)

def ofScaled (n : Int) (e : Int) : Binary64 :=
  let (num, den) := scaleDown n.natAbs 1 (-e)
  ofRatio (decide (n < 0)) num den

def signed (negative : Bool) (m : Nat) : Int := if negative then -(m : Int) else m

/-- The number that the bits of a layout of at most the same precision stand for. -/
def ofLayout (layout : BinaryLayout) (bits : Nat) : Binary64 :=
  let hidden := Nat.pow 2 (layout.precision - 1)
  let fields := 2 * layout.maxExp.toNat
  let fraction := bits % hidden
  let field := bits / hidden % fields
  let negative := decide (bits / hidden / fields % 2 = 1)
  if field = fields - 1 then if fraction = 0 then infinity negative else nan
  else
    let (m, e) : Nat × Int := if field = 0 then (fraction, layout.minExp)
      else (hidden + fraction, layout.minExp + field - 1)
    let (num, den) := scaleDown m 1 (-e)
    ofRatio negative num den

/-- The bits of the nearest number of a layout. The field of the exponent and the fraction
    after it count up together, so that one sum gives both. -/
def toLayout (layout : BinaryLayout) (x : Binary64) : Nat :=
  let hidden := Nat.pow 2 (layout.precision - 1)
  let fields := 2 * layout.maxExp.toNat
  let unbounded := (fields - 1) * hidden
  let sign (negative : Bool) := if negative then fields * hidden else 0
  match x.read with
  | .nan => unbounded + hidden / 2
  | .infinite negative => sign negative + unbounded
  | .finite negative m e =>
    let (num, den) := scaleDown m 1 (-e)
    match layout.nearest num den with
    | some (m, e) => sign negative + (e - layout.minExp).toNat * hidden + m
    | none => sign negative + unbounded

/-- The nearest number to the sum of two numbers. Opposite infinities have no sum. -/
def plus (x y : Binary64) : Binary64 :=
  match x.read, y.read with
  | .finite s m d, .finite t n e =>
    let least := min d e
    let sum := signed s m * Nat.pow 2 (d - least).toNat + signed t n * Nat.pow 2 (e - least).toNat
    if sum = 0 then ofRatio (s && t) 0 1 else ofScaled sum least
  | .infinite s, .infinite t => if s = t then infinity s else nan
  | .infinite s, .finite .. => infinity s
  | .finite .., .infinite t => infinity t
  | _, _ => nan

/-- The nearest number to the product of two numbers. Zero times infinity has none. -/
def times (x y : Binary64) : Binary64 :=
  match x.read, y.read with
  | .finite s m d, .finite t n e =>
    let (num, den) := scaleDown (m * n) 1 (-(d + e))
    ofRatio (s != t) num den
  | .infinite s, .finite t n _ | .finite t n _, .infinite s =>
    if n = 0 then nan else infinity (s != t)
  | .infinite s, .infinite t => infinity (s != t)
  | _, _ => nan

end Binary64

end ReductionIR
