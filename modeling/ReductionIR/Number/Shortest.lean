import ReductionIR.Number.Binary64
/-
The fewest decimal digits that read back as a given number, and their layout as text.
For each digit count the two neighbours of the value on that decimal grid are tested,
so the first count with a hit is the least one.
-/
namespace ReductionIR

/-- Decimal digits and the place of the point: `0.d1d2d3… * 10 ^ point`. -/
structure Decimal where
  digits : List Nat
  point : Int

namespace Decimal

/-- The digits of `n`, most significant first, found within `count` steps. -/
def digitsOf (count n : Nat) : List Nat :=
  match count with
  | 0 => []
  | count + 1 => if n = 0 then [] else digitsOf count (n / 10) ++ [n % 10]

/-- `a / b < c / d` for positive denominators. -/
def ratioLT (x y : Nat × Nat) : Bool := decide (x.1 * y.2 < y.1 * x.2)

/-- The open or closed interval of values that round to `m * 2 ^ e`, and the value itself,
    over one power of two. The lower half-gap is halved below a power of two. -/
structure Interval where
  low : Nat × Nat
  value : Nat × Nat
  high : Nat × Nat
  closed : Bool

def Interval.around (m : Nat) (e : Int) : Interval :=
  let quarter : Int := e - 2
  let down := if m = Nat.pow 2 52 ∧ -1074 < e then 1 else 2
  { low := scaleDown (4 * m - down) 1 (-quarter)
    value := scaleDown (4 * m) 1 (-quarter)
    high := scaleDown (4 * m + 2) 1 (-quarter)
    closed := m % 2 = 0 }

def Interval.holds (interval : Interval) (x : Nat × Nat) : Bool :=
  if interval.closed then !ratioLT x interval.low && !ratioLT interval.high x
  else ratioLT interval.low x && ratioLT x interval.high

/-- `n * 10 ^ place` as a quotient of naturals. -/
def scaleTen (n : Nat) (place : Int) : Nat × Nat :=
  if 0 ≤ place then (n * Nat.pow 10 place.toNat, 1) else (n, Nat.pow 10 (-place).toNat)

/-- `floor (value / 10 ^ place)`. -/
def floorTen (value : Nat × Nat) (place : Int) : Nat :=
  if 0 ≤ place then value.1 / (value.2 * Nat.pow 10 place.toNat)
  else value.1 * Nat.pow 10 (-place).toNat / value.2

/-- Is the value nearer to `n` than to `n + 1` on the grid `10 ^ place`? A tie goes to the
    even one. -/
def nearerBelow (value : Nat × Nat) (n : Nat) (place : Int) : Bool :=
  let (a, b) := scaleTen (2 * n + 1) place
  let twice := value.1 * 2 * b
  let middle := a * value.2
  decide (twice < middle) || (decide (twice = middle) && n % 2 == 0)

def hit? (interval : Interval) (place : Int) : Option Nat :=
  let n := floorTen interval.value place
  let below := interval.holds (scaleTen n place) && n != 0
  let above := interval.holds (scaleTen (n + 1) place)
  if below && above then some (if nearerBelow interval.value n place then n else n + 1)
  else if below then some n
  else if above then some (n + 1)
  else none

/-- The least `point` with `value < 10 ^ point`, counted up from a start below it. -/
def pointFrom (value : Nat × Nat) : Nat → Int → Int
  | 0, start => start
  | fuel + 1, start =>
    if ratioLT value (scaleTen 1 start) then start else pointFrom value fuel (start + 1)

def dropTrailingZeros (digits : List Nat) : List Nat :=
  (digits.reverse.dropWhile (· == 0)).reverse

def search (interval : Interval) (point : Int) : Nat → Nat → Decimal
  | 0, _ => ⟨[], point⟩
  | fuel + 1, count =>
    match hit? interval (point - count) with
    | some n =>
      let digits := digitsOf (count + 1) n
      ⟨dropTrailingZeros digits, point + (digits.length - count : Int)⟩
    | none => search interval point fuel (count + 1)

/-- The shortest decimal that reads back as `m * 2 ^ e`, for a positive `m`. -/
def shortest (m : Nat) (e : Int) : Decimal :=
  let interval := Interval.around m e
  let start : Int := (e + bitLength m - 1) * 30103 / 100000 - 1
  let point := pointFrom interval.value 6 start
  search interval point 17 1

end Decimal

/-- How a number is laid out: where plain notation ends and how an exponent is written. -/
structure NumberFormat where
  leastPlain : Int
  leastScientific : Int
  exponentDigits : Nat

/-- Plain from `1e-4` up to below `1e16`; otherwise one digit before the point and an
    exponent with a sign and at least two digits. -/
def NumberFormat.standard : NumberFormat := ⟨-3, 17, 2⟩

namespace NumberFormat

def digitText (digits : List Nat) : String :=
  String.ofList (digits.map fun d => Char.ofNat (48 + d))

def zeros (n : Nat) : String := String.ofList (List.replicate n '0')

def exponentText (format : NumberFormat) (n : Int) : String :=
  let text := toString n.natAbs
  (if n < 0 then "-" else "+") ++ zeros (format.exponentDigits - text.length) ++ text

def decimalText (format : NumberFormat) (d : Decimal) : String :=
  if d.point < format.leastPlain ∨ format.leastScientific ≤ d.point then
    let rest := d.digits.drop 1
    digitText (d.digits.take 1) ++ (if rest.isEmpty then "" else "." ++ digitText rest)
      ++ "e" ++ format.exponentText (d.point - 1)
  else if d.point ≤ 0 then
    "0." ++ zeros (-d.point).toNat ++ digitText d.digits
  else
    let whole := d.point.toNat
    let rest := d.digits.drop whole
    digitText (d.digits.take whole) ++ zeros (whole - d.digits.length)
      ++ "." ++ (if rest.isEmpty then "0" else digitText rest)

end NumberFormat

/-- The text of a number: `nan`, `inf` or its shortest decimal. -/
def Binary64.text (x : Binary64) : String :=
  match x.read with
  | .nan => "nan"
  | .infinite negative => (if negative then "-" else "") ++ "inf"
  | .finite negative m e =>
    (if negative then "-" else "") ++
      (if m = 0 then "0.0" else NumberFormat.standard.decimalText (Decimal.shortest m e))

end ReductionIR
