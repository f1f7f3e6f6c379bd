import ReductionIR.Number.Binary64
import ReductionIR.Text.Numeral
/-
Reading decimal numbers from text: a sign, digits with a point and an exponent, or one of
the words for an infinity and for no number.
-/
namespace ReductionIR

/-- The nearest number to `digits * 10 ^ exponent`. Exponents far outside the range of
    numbers are settled without computing the power. -/
def Binary64.ofDecimal (negative : Bool) (digits : Nat) (exponent : Int) : Binary64 :=
  let top := exponent + (toString digits).length
  if digits = 0 ∨ top < -400 then .ofRatio negative 0 1
  else if 400 < top then .infinity negative
  else if 0 ≤ exponent then .ofRatio negative (digits * Nat.pow 10 exponent.toNat) 1
  else .ofRatio negative digits (Nat.pow 10 (-exponent).toNat)

namespace Text

/-- Digits with single underscores between them, from the head of a text. -/
def digitRun : List Char → List Nat × List Char
  | [] => ([], [])
  | c :: rest =>
    match digitValue? c, rest with
    | none, _ => ([], c :: rest)
    | some d, '_' :: next :: more =>
      if (digitValue? next).isSome then
        let (ds, rest) := digitRun (next :: more)
        (d :: ds, rest)
      else ([d], rest)
    | some d, rest =>
      let (ds, rest) := digitRun rest
      (d :: ds, rest)

def exponent? : List Char → Option Int
  | [] => some 0
  | e :: rest =>
    if e = 'e' ∨ e = 'E' then
      let (negative, rest) := match rest with
        | '-' :: r => (true, r)
        | '+' :: r => (false, r)
        | r => (false, r)
      match digitRun rest with
      | ([], _) => none
      | (ds, []) => some (if negative then -(ofDigits ds : Int) else ofDigits ds)
      | _ => none
    else none

def magnitude? (negative : Bool) (cs : List Char) : Option Binary64 :=
  let word := String.ofList (cs.map Char.toLower)
  if word = "inf" ∨ word = "infinity" then some (.infinity negative)
  else if word = "nan" then some .nan
  else
    let (whole, rest) := digitRun cs
    let (fraction, rest) := match rest with
      | '.' :: r => digitRun r
      | r => ([], r)
    if whole.isEmpty && fraction.isEmpty then none
    else
      (exponent? rest).map fun e =>
        .ofDecimal negative (ofDigits (whole ++ fraction)) (e - fraction.length)

/-- The number a text stands for, nearest to its decimal. -/
def real? (text : String) : Option Binary64 :=
  match trimPadding text.toList with
  | '-' :: rest => magnitude? true rest
  | '+' :: rest => magnitude? false rest
  | rest => magnitude? false rest

/-- Cut a text before its last sign that neither begins it nor belongs to an exponent. -/
def splitAtSign (cs : List Char) : List Char × List Char :=
  let isSign (i : Nat) : Bool :=
    (cs[i]? = some '+' || cs[i]? = some '-') && i ≠ 0 &&
      !(cs[i - 1]? = some 'e' || cs[i - 1]? = some 'E')
  match ((List.range cs.length).filter isSign).getLast? with
  | some i => cs.splitAt i
  | none => ([], cs)

/-- Is it the imaginary part of a number? A sign alone stands for one. -/
def isImaginary (cs : List Char) : Bool :=
  (cs.getLast? = some 'j' || cs.getLast? = some 'J') &&
    (["", "+", "-"].contains (String.ofList cs.dropLast) ||
      (match cs.getLast?, cs.dropLast with
        | _, c :: rest => !(isBlank c) && !(rest.getLast?.map isBlank).getD false &&
            (real? (String.ofList (c :: rest))).isSome
        | _, [] => false))

def realPart? (text : String) : Option Binary64 :=
  let cs := trimBlanks text.toList
  let cs := match cs, cs.getLast? with
    | '(' :: inner, some ')' => trimBlanks inner.dropLast
    | _, _ => cs
  match splitAtSign cs with
  | ([], part) => if isImaginary part then some .zero else real? (String.ofList part)
  | (part, imaginary) =>
    if isImaginary imaginary && !(part.getLast?.map isBlank).getD false then
      real? (String.ofList part)
    else real? (String.ofList cs)

end Text

end ReductionIR
