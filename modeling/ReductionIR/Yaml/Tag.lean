import ReductionIR.Breakdown
import ReductionIR.Text.Lower
import ReductionIR.Text.Real
/-
The tags of YAML nodes, the tag a plain scalar has by its form, and the values of scalars
by tag.
-/
namespace ReductionIR.Yaml

inductive Tag
  | null | bool | int | float | binary | timestamp | omap | pairs | set | str | seq | map
  | merge | value
  | other (name : String)
deriving DecidableEq

namespace Tag

def standardSpace : String := "tag:yaml.org,2002:"

def standard : List (String × Tag) :=
  [("null", null), ("bool", bool), ("int", int), ("float", float), ("binary", binary),
    ("timestamp", timestamp), ("omap", omap), ("pairs", pairs), ("set", set), ("str", str),
    ("seq", seq), ("map", map), ("merge", merge), ("value", value)]

def ofName (name : String) : Tag :=
  ((standard.find? fun entry => standardSpace ++ entry.1 == name).map Prod.snd).getD (other name)

end Tag

/-! The forms of scalars -/

def booleans : List (String × Bool) :=
  [("yes", true), ("no", false), ("true", true), ("false", false), ("on", true), ("off", false)]

/-- The spellings of a word in small letters, with a capital, and in capitals. -/
def spellings (word : String) : List String :=
  [word, word.capitalize, word.toUpper]

def isDigitOr (also : Char) (c : Char) : Bool := c.isDigit || c = also

def dropSign : List Char → List Char
  | '-' :: rest => rest
  | '+' :: rest => rest
  | cs => cs

/-- The pieces between separators; there is always one. -/
def pieces (separator : Char) : List Char → List (List Char)
  | [] => [[]]
  | c :: rest =>
    match pieces separator rest with
    | [] => []
    | piece :: more => if c = separator then [] :: piece :: more else (c :: piece) :: more

def isSixtieth : List Char → Bool
  | [a] => a.isDigit
  | [a, b] => '0' ≤ a && a ≤ '5' && b.isDigit
  | _ => false

def allSome (p : Char → Bool) (cs : List Char) : Bool := !cs.isEmpty && cs.all p

def isGrouped (cs : List Char) : Bool :=
  (cs.head?.any Char.isDigit) && cs.all (isDigitOr '_')

def startsNonZero (cs : List Char) : Bool := cs.head?.any fun c => c.isDigit && c ≠ '0'

def isIntForm (text : List Char) : Bool :=
  match dropSign text with
  | '0' :: 'b' :: rest => allSome (fun c => c = '0' || c = '1' || c = '_') rest
  | '0' :: 'x' :: rest => allSome (fun c => c.isDigit || c = '_' ||
      ('a' ≤ c && c ≤ 'f') || ('A' ≤ c && c ≤ 'F')) rest
  | ['0'] => true
  | '0' :: rest => allSome (fun c => ('0' ≤ c && c ≤ '7') || c = '_') rest
  | cs =>
    match pieces ':' cs with
    | first :: rest => startsNonZero first && isGrouped first && rest.all isSixtieth
    | [] => false

def isExponent : List Char → Bool
  | [] => true
  | e :: sign :: rest =>
    (e = 'e' || e = 'E') && (sign = '-' || sign = '+') && allSome Char.isDigit rest
  | _ => false

def isFraction (cs : List Char) : Bool := isExponent (cs.dropWhile (isDigitOr '_'))

def isFloatForm (text : List Char) : Bool :=
  let unsigned := dropSign text
  let whole := unsigned.takeWhile (· ≠ '.')
  match unsigned.dropWhile (· ≠ '.') with
  | '.' :: rest =>
    if whole.isEmpty then
      rest ∈ ["inf".toList, "Inf".toList, "INF".toList] ||
        (unsigned.length = text.length &&
          (rest ∈ ["nan".toList, "NaN".toList, "NAN".toList] ||
            (rest.head?.any Char.isDigit && isFraction rest)))
    else
      match pieces ':' whole with
      | [first] => isGrouped first && isFraction rest
      | first :: more => isGrouped first && more.all isSixtieth && rest.all (isDigitOr '_')
      | [] => false
  | _ => false

/-- The parts of a point in time. -/
structure MomentText where
  year : List Char
  month : List Char
  day : List Char
  clock : Option (List Char × List Char × List Char × List Char) := none
  /-- Is a zone given, and with which sign, hours and minutes? -/
  zone : Option (Option (Bool × List Char × List Char)) := none

/-- From `least` to `most` digits, and what follows them. -/
def digitsUpTo (least most : Nat) (cs : List Char) : Option (List Char × List Char) :=
  let taken := (cs.take most).takeWhile Char.isDigit
  if least ≤ taken.length then some (taken, cs.drop taken.length) else none

def expect (c : Char) : List Char → Option (List Char)
  | d :: rest => if c = d then some rest else none
  | [] => none

def isBlankChar (c : Char) : Bool := c = ' ' || c = '\t'

/-- A zone after a time: nothing, `Z`, or hours and minutes with a sign. -/
def zone? (cs : List Char) : Option (Option (Option (Bool × List Char × List Char))) :=
  match cs, cs.dropWhile isBlankChar with
  | [], _ => some none
  | _, ['Z'] => some (some none)
  | _, sign :: rest =>
    if sign = '+' ∨ sign = '-' then do
      let (hours, rest) ← digitsUpTo 1 2 rest
      match rest with
      | [] => return some (some (sign == '-', hours, []))
      | ':' :: rest =>
        let (minutes, rest) ← digitsUpTo 2 2 rest
        if rest.isEmpty then return some (some (sign == '-', hours, minutes)) else none
      | _ => none
    else none
  | _, [] => none

def clock? (date : MomentText) (cs : List Char) : Option MomentText := do
  let rest ← match cs with
    | 'T' :: rest => some rest
    | 't' :: rest => some rest
    | c :: _ => if isBlankChar c then some (cs.dropWhile isBlankChar) else none
    | [] => none
  let (hour, rest) ← digitsUpTo 1 2 rest
  let (minute, rest) ← digitsUpTo 2 2 (← expect ':' rest)
  let (second, rest) ← digitsUpTo 2 2 (← expect ':' rest)
  let (fraction, rest) := match rest with
    | '.' :: rest => (rest.takeWhile Char.isDigit, rest.dropWhile Char.isDigit)
    | rest => ([], rest)
  return { date with clock := some (hour, minute, second, fraction), zone := ← zone? rest }

def momentText? (text : List Char) : Option MomentText := do
  let (year, rest) ← digitsUpTo 4 4 text
  let (month, rest) ← digitsUpTo 1 2 (← expect '-' rest)
  let (day, rest) ← digitsUpTo 1 2 (← expect '-' rest)
  let date : MomentText := { year, month, day }
  if rest.isEmpty then some date else clock? date rest

/-- A plain scalar is a date by itself only with all its digits. -/
def isMomentForm (text : List Char) : Bool :=
  match momentText? text with
  | some m => m.clock.isSome || (m.month.length = 2 && m.day.length = 2)
  | none => false

/-- Signs that have a tag of their own, which no value has. -/
def signs : List String := ["!", "&", "*"]

def Tag.ofWord (text : String) : Tag :=
  let cs := text.toList
  if (booleans.flatMap fun entry => spellings entry.1).contains text then .bool
  else if isFloatForm cs then .float
  else if isIntForm cs then .int
  else if text = "<<" then .merge
  else if text = "" ∨ text = "~" ∨ (spellings "null").contains text then .null
  else if isMomentForm cs then .timestamp
  else if text = "=" then .value
  else if signs.contains text then .other text
  else .str

def withoutBreak (text : String) : String :=
  if text.endsWith "\n" then (text.dropEnd 1).toString else text

/-- The tag that a scalar has by its form. One line break may end the form, but is none. -/
def Tag.ofForm (text : String) : Tag :=
  if text = "\n" then .str else Tag.ofWord (withoutBreak text)

/-! The values of scalars -/

def integer (base : Nat) (cs : List Char) : Except Breakdown Int :=
  match Text.integerIn? base cs with
  | some n => .ok n
  | none => .error .notANumber

/-- An integer without its first sign: binary, hexadecimal, octal, in sixties or decimal. -/
def natural (cs : List Char) : Except Breakdown Int :=
  match cs with
  | [] => .error .operandMissing
  | ['0'] => .ok 0
  | '0' :: 'b' :: rest => integer 2 rest
  | '0' :: 'x' :: rest => integer 16 rest
  | '0' :: _ => integer 8 cs
  | cs => do
    let parts ← (pieces ':' cs).mapM (integer 10)
    return parts.foldl (fun n d => 60 * n + d) 0

/-- A text without underscores, and whether a minus sign led it. -/
def unsigned (text : String) : Except Breakdown (Bool × List Char) :=
  match text.toList.filter (· ≠ '_') with
  | [] => .error .operandMissing
  | '-' :: rest => .ok (true, rest)
  | '+' :: rest => .ok (false, rest)
  | cs => .ok (false, cs)

def intValue (text : String) : Except Breakdown Value := do
  let (negative, cs) ← unsigned text
  let n ← natural cs
  return .int (if negative then -n else n)

def real (cs : List Char) : Except Breakdown Binary64 :=
  match Text.real? (String.ofList cs) with
  | some x => .ok x
  | none => .error .notANumber

def powerOfSixty (exponent : Nat) : Except Breakdown Binary64 :=
  match Binary64.ofInt? (Nat.pow 60 exponent) with
  | some x => .ok x
  | none => .error .tooLarge

/-- The sum of sixtieths, the last one first. -/
def ofSixtieths (parts : List Binary64) : Except Breakdown Binary64 :=
  parts.zipIdx.foldlM (fun sum part => do
    return sum.plus (part.1.times (← powerOfSixty part.2))) .zero

def nanWord : String := ".nan"

def floatValue (text : String) : Except Breakdown Value := do
  let (negative, cs) ← unsigned (Text.lower text)
  let word := String.ofList cs
  let x ←
    if word = ".inf" then pure (Binary64.infinity false)
    else if word = nanWord then pure Binary64.nan
    else
      match pieces ':' cs with
      | [cs] => real cs
      | parts => do ofSixtieths (← parts.mapM real).reverse
  return .float (if negative then x.negate else x)

/-- Is it the word for no number? All of its uses give one and the same. -/
def isNanWord (text : String) : Bool :=
  match unsigned (Text.lower text) with
  | .ok (_, cs) => String.ofList cs == nanWord
  | .error _ => false

def boolValue (text : String) : Except Breakdown Value :=
  match booleans.lookup (Text.lower text) with
  | some b => .ok (.bool b)
  | none => .error .unknownName

def digitsValue (cs : List Char) : Nat := cs.foldl (fun n c => 10 * n + (c.toNat - 48)) 0

def micros (fraction : List Char) : Nat :=
  let kept := fraction.take 6
  digitsValue kept * Nat.pow 10 (6 - kept.length)

def MomentText.moment (m : MomentText) : Moment :=
  { year := digitsValue m.year, month := digitsValue m.month, day := digitsValue m.day
    clock := m.clock.map fun (hour, minute, second, fraction) =>
      (digitsValue hour, digitsValue minute, digitsValue second, micros fraction)
    offset := m.zone.map fun zone =>
      match zone with
      | some (negative, hours, minutes) =>
        let seconds : Int := digitsValue hours * 3600 + digitsValue minutes * 60
        if negative then -seconds else seconds
      | none => 0 }

def momentValue (text : String) : Except Breakdown Value :=
  match momentText? (withoutBreak text).toList with
  | none => .error .notAType
  | some m => if m.moment.isCalendar then .ok (.moment m.moment) else .error .notANumber

end ReductionIR.Yaml
