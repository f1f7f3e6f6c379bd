/-
Reading whole numbers from text: blanks around, a sign, digits of a base, decimal ones of any
script, and single underscores between digits.
-/
namespace ReductionIR.Text

/-- The code points of the digit zero, one for each script with decimal digits. -/
def zeroDigits : List Nat := [
    48, 1632, 1776, 1984, 2406, 2534, 2662, 2790, 2918, 3046, 3174, 3302, 3430, 3558, 3664, 3792,
    3872, 4160, 4240, 6112, 6160, 6470, 6608, 6784, 6800, 6992, 7088, 7232, 7248, 42528, 43216,
    43264, 43472, 43504, 43600, 44016, 65296, 66720, 68912, 69734, 69872, 69942, 70096, 70384,
    70736, 70864, 71248, 71360, 71472, 71904, 72016, 72784, 73040, 73120, 92768, 92864, 93008,
    120782, 120792, 120802, 120812, 120822, 123200, 123632, 125264, 130032
  ]

def blanks : List Nat := [
    9, 10, 11, 12, 13, 28, 29, 30, 31, 32, 133, 160, 5760, 8192, 8193, 8194, 8195, 8196, 8197,
    8198, 8199, 8200, 8201, 8202, 8232, 8233, 8239, 8287, 12288
  ]

def isBlank (c : Char) : Bool := blanks.contains c.toNat

def digitValue? (c : Char) : Option Nat :=
  (zeroDigits.find? fun start => decide (start ≤ c.toNat ∧ c.toNat < start + 10)).map (c.toNat - ·)

/-- The blanks around a numeral: characters that part fields of data are none. -/
def isPadding (c : Char) : Bool := isBlank c && !(decide (28 ≤ c.toNat ∧ c.toNat ≤ 31))

def trim (p : Char → Bool) (cs : List Char) : List Char :=
  ((cs.dropWhile p).reverse.dropWhile p).reverse

def trimBlanks : List Char → List Char := trim isBlank

def trimPadding : List Char → List Char := trim isPadding

def letterValue? (c : Char) : Option Nat :=
  if 'a' ≤ c ∧ c ≤ 'z' then some (c.toNat - 87)
  else if 'A' ≤ c ∧ c ≤ 'Z' then some (c.toNat - 55)
  else none

def digitIn? (base : Nat) (c : Char) : Option Nat :=
  ((digitValue? c).or (letterValue? c)).filter fun d => decide (d < base)

/-- The digits of a numeral, where an underscore may stand between two of them. -/
def digits? (base : Nat) : List Char → Option (List Nat)
  | [] => none
  | [c] => (digitIn? base c).map ([·])
  | c :: '_' :: rest => do
    let d ← digitIn? base c
    let ds ← digits? base rest
    return d :: ds
  | c :: rest => do
    let d ← digitIn? base c
    let ds ← digits? base rest
    return d :: ds

def numberIn (base : Nat) (digits : List Nat) : Nat := digits.foldl (fun n d => base * n + d) 0

def ofDigits (digits : List Nat) : Nat := numberIn 10 digits

/-- No more decimal digits than this are read or written. -/
def digitLimit : Nat := 4300

def baseLetters : List (Nat × Char) := [(2, 'b'), (8, 'o'), (16, 'x')]

/-- Leave out the zero and the letter that announce a base, and one underscore after them. -/
def unannounced (base : Nat) (cs : List Char) : List Char :=
  match cs with
  | '0' :: c :: rest =>
    if baseLetters.lookup base = some c.toLower then
      (if rest.head? = some '_' then rest.drop 1 else rest)
    else cs
  | _ => cs

def natural? (base : Nat) (cs : List Char) : Option Nat := do
  let digits ← digits? base (unannounced base cs)
  if base = 10 ∧ digitLimit < digits.length then none else some (numberIn base digits)

def integerIn? (base : Nat) (cs : List Char) : Option Int :=
  match trimPadding cs with
  | '-' :: rest => (natural? base rest).map fun n => -(n : Int)
  | '+' :: rest => (natural? base rest).map fun n => (n : Int)
  | rest => (natural? base rest).map fun n => (n : Int)

def integer? (text : String) : Option Int := integerIn? 10 text.toList

end ReductionIR.Text
