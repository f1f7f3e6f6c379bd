import ReductionIR.Breakdown
/-
Reading YAML text character by character: the characters still to come, and line, column
and index of the next one. Nothing follows the last character, which reads as `none`.
-/
namespace ReductionIR.Yaml

/-- Why a text is no YAML document, or holds a value that cannot be built. -/
inductive Failure
  | invalid
  | value (failure : Breakdown)

structure Cursor where
  rest : List Char
  index : Nat := 0
  line : Nat := 0
  column : Nat := 0

abbrev Read := StateT Cursor (Except Failure)

def invalid {α : Type} : Read α := throw .invalid

def demand (condition : Bool) : Read Unit := if condition then pure () else invalid

def isBreak (c : Char) : Bool :=
  c = '\n' || c = '\r' || c = '\u0085' || c = '\u2028' || c = '\u2029'

/-- The mark that may open a text and takes no column. -/
def byteOrderMark : Char := '\uFEFF'

def breaksOrEnds : Option Char → Bool
  | none => true
  | some c => isBreak c

def endsWord : Option Char → Bool
  | none => true
  | some c => c = ' ' || c = '\t' || isBreak c

/-- The same for words that tabs do not end. -/
def endsField : Option Char → Bool
  | none => true
  | some c => c = ' ' || isBreak c

def isOneOf (chars : String) : Option Char → Bool
  | none => false
  | some c => chars.toList.contains c

def isWordChar (c : Char) : Bool := c.isAlphanum || c = '-' || c = '_'

def hexValue? (c : Char) : Option Nat :=
  if '0' ≤ c ∧ c ≤ '9' then some (c.toNat - 48)
  else if 'a' ≤ c ∧ c ≤ 'f' then some (c.toNat - 87)
  else if 'A' ≤ c ∧ c ≤ 'F' then some (c.toNat - 55)
  else none

namespace Cursor

def peek (c : Cursor) (ahead : Nat) : Option Char := c.rest[ahead]?

def next (c : Cursor) : Cursor :=
  match c.rest with
  | [] => c
  | ch :: rest =>
    if isBreak ch && !(ch = '\r' && rest.head? == some '\n') then
      { rest, index := c.index + 1, line := c.line + 1, column := 0 }
    else
      { c with rest, index := c.index + 1,
               column := if ch = byteOrderMark then c.column else c.column + 1 }

def skip : Nat → Cursor → Cursor
  | 0, c => c
  | n + 1, c => skip n c.next

/-- Does a line of three such characters start here, followed by the end of a word? -/
def atMarker (mark : Char) (c : Cursor) : Bool :=
  c.rest.take 3 == [mark, mark, mark] && endsWord (c.peek 3)

def atSeparator (c : Cursor) : Bool := c.atMarker '-' || c.atMarker '.'

end Cursor

namespace Read

def peek (ahead : Nat) : Read (Option Char) := do return (← get).peek ahead

def skip (n : Nat) : Read Unit := modify (Cursor.skip n)

/-- Take the next characters for as long as they are of a kind. -/
def takeWhile (p : Char → Bool) : Read (List Char) := do
  let taken := (← get).rest.takeWhile p
  skip taken.length
  return taken

def skipSpaces : Read Unit := do
  let _ ← takeWhile (· = ' ')

/-- Take one line break, if it stands here; most of them count as the same one. -/
def lineBreak : Read (List Char) := do
  match (← get).rest with
  | '\r' :: '\n' :: _ => do skip 2; return ['\n']
  | ch :: _ =>
    if ch = '\n' || ch = '\r' || ch = '\u0085' then do skip 1; return ['\n']
    else if isBreak ch then do skip 1; return [ch]
    else return []
  | [] => return []

def skipComment : Read Unit := do
  if (← peek 0) = some '#' then
    let _ ← takeWhile fun ch => !isBreak ch

/-- Nothing but blanks and a comment may be left on the line. -/
def blankLine : Read Unit := do
  skipSpaces
  skipComment
  demand (breaksOrEnds (← peek 0))
  let _ ← lineBreak

def bound : Read Nat := do return (← get).rest.length + 1

end Read

end ReductionIR.Yaml
