import ReductionIR.Yaml.Cursor
/-
Reading the scalars of YAML: quoted on one or more lines, as blocks of lines, and plain.
-/
namespace ReductionIR.Yaml

/-- What a backslash and a character stand for between double quotes. -/
def escapes : List (Char × Char) :=
  [('0', '\x00'), ('a', '\x07'), ('b', '\x08'), ('t', '\x09'), ('\t', '\x09'), ('n', '\n'),
    ('v', '\x0b'), ('f', '\x0c'), ('r', '\r'), ('e', '\x1b'), (' ', ' '), ('"', '"'),
    ('\\', '\\'), ('/', '/'), ('N', '\u0085'), ('_', '\u00a0'), ('L', '\u2028'),
    ('P', '\u2029')]

/-- How many hexadecimal digits follow a backslash and a character. -/
def codeLengths : List (Char × Nat) := [('x', 2), ('u', 4), ('U', 8)]

namespace Read

def quotedBreaks : Nat → Read (List Char)
  | 0 => invalid
  | steps + 1 => do
    demand (!(← get).atSeparator)
    let _ ← takeWhile fun ch => ch = ' ' || ch = '\t'
    match ← lineBreak with
    | [] => return []
    | taken => return taken ++ (← quotedBreaks steps)

def codePoint (digits : Nat) : Read Char := do
  let taken := (← get).rest.take digits
  match taken.mapM hexValue? with
  | some values =>
    demand (values.length = digits)
    skip digits
    let n := values.foldl (fun n d => 16 * n + d) 0
    if 0x80000000 ≤ n then throw (.value .tooLarge)
    else if 0x110000 ≤ n then throw (.value .notANumber)
    else return Text.ofNumber n
  | none => invalid

def escaped : Read (List Char) := do
  match ← peek 0 with
  | none => invalid
  | some ch =>
    match escapes.lookup ch, codeLengths.lookup ch with
    | some c, _ => do skip 1; return [c]
    | none, some digits => do skip 1; return [← codePoint digits]
    | none, none =>
      if isBreak ch then do
        let _ ← lineBreak
        quotedBreaks (← bound)
      else invalid

/-- The part of a quoted scalar up to a blank, a break or the closing quote. -/
def quotedWord (quote : Char) : Nat → Read (List Char)
  | 0 => invalid
  | steps + 1 => do
    let plain ← takeWhile fun ch =>
      !(ch = '\'' || ch = '"' || ch = '\\' || ch = ' ' || ch = '\t' || isBreak ch)
    let double := quote = '"'
    match ← peek 0 with
    | some '\'' =>
      if double then do
        skip 1
        return plain ++ '\'' :: (← quotedWord quote steps)
      else if (← peek 1) = some '\'' then do
        skip 2
        return plain ++ '\'' :: (← quotedWord quote steps)
      else return plain
    | some '"' =>
      if double then return plain
      else do
        skip 1
        return plain ++ '"' :: (← quotedWord quote steps)
    | some '\\' => do
      skip 1
      let taken ← if double then escaped else pure ['\\']
      return plain ++ taken ++ (← quotedWord quote steps)
    | _ => return plain

/-- The blanks or breaks between two words: one break folds to a space, more to themselves
    less the first one. -/
def quotedBlanks : Read (List Char) := do
  let blanks ← takeWhile fun ch => ch = ' ' || ch = '\t'
  demand (← peek 0).isSome
  match ← lineBreak with
  | [] => return blanks
  | taken =>
    let more ← quotedBreaks (← bound)
    if taken ≠ ['\n'] then return taken ++ more
    else if more.isEmpty then return [' ']
    else return more

def quotedRest (quote : Char) : Nat → Read (List Char)
  | 0 => invalid
  | steps + 1 => do
    if (← peek 0) = some quote then do
      skip 1
      return []
    else
      let blanks ← quotedBlanks
      let word ← quotedWord quote (← bound)
      return blanks ++ word ++ (← quotedRest quote steps)

def quoted (quote : Char) : Read String := do
  skip 1
  let word ← quotedWord quote (← bound)
  return String.ofList (word ++ (← quotedRest quote (← bound)))

/-- How the line breaks at the end of a block are kept. -/
inductive Chomping
  | clip | strip | keep
deriving DecidableEq

def chomping : Read (Option Chomping) := do
  match ← peek 0 with
  | some '+' => do skip 1; return some .keep
  | some '-' => do skip 1; return some .strip
  | _ => return none

def indentation : Read (Option Nat) := do
  match ← peek 0 with
  | some ch =>
    if ch.isDigit then do
      demand (ch ≠ '0')
      skip 1
      return some (ch.toNat - 48)
    else return none
  | none => return none

/-- The indicators after the one that opens a block, in either order. -/
def blockHeader : Read (Chomping × Option Nat) := do
  let first ← chomping
  let width ← indentation
  let last ← if first.isNone && width.isSome then chomping else pure none
  demand (endsField (← peek 0))
  return ((first.or last).getD .clip, width)

/-- Leading blank lines and the greatest indentation among them. -/
def leadingBreaks : Nat → Nat → Read (List Char × Nat)
  | 0, widest => return ([], widest)
  | steps + 1, widest => do
    match ← peek 0 with
    | some ' ' => do
      skip 1
      leadingBreaks steps (max widest (← get).column)
    | _ =>
      match ← lineBreak with
      | [] => return ([], widest)
      | taken =>
        let (more, widest) ← leadingBreaks steps widest
        return (taken ++ more, widest)

def indentTo (column : Nat) : Read Unit := do
  let c ← get
  let blanks := (c.rest.take (column - c.column)).takeWhile (· = ' ')
  skip blanks.length

def blockBreaks (column : Nat) : Nat → Read (List Char)
  | 0 => return []
  | steps + 1 => do
    indentTo column
    match ← lineBreak with
    | [] => return []
    | taken => return taken ++ (← blockBreaks column steps)

def startsBlank : Option Char → Bool
  | some c => c = ' ' || c = '\t'
  | none => false

/-- The lines of a block, given the breaks before the next one; the break after the last
    line and the breaks that follow it come apart. -/
def blockLines (folded : Bool) (column : Nat) :
    Nat → List Char → Read (List Char × List Char × List Char)
  | 0, breaks => return ([], [], breaks)
  | steps + 1, breaks => do
    let blank := startsBlank (← peek 0)
    let text ← takeWhile fun ch => !isBreak ch
    let ending ← lineBreak
    let more ← blockBreaks column (← bound)
    let c ← get
    if c.column = column && (c.peek 0).isSome then
      let glue :=
        if folded && ending = ['\n'] && !blank && !startsBlank (c.peek 0) then
          (if more.isEmpty then [' '] else [])
        else ending
      let (rest, ending, tail) ← blockLines folded column steps more
      return (breaks ++ text ++ glue ++ rest, ending, tail)
    else return (breaks ++ text, ending, more)

/-- A block of lines deeper than `indent`. -/
def block (folded : Bool) (indent : Int) : Read String := do
  skip 1
  let (chomp, width) ← blockHeader
  blankLine
  let least := (max 1 (indent + 1)).toNat
  let (breaks, column) ← match width with
    | none => do
      let (breaks, widest) ← leadingBreaks (← bound) 0
      pure (breaks, max least widest)
    | some width => do
      let column := least + width - 1
      pure (← blockBreaks column (← bound), column)
  let c ← get
  let (text, ending, tail) ←
    if c.column = column && (c.peek 0).isSome then
      blockLines folded column (← bound) breaks
    else pure ([], [], breaks)
  let ending := if chomp = .strip then [] else ending
  let tail := if chomp = .keep then tail else []
  return String.ofList (text ++ ending ++ tail)

/-- Does a plain scalar end before these characters? Between brackets, the characters of
    flow collections end it too. -/
def endsPlain (flow : Bool) : List Char → Bool
  | [] => true
  | ch :: rest =>
    endsWord (some ch) ||
      (ch = ':' && (endsWord rest.head? || (flow && isOneOf ",[]\x7b\x7d" rest.head?))) ||
      (flow && isOneOf ",?[]\x7b\x7d" (some ch))

def plainWord (flow : Bool) : List Char → List Char
  | [] => []
  | ch :: rest => if endsPlain flow (ch :: rest) then [] else ch :: plainWord flow rest

/-- Line breaks within a plain scalar; `none` before a line that separates documents. -/
def plainBreaks : Nat → Read (Option (List Char))
  | 0 => return some []
  | steps + 1 => do
    match ← peek 0 with
    | some ' ' => do
      skip 1
      plainBreaks steps
    | _ =>
      match ← lineBreak with
      | [] => return some []
      | taken =>
        if (← get).atSeparator then return none
        else return (← plainBreaks steps).map (taken ++ ·)

/-- The blanks after a word of a plain scalar, folded; the flag tells of a line break. -/
def plainBlanks : Read (List Char × Bool) := do
  let blanks ← takeWhile (· = ' ')
  match ← lineBreak with
  | [] => return (blanks, false)
  | taken =>
    if (← get).atSeparator then return ([], true)
    else
      match ← plainBreaks (← bound) with
      | none => return ([], true)
      | some more =>
        if taken ≠ ['\n'] then return (taken ++ more, true)
        else if more.isEmpty then return ([' '], true)
        else return (more, true)

/-- The words of a plain scalar after some blanks; the flag tells whether a line break came
    after the last word. -/
def plainRest (flow : Bool) (indent : Int) (broken : Bool) :
    Nat → List Char → Read (List Char × Bool)
  | 0, _ => return ([], broken)
  | steps + 1, blanks => do
    let c ← get
    let word := plainWord flow c.rest
    if c.peek 0 = some '#' || word.isEmpty then return ([], broken)
    else
      skip word.length
      let (spaces, broke) ← plainBlanks
      let c ← get
      if spaces.isEmpty || c.peek 0 = some '#' || (!flow && decide (c.column < indent)) then
        return (blanks ++ word, broke)
      else
        let (rest, broke) ← plainRest flow indent broke steps spaces
        return (blanks ++ word ++ rest, broke)

/-- A plain scalar, and whether a line break came after its last word. -/
def plain (flow : Bool) (indent : Int) : Read (String × Bool) := do
  let (text, broken) ← plainRest flow (indent + 1) false (← bound) []
  return (String.ofList text, broken)

end Read

end ReductionIR.Yaml
