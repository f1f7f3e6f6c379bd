import ReductionIR.Yaml.Scalar
/-
The tokens of a YAML text, up to the first failure. Indentation opens and closes block
collections, and a key is only known as one when its colon comes, so its token goes in front
of what was read since.
-/
namespace ReductionIR.Yaml

/-- A tag as written: a handle that stands for a leading part, if there is one, and the
    rest. -/
structure TagText where
  handle : Option String
  rest : String

inductive Token
  | version (major : Nat)
  | handle (name leading : String)
  | otherDirective
  | documentStart
  | documentEnd
  | blockSequence
  | blockMapping
  | blockEnd
  | flowSequence
  | flowSequenceEnd
  | flowMapping
  | flowMappingEnd
  | item
  | comma
  | key
  | colon
  | alias (name : String)
  | anchor (name : String)
  | tag (text : TagText)
  | scalar (text : String) (plain : Bool)

namespace Read

def digits : Read Nat := do
  let taken ← takeWhile Char.isDigit
  demand !taken.isEmpty
  match Text.natural? 10 taken with
  | some n => return n
  | none => throw (.value .notANumber)

def word : Read String := do
  let taken ← takeWhile isWordChar
  demand !taken.isEmpty
  return String.ofList taken

/-- Bytes written as percent signs with two hexadecimal digits each. -/
def escapedBytes : Nat → Read (List UInt8)
  | 0 => return []
  | steps + 1 => do
    if (← peek 0) = some '%' then do
      skip 1
      match (← get).rest.take 2 with
      | [a, b] =>
        match hexValue? a, hexValue? b with
        | some m, some n => do
          skip 2
          return (16 * m + n).toUInt8 :: (← escapedBytes steps)
        | _, _ => invalid
      | _ => invalid
    else return []

def isUriChar (c : Char) : Bool :=
  c.isAlphanum || isOneOf "-;/?:@&=+$,_.!~*'()[]" (some c)

def uriParts : Nat → Read (List Char)
  | 0 => return []
  | steps + 1 => do
    let plain ← takeWhile isUriChar
    if (← peek 0) = some '%' then
      let bytes ← escapedBytes (← bound)
      match String.fromUTF8? ⟨bytes.toArray⟩ with
      | some text => return plain ++ text.toList ++ (← uriParts steps)
      | none => invalid
    else return plain

def uri : Read String := do
  let taken ← uriParts (← bound)
  demand !taken.isEmpty
  return String.ofList taken

/-- `!`, or a word between two of them. -/
def tagHandle : Read String := do
  demand ((← peek 0) = some '!')
  if (← peek 1) = some ' ' then do
    skip 1
    return "!"
  else
    skip 1
    let name ← takeWhile isWordChar
    demand ((← peek 0) = some '!')
    skip 1
    return "!" ++ String.ofList name ++ "!"

def directive : Read Token := do
  skip 1
  let name ← word
  demand (endsField (← peek 0))
  let token ←
    if name = "YAML" then do
      skipSpaces
      let major ← digits
      demand ((← peek 0) = some '.')
      skip 1
      let _ ← digits
      demand (endsField (← peek 0))
      pure (Token.version major)
    else if name = "TAG" then do
      skipSpaces
      let handle ← tagHandle
      demand ((← peek 0) = some ' ')
      skipSpaces
      let leading ← uri
      demand (endsField (← peek 0))
      pure (Token.handle handle leading)
    else do
      let _ ← takeWhile fun c => !isBreak c
      pure Token.otherDirective
  blankLine
  return token

def anchorName : Read String := do
  skip 1
  let name ← word
  let after ← peek 0
  demand (endsWord after || isOneOf "?:,]\x7d%@`" after)
  return name

/-- Is there a second exclamation mark before the end of the field? -/
def hasHandle (rest : List Char) : Bool :=
  ((rest.drop 1).takeWhile fun c => !(c = ' ' || isBreak c)).contains '!'

def tagText : Read TagText := do
  let after ← peek 1
  let text ←
    if after = some '<' then do
      skip 2
      let rest ← uri
      demand ((← peek 0) = some '>')
      skip 1
      pure ⟨none, rest⟩
    else if endsWord after then do
      skip 1
      pure ⟨none, "!"⟩
    else if hasHandle (← get).rest then do
      let handle ← tagHandle
      pure ⟨some handle, ← uri⟩
    else do
      skip 1
      pure ⟨some "!", ← uri⟩
  demand (endsField (← peek 0))
  return text

end Read

/-- A place where a key may have begun: the number of tokens before it. A required key must
    be followed by a colon on its line. -/
structure KeyPlace where
  place : Nat
  required : Bool
  index : Nat
  line : Nat
  column : Nat

/-- A scan under way: how many tokens are settled, as nothing can come in front of them any
    more, and the tokens after them. The column of the innermost block collection is -1 outside
    all. -/
structure Scan where
  settled : Nat := 0
  tokens : List Token := []
  depth : Nat := 0
  indent : Int := -1
  outer : List Int := []
  keyAllowed : Bool := true
  keys : List (Nat × KeyPlace) := []

/-- A key stands on one line and is no longer than this. -/
def keyLimit : Nat := 1024

namespace Scan

def add (token : Token) (s : Scan) : Scan := { s with tokens := s.tokens ++ [token] }

def insertAt (place : Nat) (token : Token) (s : Scan) : Scan :=
  let index := place - s.settled
  { s with tokens := s.tokens.take index ++ token :: s.tokens.drop index }

/-- Close the block collections deeper than a column; brackets suspend indentation. -/
def unwind (column : Int) (s : Scan) : Scan :=
  if s.depth ≠ 0 then s
  else
    let levels := s.indent :: s.outer
    let closed := levels.takeWhile fun level => decide (column < level)
    let ends := closed.map fun _ => Token.blockEnd
    match levels.drop closed.length with
    | [] => { s with tokens := s.tokens ++ ends, indent := -1, outer := [] }
    | level :: outer => { s with tokens := s.tokens ++ ends, indent := level, outer }

def opens (column : Nat) (s : Scan) : Bool := s.depth = 0 && decide (s.indent < column)

def deepen (column : Nat) (s : Scan) : Scan :=
  { s with indent := column, outer := s.indent :: s.outer }

def openAt (column : Nat) (token : Token) (s : Scan) : Scan :=
  if s.opens column then (s.deepen column).add token else s

def dropKey (s : Scan) : Read Scan := do
  match s.keys.lookup s.depth with
  | some key =>
    demand !key.required
    return { s with keys := s.keys.filter fun entry => entry.1 ≠ s.depth }
  | none => return s

/-- Note that a key may begin here. -/
def noteKey (s : Scan) : Read Scan := do
  if s.keyAllowed then
    let c ← get
    let required := s.depth = 0 && s.indent = (c.column : Int)
    let s ← s.dropKey
    let place := s.settled + s.tokens.length
    let key : KeyPlace := ⟨place, required, c.index, c.line, c.column⟩
    return { s with keys := (s.depth, key) :: s.keys }
  else return s

def dropStale (s : Scan) : Read Scan := do
  let c ← get
  let isStale (key : KeyPlace) : Bool :=
    key.line ≠ c.line || decide (keyLimit < c.index - key.index)
  demand !(s.keys.any fun entry => isStale entry.2 && entry.2.required)
  return { s with keys := s.keys.filter fun entry => !isStale entry.2 }

/-- Skip blanks, comments and line breaks; a key may begin on a new line. -/
def skipToToken : Nat → Scan → Read Scan
  | 0, s => return s
  | steps + 1, s => do
    Read.skipSpaces
    Read.skipComment
    match ← Read.lineBreak with
    | [] => return s
    | _ => skipToToken steps (if s.depth = 0 then { s with keyAllowed := true } else s)

/-- A document marker or directive ends all block collections. -/
def outermost (s : Scan) : Read Scan := do
  let s ← (s.unwind (-1)).dropKey
  return { s with keyAllowed := false }

def flowStart (token : Token) (s : Scan) : Read Scan := do
  let s ← s.noteKey
  Read.skip 1
  return { s with depth := s.depth + 1, keyAllowed := true }.add token

def flowEnd (token : Token) (s : Scan) : Read Scan := do
  let s ← s.dropKey
  demand (s.depth ≠ 0)
  Read.skip 1
  return { s with depth := s.depth - 1, keyAllowed := false }.add token

def comma (s : Scan) : Read Scan := do
  let s ← s.dropKey
  Read.skip 1
  return { s with keyAllowed := true }.add .comma

def item (s : Scan) : Read Scan := do
  demand (s.depth ≠ 0 || s.keyAllowed)
  let s := s.openAt (← get).column .blockSequence
  let s ← { s with keyAllowed := true }.dropKey
  Read.skip 1
  return s.add .item

def key (s : Scan) : Read Scan := do
  demand (s.depth ≠ 0 || s.keyAllowed)
  let s := s.openAt (← get).column .blockMapping
  let s ← { s with keyAllowed := s.depth = 0 }.dropKey
  Read.skip 1
  return s.add .key

/-- A colon makes the possible key of its depth one, or follows a key of several lines. -/
def colon (s : Scan) : Read Scan := do
  match s.keys.lookup s.depth with
  | some key =>
    let s := { s with keys := s.keys.filter fun entry => entry.1 ≠ s.depth, keyAllowed := false }
    let s := s.insertAt key.place .key
    Read.skip 1
    return (if s.opens key.column then (s.deepen key.column).insertAt key.place .blockMapping
      else s).add .colon
  | none =>
    demand (s.depth ≠ 0 || s.keyAllowed)
    let s := s.openAt (← get).column .blockMapping
    let s ← { s with keyAllowed := s.depth = 0 }.dropKey
    Read.skip 1
    return s.add .colon

def keyPart (read : Read Token) (s : Scan) : Read Scan := do
  let s ← s.noteKey
  let token ← read
  return { s with keyAllowed := false }.add token

def blockScalar (folded : Bool) (s : Scan) : Read Scan := do
  let s ← { s with keyAllowed := true }.dropKey
  let text ← Read.block folded s.indent
  return s.add (.scalar text false)

def plainScalar (s : Scan) : Read Scan := do
  let s ← s.noteKey
  let (text, broken) ← Read.plain (s.depth ≠ 0) s.indent
  return { s with keyAllowed := broken }.add (.scalar text true)

def startsPlain (flow : Bool) (ch : Char) (after : Option Char) : Bool :=
  !(endsWord (some ch) || isOneOf "-?:,[]\x7b\x7d#&*!|>'\"%@`" (some ch)) ||
    (!endsWord after && (ch = '-' || (!flow && (ch = '?' || ch = ':'))))

def token (ch : Char) (s : Scan) : Read Scan := do
  let c ← get
  let after := c.peek 1
  let flow := s.depth ≠ 0
  if ch = '%' && c.column = 0 then
    let s ← s.outermost
    return s.add (← Read.directive)
  else if c.column = 0 && c.atMarker '-' then
    let s ← s.outermost
    Read.skip 3
    return s.add .documentStart
  else if c.column = 0 && c.atMarker '.' then
    let s ← s.outermost
    Read.skip 3
    return s.add .documentEnd
  else if ch = '[' then s.flowStart .flowSequence
  else if ch = '\x7b' then s.flowStart .flowMapping
  else if ch = ']' then s.flowEnd .flowSequenceEnd
  else if ch = '\x7d' then s.flowEnd .flowMappingEnd
  else if ch = ',' then s.comma
  else if ch = '-' && endsWord after then s.item
  else if ch = '?' && (flow || endsWord after) then s.key
  else if ch = ':' && (flow || endsWord after) then s.colon
  else if ch = '*' then s.keyPart (return .alias (← Read.anchorName))
  else if ch = '&' then s.keyPart (return .anchor (← Read.anchorName))
  else if ch = '!' then s.keyPart (return .tag (← Read.tagText))
  else if ch = '|' && !flow then s.blockScalar false
  else if ch = '>' && !flow then s.blockScalar true
  else if ch = '\'' || ch = '"' then
    s.keyPart (return .scalar (← Read.quoted ch) false)
  else if startsPlain flow ch after then s.plainScalar
  else invalid

/-- Read one more token; the flag tells whether the text goes on. -/
def advance (s : Scan) : Read (Scan × Bool) := do
  let s ← skipToToken (← Read.bound) s
  let s ← s.dropStale
  let s := s.unwind (← get).column
  match ← Read.peek 0 with
  | none => return (← s.outermost, false)
  | some ch => return (← (← s.token ch).dropStale, true)

/-- Part off the tokens before the first place where a key may have begun. -/
def settle (s : Scan) : List Token × Scan :=
  let first := (s.keys.map fun entry => entry.2.place - s.settled).foldl min s.tokens.length
  (s.tokens.take first,
    { s with settled := s.settled + first, tokens := s.tokens.drop first })

/-- Read tokens to the end of the text or up to a failure, given the settled ones with the last
    one first. At a failure only those count. -/
def run : Nat → List Token → Scan → Cursor → List Token × Option Failure
  | 0, done, _, _ => (done.reverse, some .invalid)
  | steps + 1, done, s, c =>
    match s.advance.run c with
    | .ok ((s, true), c) =>
      let (more, s) := s.settle
      run steps (more.reverse ++ done) s c
    | .ok ((s, false), _) => (done.reverse ++ s.tokens, none)
    | .error failure => (done.reverse, some failure)

end Scan

def isAllowed (c : Char) : Bool :=
  let n := c.toNat
  n = 9 || n = 10 || n = 13 || (32 ≤ n && n ≤ 126) || n = 133 || (160 ≤ n && n ≤ 0xFFFD) ||
    0x10000 ≤ n

/-- The tokens of a text, and the failure that follows them, if there is one. -/
def Token.ofText (text : String) : List Token × Option Failure :=
  if !text.toList.all isAllowed then ([], some .invalid)
  else
    let rest := if text.toList.head? = some byteOrderMark then text.toList.drop 1 else text.toList
    Scan.run (rest.length + 1) [] {} { rest }

end ReductionIR.Yaml
