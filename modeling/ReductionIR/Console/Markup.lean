import ReductionIR.Console.Pictograph
import ReductionIR.Console.Style
/-
Marked-up text for a console: tags in square brackets change the style and do not show. A
closing tag must have an open tag to close, and a backslash before a tag makes it plain text.
-/
namespace ReductionIR.Console

inductive MarkupPart
  | plain (text : String)
  | tag (name : String) (parameters : Option String)

/-- May this character begin a tag? -/
def beginsTag (c : Char) : Bool :=
  ('a' ≤ c && c ≤ 'z') || c = '#' || c = '/' || c = '@'

/-- A tag at the head of a text: the number of backslashes before it, what it holds and what
    follows. -/
def tagAt? (cs : List Char) : Option (Nat × List Char × List Char) :=
  let slashes := cs.takeWhile (· = '\\')
  match cs.drop slashes.length with
  | '[' :: c :: more =>
    let inner := more.takeWhile fun c => c ≠ '[' && c ≠ ']'
    match beginsTag c, more.drop inner.length with
    | true, ']' :: rest => some (slashes.length, c :: inner, rest)
    | _, _ => none
  | _ => none

def MarkupPart.ofTag (inner : List Char) : MarkupPart :=
  let name := inner.takeWhile (· ≠ '=')
  match inner.drop name.length with
  | [] => .tag (String.ofList name) none
  | _ :: parameters => .tag (String.ofList name) (some (String.ofList parameters))

def plainPart (cs : List Char) : List MarkupPart :=
  if cs.isEmpty then [] else [.plain (String.ofList cs)]

/-- Cut a text into plain parts and tags. Of the backslashes before a tag every two stand for
    one, and an odd one makes the tag plain. -/
def markupParts : Nat → List Char → List Char → List MarkupPart
  | 0, before, cs => plainPart (before.reverse ++ cs)
  | steps + 1, before, cs =>
    match tagAt? cs, cs with
    | some (slashes, inner, rest), _ =>
      plainPart before.reverse ++ plainPart (List.replicate (slashes / 2) '\\') ++
        (if slashes % 2 = 1 then plainPart ('[' :: inner ++ [']']) else [.ofTag inner]) ++
        markupParts steps [] rest
    | none, [] => plainPart before.reverse
    | none, c :: rest => markupParts steps (c :: before) rest

/-- An open tag: the name of its style and its parameters. -/
structure OpenTag where
  name : String
  parameters : Option String

/-- Take the innermost open tag of a name, or of any name, off the open tags. -/
def closeTag? (name : Option String) : List OpenTag → Option (OpenTag × List OpenTag)
  | [] => none
  | tag :: outer =>
    if name.all (· == tag.name) then some (tag, outer)
    else (closeTag? name outer).map fun (found, rest) => (found, tag :: rest)

def isLiteral (cs : List Char) : Bool :=
  let cs := Text.trimBlanks cs
  (!cs.isEmpty && cs.all Char.isDigit) ||
    ["True", "False", "None"].contains (String.ofList cs) ||
    (match cs.head?, cs.getLast? with
      | some a, some b =>
        (a = '\'' || a = '"') && a = b && 2 ≤ cs.length &&
          !((cs.drop 1).dropLast.any fun c => c = a || c = '\\' || c = '\n')
      | _, _ => false)

/-- Are the parameters of an action readable: a name, and literals in round brackets? -/
def isAction (text : String) : Bool :=
  let cs := Text.trimBlanks text.toList
  let rest := cs.dropWhile fun c => c.isAlphanum || c = '_' || c = '.'
  match rest, rest.getLast? with
  | [], _ => true
  | '(' :: inner, some ')' =>
    let items := (String.ofList inner.dropLast).splitOn ","
    let items := if items.getLast?.any fun item => trimmed item = "" then items.dropLast else items
    items.all fun item => isLiteral item.toList
  | _, _ => isLiteral cs

/-- Is a tag that is being closed sound? Only actions have parameters that are read. -/
def isSound (tag : OpenTag) : Bool :=
  !tag.name.startsWith "@" || tag.parameters.all fun text => text = "" || isAction text

/-- What parts show, given the tags that are open before them; `none` when a tag closes
    nothing. -/
def shownParts : List OpenTag → List MarkupPart → Option String
  | _, [] => some ""
  | tags, .plain text :: rest =>
    (shownParts tags rest).map fun after => withPictographs (text.replace "\\[" "[") ++ after
  | tags, .tag name parameters :: rest =>
    if name.startsWith "/" then
      let style := trimmed (name.drop 1).toString
      match closeTag? (if style = "" then none else some (styleName style)) tags with
      | some (tag, outer) => if isSound tag then shownParts outer rest else none
      | none => none
    else shownParts (⟨styleName name, parameters⟩ :: tags) rest

/-- Characters that act on a console and do not show. -/
def controls : List Nat := [7, 8, 11, 12, 13]

def withoutControls (text : String) : String :=
  String.ofList (text.toList.filter fun c => !controls.contains c.toNat)

def shownPlain (text : String) : String := withoutControls (withPictographs text)

def shown? (text : String) : Option String :=
  (shownParts [] (markupParts (text.length + 1) [] text.toList)).map withoutControls

end ReductionIR.Console
