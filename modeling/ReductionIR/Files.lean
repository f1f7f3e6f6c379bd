import ReductionIR.Breakdown
import ReductionIR.Model
/-
The files a run can see: contents by path, below a working directory.
-/
namespace ReductionIR

inductive Content
  /-- A file that holds a model. -/
  | model (m : Model)
  | bytes (data : List UInt8)
  | folder

/-- Paths as the names of folders and of a file, outermost first. -/
abbrev Path := List String

namespace Path

def text (path : Path) : String := if path = [""] then "/" else "/".intercalate path

def name (path : Path) : String := path.getLast?.getD ""

/-- The folder around; around the outermost one there is none. -/
def parent (path : Path) : Path := if path.length ≤ 1 then path else path.dropLast

/-- Drop empty names and single dots; two dots lead back to the folder around. -/
def follow (path : Path) : List String → Path
  | [] => path
  | step :: rest =>
    if step = "" ∨ step = "." then follow path rest
    else if step = ".." then follow path.parent rest
    else follow (path ++ [step]) rest

/-- The steps of a path as written, without empty names and single dots. -/
def steps (text : String) : List String :=
  (text.splitOn "/").filter fun step => step ≠ "" && step ≠ "."

/-- A path as messages repeat it: without empty names and single dots. -/
def tidy (text : String) : String :=
  let steps := Path.steps text
  if text.startsWith "/" then "/" ++ Path.text steps
  else if steps.isEmpty then "." else Path.text steps

/-- The last dot of a name and what follows it, if there is something on both sides. -/
def suffixOf (name : String) : String :=
  let reversed := name.toList.reverse
  let after := reversed.takeWhile (· ≠ '.')
  let before := reversed.drop (after.length + 1)
  if after.isEmpty ∨ before.isEmpty ∨ after.length = reversed.length then ""
  else String.ofList ('.' :: after.reverse)

def suffix (path : Path) : String := suffixOf path.name

/-- No name on a disk holds a zero character. -/
def holdsZero (text : String) : Bool := text.toList.any (·.toNat == 0)

def greatestName : Nat := 255

def greatestText : Nat := 4095

end Path

structure Files where
  /-- The working directory. -/
  root : Path
  entries : List (Path × Content)
  /-- The folders that `~` and `~user` stand for, by user; the present user has no name. -/
  homes : List (String × Path) := []

namespace Files

def resolve (files : Files) (text : String) : Path :=
  if text.startsWith "/" then Path.follow [""] (text.splitOn "/")
  else Path.follow files.root (text.splitOn "/")

/-- What stands at a path; the folders around other entries are there too. -/
def find? (files : Files) (path : Path) : Option Content :=
  match files.entries.find? fun entry => entry.1 == path with
  | some entry => some entry.2
  | none =>
    if path.isPrefixOf files.root || files.entries.any fun entry => path.isPrefixOf entry.1 then
      some .folder
    else none

/-- Put the home folder in the place of a first step that names one. -/
def expand (files : Files) (text : String) : Except Breakdown String :=
  match Path.steps text with
  | [] => .ok text
  | first :: rest =>
    if text.startsWith "/" || !first.startsWith "~" then .ok text
    else if Path.holdsZero first then .error .zeroInPath
    else
      match files.homes.lookup (first.drop 1).toString with
      | some home => .ok (Path.text (home ++ rest))
      | none => .error .unknownHome

/-- Follow steps one by one. All that is passed through must be a folder. -/
def walk (files : Files) (path : Path) : List String → Except Breakdown Path
  | [] => .ok path
  | step :: rest =>
    match files.find? path with
    | none => .error .noFolder
    | some .folder =>
      if step = "" ∨ step = "." then files.walk path rest
      else if step = ".." then files.walk path.parent rest
      else if Path.greatestName < step.utf8ByteSize then .error .nameTooLong
      else files.walk (path ++ [step]) rest
    | some _ => .error .notAFolder

def reach (files : Files) (text : String) : Except Breakdown Path :=
  if text = "" then .error .noFolder
  else if Path.greatestText < text.utf8ByteSize then .error .nameTooLong
  else if text.startsWith "/" then files.walk [""] (text.splitOn "/")
  else files.walk files.root (text.splitOn "/")

def reached? (files : Files) (text : String) : Option Content :=
  match files.reach text with
  | .ok path => files.find? path
  | .error _ => none

/-- What a text leads to, where names that no disk takes are refused. -/
def seek (files : Files) (text : String) : Except Breakdown (Option Content) :=
  match files.reach text with
  | .error .nameTooLong => .error .nameTooLong
  | _ => .ok (files.reached? text)

/-- The full path that a text names, where a home folder may come first. -/
def locate (files : Files) (text : String) : Except Breakdown Path := do
  let text ← files.expand text
  if Path.holdsZero text then throw .zeroInPath
  let path := files.resolve text
  match files.walk (path.take 1) (path.drop 1) with
  | .error .nameTooLong => throw .nameTooLong
  | _ => return path

/-- Is there room for a new file where a text leads, or a file to write over? -/
def checkWritable (files : Files) (text : String) : Except Breakdown Unit := do
  if Path.greatestText < text.utf8ByteSize then throw .nameTooLong
  let steps := ((text.splitOn "/").reverse.dropWhile (· = "")).reverse
  let outer ← files.walk (if text.startsWith "/" then [""] else files.root) steps.dropLast
  match files.find? outer with
  | none => throw .noFolder
  | some .folder =>
    if text.endsWith "/" then throw .isFolder
    else if Path.greatestName < (steps.getLast?.getD "").utf8ByteSize then throw .nameTooLong
    else
      match files.find? (outer ++ steps.getLast?.toList) with
      | some .folder => throw .isFolder
      | _ => return ()
  | some _ => throw .notAFolder

end Files

end ReductionIR
