import ReductionIR.DType
import ReductionIR.Moment
import ReductionIR.Number.Shortest
import ReductionIR.Text.Numeral
import ReductionIR.Text.Quoted
/-
Untyped values, as configuration files, attributes of operators and error details hold
them: null, booleans, integers of any size, numbers, text, calendar points, collections and
element types.
-/
namespace ReductionIR

inductive Value
  | null
  | bool (b : Bool)
  | int (n : Int)
  | float (x : Binary64)
  | text (s : String)
  | moment (m : Moment)
  | bytes (bs : List UInt8)
  | list (items : List Value)
  | tuple (items : List Value)
  | set (items : List Value)
  | dict (items : List (Value × Value))
  | dtype (t : DType)
  /-- A list or dictionary inside of itself. -/
  | cycle (isDict : Bool)
deriving Inhabited

/-- The fields of a dictionary or of a set of named attributes, in order. -/
abbrev Fields := List (String × Value)

namespace Fields

def find? (fields : Fields) (name : String) : Option Value := fields.lookup name

def value (fields : Fields) : Value := .dict (fields.map fun f => (.text f.1, f.2))

end Fields

namespace Value

def ofString? : Option String → Value
  | none => null
  | some s => text s

def ofStrings (texts : List String) : Value := list (texts.map text)

def ofInts (ns : List Int) : Value := list (ns.map int)

/-- Zero, the empty ones, false and null do not hold; everything else does. -/
def holds : Value → Bool
  | null => false
  | bool b => b
  | int n => n != 0
  | float x => !x.isZero
  | text s => s != ""
  | moment _ => true
  | bytes bs => !bs.isEmpty
  | list items | tuple items | set items => !items.isEmpty
  | dict items => !items.isEmpty
  | dtype _ | cycle _ => true

/-- Whole numbers, booleans and whole floating-point numbers are compared as integers. -/
def integer? : Value → Option Int
  | bool b => some (if b then 1 else 0)
  | int n => some n
  | float x => x.integer?
  | _ => none

/-- Are two scalars the same dictionary key? Numbers are compared by what they equal. -/
def sameKey (x y : Value) : Bool :=
  match x.integer?, y.integer? with
  | some m, some n => m == n
  | some _, none => false
  | none, some _ => false
  | none, none =>
    match x, y with
    | null, null => true
    | float x, float y => x.canonical == y.canonical
    | text s, text t => s == t
    | moment m, moment n => m.isSame n
    | bytes bs, bytes cs => bs == cs
    | dtype s, dtype t => s == t
    | _, _ => false

/-- Items in round brackets; a single one is followed by a comma. -/
def inRound : List String → String
  | [item] => "(" ++ item ++ ",)"
  | items => "(" ++ ", ".intercalate items ++ ")"

def inCurly (items : List String) : String := "\x7b" ++ ", ".intercalate items ++ "\x7d"

mutual

def quoted : Value → String
  | null => "None"
  | bool b => if b then "True" else "False"
  | int n => toString n
  | float x => x.text
  | text s => Text.quoted s
  | moment m => m.quoted
  | bytes bs => Text.quotedBytes bs
  | list items => "[" ++ ", ".intercalate (quotedItems items) ++ "]"
  | tuple items => inRound (quotedItems items)
  | set items => if items.isEmpty then "set()" else inCurly (quotedItems items)
  | dict items => inCurly (quotedPairs items)
  | dtype t => "<DType." ++ t.name ++ ": " ++ toString (DType.all.idxOf t + 1) ++ ">"
  | cycle isDict => if isDict then inCurly ["..."] else "[...]"

def quotedItems : List Value → List String
  | [] => []
  | v :: rest => v.quoted :: quotedItems rest

def quotedPairs : List (Value × Value) → List String
  | [] => []
  | (k, v) :: rest => (k.quoted ++ ": " ++ v.quoted) :: quotedPairs rest

end

mutual

/-- Are all integers in a value short enough to be written? -/
def isWritable : Value → Bool
  | int n => decide (n.natAbs < Nat.pow 10 Text.digitLimit)
  | list items | tuple items | set items => areWritable items
  | dict items => arePairsWritable items
  | _ => true

def areWritable : List Value → Bool
  | [] => true
  | v :: rest => v.isWritable && areWritable rest

def arePairsWritable : List (Value × Value) → Bool
  | [] => true
  | (k, v) :: rest => k.isWritable && v.isWritable && arePairsWritable rest

end

/-- The text of a value on its own: a string stands for itself. -/
def plain : Value → String
  | text s => s
  | moment m => m.plain
  | dtype t => "DType." ++ t.name
  | v => v.quoted

end Value

end ReductionIR
