import ReductionIR.Dense
import ReductionIR.Table
import ReductionIR.Report
/-
Attributes of operators: tagged values, and stores of them under names. A typed read
accepts the kinds it names, falls back to a given value when the name is absent, and
reports a value of another kind.
-/
namespace ReductionIR

inductive AttributeKind
  | int | float | text | ints | floats | texts
deriving DecidableEq

def AttributeKind.label : AttributeKind → String
  | int => "int"
  | float => "float"
  | text => "string"
  | ints => "ints"
  | floats => "floats"
  | texts => "strings"

inductive Attribute
  | int (n : Int)
  | float (x : Binary64)
  | text (s : String)
  | ints (ns : List Int)
  | floats (xs : List Binary64)
  | texts (ss : List String)

namespace Attribute

def kind : Attribute → AttributeKind
  | int _ => .int
  | float _ => .float
  | text _ => .text
  | ints _ => .ints
  | floats _ => .floats
  | texts _ => .texts

def value : Attribute → Value
  | int n => .int n
  | float x => .float x
  | text s => .text s
  | ints ns => .tuple (ns.map .int)
  | floats xs => .tuple (xs.map .float)
  | texts ss => .tuple (ss.map .text)

def textItem? : Value → Option String
  | .text s => some s
  | _ => none

def intItem? : Value → Option Int
  | .int n => some n
  | _ => none

/-- An integer is a number too, when it is not too large for one. -/
def numberItem? : Value → Option (Option Binary64)
  | .int n => some (Binary64.ofInt? n)
  | .float x => some (some x)
  | _ => none

/-- Tag a sequence by what all its items are; the empty one counts as integers. -/
def ofItems (whole : Value) (items : List Value) : Except Breakdown Attribute :=
  match items.mapM textItem?, items.mapM intItem?, items.mapM numberItem? with
  | some (s :: ss), _, _ => .ok (texts (s :: ss))
  | _, some ns, _ => .ok (ints ns)
  | _, _, some xs =>
    match xs.mapM id with
    | some xs => .ok (floats xs)
    | none => .error .tooLarge
  | _, _, none => .error (.unstorable whole)

/-- Tag a plain value; a boolean counts as an integer. -/
def ofValue : Value → Except Breakdown Attribute
  | .bool b => .ok (int (if b then 1 else 0))
  | .int n => .ok (int n)
  | .float x => .ok (float x)
  | .text s => .ok (text s)
  | .list items => ofItems (.list items) items
  | .tuple items => ofItems (.tuple items) items
  | v => .error (.unstorable v)

end Attribute

/-- Why an attribute cannot be read. -/
inductive LookupFailure
  | missing (name : String)
  | mismatch (name : String) (found : AttributeKind) (expected : List AttributeKind)
deriving DecidableEq

namespace LookupFailure

def name : LookupFailure → String
  | missing name => name
  | mismatch name _ _ => name

def kind : LookupFailure → FailureKind
  | missing _ => .missingAttribute
  | mismatch .. => .attributeTypeMismatch

def wording : LookupFailure → String
  | missing name => "Required attribute '" ++ name ++ "' is missing"
  | mismatch name found expected =>
    "Attribute '" ++ name ++ "' holds " ++ found.label ++ ", expected " ++
      " or ".intercalate (expected.map AttributeKind.label)

def report (failure : LookupFailure) : Report :=
  Report.lookup failure.wording failure.kind failure.name []

end LookupFailure

abbrev AttributeStore := Table String Attribute

/-- The typed reads of a store. -/
inductive Accessor
  | int | float | text | ints | floats | texts
deriving DecidableEq

namespace Accessor

/-- The kinds a read accepts: an integer serves as a number. -/
def kinds : Accessor → List AttributeKind
  | int => [.int]
  | float => [.float, .int]
  | text => [.text]
  | ints => [.ints]
  | floats => [.floats, .ints]
  | texts => [.texts]

def items : Value → Except Breakdown (List Value)
  | .list items | .tuple items | .set items => .ok items
  | .text s => .ok (s.toList.map fun c => .text c.toString)
  | .bytes bs => .ok (bs.map fun b => .int b.toNat)
  | .dict items => .ok (items.map Prod.fst)
  | _ => .error .wrongType

def number : Value → Except Breakdown Value
  | .null => .error .wrongType
  | v => v.widened.map .float

/-- The form in which a read hands out what it found or fell back to. -/
def convert : Accessor → Value → Except Breakdown Value
  | float, .bool b => Value.widened (.bool b) |>.map .float
  | float, .int n => Value.widened (.int n) |>.map .float
  | floats, .null => .ok .null
  | floats, v => do return .tuple (← (← items v).mapM number)
  | ints, .null => .ok .null
  | ints, v => do return .tuple (← items v)
  | texts, .null => .ok .null
  | texts, v => do return .tuple (← items v)
  | _, v => .ok v

end Accessor

namespace AttributeStore

/-- Tag the values of a list of pairs; the last pair of a name counts. -/
def ofPairs (pairs : Fields) : Except Breakdown AttributeStore := do
  let kept := Table.ofList pairs
  let tagged ← kept.entries.mapM fun f => do return (f.1, ← Attribute.ofValue f.2)
  return Table.ofList tagged

def text (store : AttributeStore) : String :=
  "AttributeStore(" ++
    ", ".intercalate (store.entries.map fun a => a.1 ++ "=" ++ a.2.value.quoted) ++ ")"

def required (store : AttributeStore) (name : String) : Except LookupFailure Attribute :=
  match store.find? name with
  | some a => .ok a
  | none => .error (.missing name)

/-- The value of a name, of any kind; an absent name yields the fallback as it is. -/
def get (store : AttributeStore) (name : String) (fallback : Value) : Value :=
  (store.find? name).elim fallback Attribute.value

/-- The value of a name, of one of the kinds of the read; an absent name yields the
    fallback, or a failure when there is none. -/
def typed (store : AttributeStore) (accessor : Accessor) (name : String)
    (fallback : Option Value) : Except LookupFailure Value :=
  match store.find? name, fallback with
  | some a, _ =>
    if a.kind ∈ accessor.kinds then .ok a.value
    else .error (.mismatch name a.kind accessor.kinds)
  | none, some v => .ok v
  | none, none => .error (.missing name)

/-- An integer, or `fallback` when the name is absent. -/
def int (store : AttributeStore) (name : String) (fallback : Int) : Except LookupFailure Int :=
  match store.find? name with
  | none => .ok fallback
  | some (.int n) => .ok n
  | some a => .error (.mismatch name a.kind Accessor.int.kinds)

/-- Integers, or `none` when the name is absent. -/
def ints? (store : AttributeStore) (name : String) : Except LookupFailure (Option (List Int)) :=
  match store.find? name with
  | none => .ok none
  | some (.ints ns) => .ok (some ns)
  | some a => .error (.mismatch name a.kind Accessor.ints.kinds)

end AttributeStore

end ReductionIR
