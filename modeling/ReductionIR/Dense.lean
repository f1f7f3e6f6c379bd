import ReductionIR.Breakdown
import ReductionIR.ElemKind
import ReductionIR.Nesting
import ReductionIR.Text.Real
/-
Dense arrays: an element kind, the lengths of the axes and the elements in row-major
order. Building one from nested lists settles its kind when none is asked for.
-/
namespace ReductionIR

namespace Value

/-- The integer a scalar is cut to: numbers toward zero, text read as a numeral. -/
def truncated : Value → Except Breakdown Int
  | bool b => .ok (if b then 1 else 0)
  | int n => .ok n
  | float x =>
    match x.truncate with
    | .ok n => .ok n
    | .error .nan => .error .notANumber
    | .error .infinite => .error .tooLarge
  | text s =>
    match Text.integer? s with
    | some n => .ok n
    | none => .error .notANumber
  | _ => .error .wrongType

def widenedBy (read : String → Option Binary64) : Value → Except Breakdown Binary64
  | bool b => .ok (.ofRatio false (if b then 1 else 0) 1)
  | int n =>
    match Binary64.ofInt? n with
    | some x => .ok x
    | none => .error .tooLarge
  | float x => .ok x
  | null => .ok .nan
  | text s =>
    match read s with
    | some x => .ok x
    | none => .error .notANumber
  | _ => .error .wrongType

def widened (v : Value) : Except Breakdown Binary64 := v.widenedBy Text.real?

/-- A number as a short one: only numbers and integers of 64 bits become one, and they are
    rounded twice, the first time to single precision. -/
def shortened : Value → Except Breakdown Binary64
  | bool b => .ok (.ofRatio false (if b then 1 else 0) 1)
  | int n =>
    if -9223372036854775808 ≤ n ∧ n ≤ 9223372036854775807 then
      .ok ((Binary64.ofIntIn .binary32 n).narrow .brain16)
    else .error .wrongType
  | float x => .ok ((x.narrow .binary32).narrow .brain16)
  | _ => .error .wrongType

def bounded (least greatest n : Int) : Except Breakdown Value :=
  if least ≤ n ∧ n ≤ greatest then .ok (int n) else .error .tooLarge

/-- A text as an element of some width. The characters that fill up an element are zero, so a
    text does not end in them. -/
def fitted (width : Nat) (s : String) : String :=
  String.ofList (((s.toList.take width).reverse.dropWhile fun c => c.toNat == 0).reverse)

/-- A scalar as an element of the given kind. An integer must fit, and what is no integer is
    cut to one first. -/
def asElement (kind : ElemKind) (v : Value) : Except Breakdown Value :=
  match kind.range?, kind.layout?, kind with
  | some (least, greatest), _, _ => do bounded least greatest (← v.truncated)
  | none, some _, .bfloat16 => v.shortened.map float
  | none, some layout, kind => do
    let read := if kind.isComplex then Text.realPart? else Text.real?
    return float ((← v.widenedBy read).narrow layout)
  | none, none, .bool => .ok (bool v.holds)
  | none, none, .text width => .ok (text (fitted width v.plain))
  | none, none, .object => .ok v
  | none, none, _ => v.widened.map float

end Value

structure Dense where
  kind : ElemKind
  dims : List Nat
  elements : List Value

namespace Dense

/-- Arrays have at most this many axes. -/
def axisLimit : Nat := 64

def settledKind (elements : List Value) : ElemKind :=
  match elements.map ElemKind.ofValue with
  | [] => .float64
  | first :: rest => rest.foldl ElemKind.join first

/-- The kind for elements. A text kind of no width gets that of the longest element. -/
def fittedKind (kind : Option ElemKind) (elements : List Value) : ElemKind :=
  match kind with
  | none => settledKind elements
  | some (.text 0) => .text ((elements.map fun v => v.plain.length).foldl max 1)
  | some kind => kind

/-- An array of nested lists, or of one scalar. Only objects may be lists themselves. -/
def ofValue (data : Value) (kind : Option ElemKind) : Except Breakdown Dense :=
  let outline := Outline.ofValue axisLimit data
  if outline.ragged && kind ≠ some .object then .error .ragged
  else do
    let elements := data.itemsAt outline.dims.length
    let kind := fittedKind kind elements
    return ⟨kind, outline.dims, ← elements.mapM (Value.asElement kind)⟩

def ofInts (ns : List Int) : Except Breakdown Dense :=
  ofValue (.list (ns.map .int)) (some .int64)

def ofInt (n : Int) : Except Breakdown Dense := ofValue (.int n) (some .int64)

def shape (a : Dense) : Shape := .static (a.dims.map Int.ofNat)

def integers (a : Dense) : Except Breakdown (List Int) := a.elements.mapM Value.truncated

end Dense

end ReductionIR
