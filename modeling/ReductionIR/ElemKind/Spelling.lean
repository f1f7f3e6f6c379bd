import ReductionIR.Breakdown
import ReductionIR.ElemKind
/-
How element types are spelt: by a name, by a letter, or by a letter and a size in bytes, the
latter two after a mark for the order of the bytes. Lists of spellings make records.
-/
namespace ReductionIR

/-- What a spelling stands for: a kind that arrays store, or some other type. A text kind of
    no width is as wide as its longest element. -/
inductive SpeltType
  | kind (k : ElemKind)
  | other

namespace SpeltType

def dtype : SpeltType → DType
  | kind k => k.dtype
  | other => .unknown

/-- The kind of an array of this type. What has no kind of its own is stored as objects. -/
def elemKind : SpeltType → ElemKind
  | kind k => k
  | other => .object

def letterKinds : List (Char × ElemKind) :=
  [('?', .bool), ('b', .int8), ('h', .int16), ('i', .int32), ('l', .int64), ('q', .int64),
    ('p', .int64), ('n', .int64), ('B', .uint8), ('H', .uint16), ('I', .uint32), ('L', .uint64),
    ('Q', .uint64), ('P', .uint64), ('N', .uint64), ('e', .float16), ('f', .float32),
    ('d', .float64), ('F', .complex64), ('D', .complex128), ('O', .object), ('U', .text 0)]

/-- Letters of long numbers, byte strings, raw bytes, dates and spans of time. -/
def otherLetters : List Char := ['g', 'G', 'S', 'a', 'c', 'T', 'V', 'M', 'm']

def ofLetter? (c : Char) : Option SpeltType :=
  match letterKinds.lookup c with
  | some k => some (.kind k)
  | none => if otherLetters.contains c then some .other else none

/-- Kinds by their letter and their size in bytes. -/
def sizedKinds : List ((Char × Nat) × ElemKind) :=
  [(('b', 1), .bool), (('i', 1), .int8), (('i', 2), .int16), (('i', 4), .int32),
    (('i', 8), .int64), (('u', 1), .uint8), (('u', 2), .uint16), (('u', 4), .uint32),
    (('u', 8), .uint64), (('f', 2), .float16), (('f', 4), .float32), (('f', 8), .float64),
    (('c', 8), .complex64), (('c', 16), .complex128), (('O', 4), .object), (('O', 8), .object)]

def otherSizes : List (Char × Nat) := [('f', 16), ('c', 32), ('M', 8), ('m', 8)]

/-- Texts and bytes take any size. -/
def ofSize? (c : Char) (size : Nat) : Option SpeltType :=
  if 2147483647 < size then none
  else if c = 'U' then some (.kind (.text size))
  else if c = 'S' || c = 'a' || c = 'V' then some .other
  else
    match sizedKinds.lookup (c, size) with
    | some k => some (.kind k)
    | none => if otherSizes.contains (c, size) then some .other else none

def namedKinds : List (String × ElemKind) :=
  (ElemKind.fixed.map fun k => (k.name, k)) ++
    [("bool_", .bool), ("byte", .int8), ("short", .int16), ("intc", .int32), ("int", .int64),
      ("int_", .int64), ("intp", .int64), ("long", .int64), ("longlong", .int64),
      ("ubyte", .uint8), ("ushort", .uint16), ("uintc", .uint32), ("uint", .uint64),
      ("uintp", .uint64), ("ulong", .uint64), ("ulonglong", .uint64), ("half", .float16),
      ("single", .float32), ("double", .float64), ("float", .float64), ("csingle", .complex64),
      ("cdouble", .complex128), ("complex", .complex128), ("object_", .object),
      ("str", .text 0), ("str_", .text 0), ("unicode", .text 0)]

def otherNames : List String :=
  ["longdouble", "float128", "clongdouble", "complex256", "bytes", "bytes_", "void",
    "float6_e2m3fn", "float6_e3m2fn", "float8_e3m4", "float8_e4m3", "float8_e4m3b11fnuz"]

def ofName? (text : String) : Option SpeltType :=
  match namedKinds.lookup text with
  | some k => some (.kind k)
  | none => if otherNames.contains text then some .other else none

/-- The size after a letter: blanks and a plus sign may come before its digits. -/
def size? (cs : List Char) : Option Nat :=
  let cs := cs.dropWhile fun c => c = ' ' || (9 ≤ c.toNat && c.toNat ≤ 13)
  let digits := if cs.head? = some '+' then cs.drop 1 else cs
  if digits.isEmpty || !digits.all Char.isDigit then none
  else some (digits.foldl (fun n d => 10 * n + (d.toNat - 48)) 0)

def timeUnits : List String :=
  ["Y", "M", "W", "D", "h", "m", "s", "ms", "us", "ns", "ps", "fs", "as", "generic"]

/-- A unit of time in square brackets, with a count before it, or nothing. -/
def isTimeUnit (cs : List Char) : Bool :=
  match cs, cs.getLast? with
  | [], _ => true
  | '[' :: inner, some ']' =>
    timeUnits.contains (String.ofList (inner.dropLast.dropWhile Char.isDigit))
  | _, _ => false

def timeRest? (cs : List Char) : Option (List Char) :=
  match cs with
  | 'M' :: '8' :: rest => some rest
  | 'm' :: '8' :: rest => some rest
  | _ =>
    ["datetime64", "timedelta64"].findSome? fun name =>
      if name.toList.isPrefixOf cs then some (cs.drop name.length) else none

def isOrderMark (c : Char) : Bool := "<>=|".toList.contains c

def dropOrder (cs : List Char) : List Char :=
  match cs with
  | c :: rest => if isOrderMark c then rest else cs
  | [] => []

/-- One type. -/
def single? (text : String) : Option SpeltType :=
  let cs := dropOrder text.toList
  match timeRest? cs, cs with
  | some rest, _ => if isTimeUnit rest then some .other else none
  | none, [] => none
  | none, [c] => (ofLetter? c).or (ofName? text)
  | none, c :: rest => ((size? rest).bind (ofSize? c)).or (ofName? text)

def parts : Nat → List Char → List Char → List (List Char)
  | _, part, [] => [part.reverse]
  | depth, part, c :: rest =>
    if c = ',' && depth = 0 then part.reverse :: parts depth [] rest
    else parts (if c = '[' then depth + 1 else if c = ']' then depth - 1 else depth)
      (c :: part) rest

/-- Is it a record: several types, or a type with a count before it? -/
def isRecord (cs : List Char) : Bool :=
  let bare := dropOrder cs
  1 < (parts 0 [] cs).length || (bare.head?.map Char.isDigit).getD false ||
    ['(', ')'].isPrefixOf bare

/-- A type of a record after its count. -/
def isField (cs : List Char) : Bool :=
  let afterOrder := dropOrder (cs.dropWhile (· = ' '))
  let counted := afterOrder.dropWhile fun c => c = ' ' || c = '(' || c = ')' || c.isDigit
  (single? (String.ofList counted)).isSome

/-- The type a text spells; `none` when it spells none. -/
def ofText? (text : String) : Option SpeltType :=
  let cs := text.toList
  if isRecord cs then
    let fields := parts 0 [] cs
    let named := if fields.getLast? = some [] then fields.dropLast else fields
    if !named.isEmpty && named.all isField then some .other else none
  else single? text

/-- The type a value asks for: a text spells it, and without one it is that of numbers. -/
def ofValue : Value → Except Breakdown SpeltType
  | .null => .ok (.kind .float64)
  | .text s =>
    match ofText? s with
    | some t => .ok t
    | none => .error .wrongType
  | .list [] => .ok .other
  | _ => .error .wrongType

end SpeltType

end ReductionIR
