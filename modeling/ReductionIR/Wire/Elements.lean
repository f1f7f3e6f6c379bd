import ReductionIR.Model
import ReductionIR.Wire.Message
/-
Tensors in model files: which field holds the elements of which kind, and whether a file
gives them clearly.
-/
namespace ReductionIR

namespace Wire

namespace TensorField

def dims := 1
def elemCode := 2
def singles := 4
def smallInts := 5
def texts := 6
def ints := 7
def name := 8
def raw := 9
def doubles := 10
def naturals := 11
def place := 14

end TensorField

/-- The elements of a tensor, by the fields they stand in. -/
structure Stored where
  raw? : Option Bytes
  texts : List Bytes
  singles : List Nat
  doubles : List Nat
  smallInts : List Nat
  ints : List Nat
  naturals : List Nat

def readStored (m : Message) : Option Stored := do
  return { raw? := m.block? TensorField.raw, texts := m.blocks TensorField.texts,
           singles := ← m.words? 4 TensorField.singles, doubles := ← m.words? 8 TensorField.doubles,
           smallInts := ← m.numbers? TensorField.smallInts, ints := ← m.numbers? TensorField.ints,
           naturals := ← m.numbers? TensorField.naturals }

namespace Stored

def rawBytes (s : Stored) : Bytes := s.raw?.getD []

def usedCount (s : Stored) : Nat :=
  ([s.rawBytes.length, s.texts.length, s.singles.length, s.doubles.length, s.smallInts.length,
    s.ints.length, s.naturals.length].filter (· ≠ 0)).length

def bitsOf (s : Stored) : ElemKind → List Nat
  | .float32 | .complex64 => s.singles
  | .float64 | .complex128 => s.doubles
  | .int64 => s.ints
  | .uint32 | .uint64 => s.naturals
  | _ => s.smallInts

def sizeOf (s : Stored) (kind : ElemKind) : Nat :=
  if kind = .object then s.texts.length else (s.bitsOf kind).length

end Stored

/-- The bytes that a word of a kind has. -/
def widthOf : ElemKind → Nat
  | .int16 | .uint16 | .float16 | .bfloat16 => 2
  | .int32 | .uint32 | .float32 | .complex64 => 4
  | .int64 | .uint64 | .float64 | .complex128 => 8
  | _ => 1

/-- The words that an element of a kind takes. -/
def partsOf (kind : ElemKind) : Nat := if kind.isComplex then 2 else 1

/-- The elements of a kind that share a word. -/
def sharersOf : ElemKind → Nat
  | .uint4 | .int4 | .float4e2m1 => 2
  | .uint2 | .int2 => 4
  | _ => 1

/-- Are all elements of a kind in one field, the one for the kind or the one of raw bytes?
    There may be more than `count`, but not if there should be none. -/
def Stored.isClear (s : Stored) (elemCode count : Int) : Bool :=
  s.usedCount = (if count = 0 then 0 else 1) &&
    (match ElemKind.ofCode? elemCode with
      | some kind =>
        if s.rawBytes.isEmpty then
          count = 0 || count * partsOf kind ≤ s.sizeOf kind * sharersOf kind
        else
          kind ≠ .object && decide
            (count * partsOf kind * widthOf kind ≤ s.rawBytes.length * sharersOf kind)
      | none => !s.rawBytes.isEmpty)

def readElement (kind : ElemKind) (number : Nat) : Value :=
  let bits := number % Nat.pow 256 (widthOf kind)
  match kind, kind.layout?, kind.tinyLayout?, kind.range? with
  | .bool, _, _, _ => .bool (bits != 0)
  | .complex64, _, _, _ => .float (.ofLayout .binary32 bits)
  | .complex128, _, _, _ => .float (.ofLayout .binary64 bits)
  | _, some layout, _, _ => .float (.ofLayout layout bits)
  | _, none, some layout, _ => .float (layout.value bits)
  | _, none, none, some (least, greatest) =>
    let span := greatest - least + 1
    let n := (bits : Int) % span
    .int (if greatest < n then n - span else n)
  | _, none, none, none => .int bits

/-- The real parts of complex elements: every other word. -/
def realParts {α : Type} : List α → List α
  | re :: _ :: rest => re :: realParts rest
  | rest => rest

/-- The numbers that share a word, from the lowest bits up. -/
def shared (sharers word : Nat) : List Nat :=
  let base := Nat.pow 2 (8 / sharers)
  (List.range sharers).map fun i => word / Nat.pow base i % base

/-- The words as elements of a kind; the last word may have room left. -/
def unpacked (kind : ElemKind) (count : Nat) (words : List Nat) : List Nat :=
  match sharersOf kind with
  | 1 => words
  | sharers =>
    let numbers := words.flatMap (shared sharers)
    if numbers.length < count + sharers then numbers.take count else numbers

def readText (bytes : Bytes) : Value :=
  (String.fromUTF8? ⟨bytes.toArray⟩).elim (.bytes bytes) .text

def Stored.elements (s : Stored) (count : Nat) (kind : ElemKind) : List Value :=
  if kind = .object then s.texts.map readText
  else
    let words := unpacked kind count (s.raw?.elim (s.bitsOf kind) fun bytes =>
      (Message.pieces (widthOf kind - 1) bytes).map readFixed)
    (if kind.isComplex then realParts words else words).map (readElement kind)

/-- An initializer; its elements must be in the file. -/
def readInitializer (m : Message) : Option Model.Initializer := do
  let stored ← readStored m
  let dims := (← m.numbers? TensorField.dims).map Message.signed
  let elemCode := m.shortInt TensorField.elemCode
  let count := dims.foldl (· * ·) 1
  if m.int TensorField.place = 1 then none
  else
    return { name := m.text TensorField.name, elemCode, dims
             elements := (ElemKind.ofCode? elemCode).elim [] (stored.elements count.toNat)
             isClear := stored.isClear elemCode count }

def writeElement (kind : ElemKind) : Value → Nat
  | .bool b => if b then 1 else 0
  | .int n => Wire.bitsOf n
  | .float x =>
    match kind with
    | .complex64 => x.toLayout .binary32
    | _ =>
      match kind.tinyLayout? with
      | some layout => (layout.pattern? x).getD 0
      | none => x.toLayout (kind.layout?.getD .binary64)
  | _ => 0

/-- The bytes of elements that share them; what is left of the last one is zero. -/
def writeShared (kind : ElemKind) : List Value → Bytes
  | [] => []
  | v :: rest =>
    let sharers := sharersOf kind
    let base := Nat.pow 2 (8 / sharers)
    let word := (v :: rest.take (sharers - 1)).foldr
      (fun v word => writeElement kind v % base + base * word) 0
    word.toUInt8 :: writeShared kind (rest.drop (sharers - 1))
  termination_by values => values.length

/-- The bytes of an element; complex ones have no imaginary part. -/
def writeParts (kind : ElemKind) (v : Value) : Bytes :=
  writeFixed (widthOf kind) (writeElement kind v) ++
    if kind.isComplex then writeFixed (widthOf kind) 0 else []

def writeElements (elemCode : Int) (elements : List Value) : Message :=
  match ElemKind.ofCode? elemCode with
  | none => []
  | some kind =>
    if kind = .object then
      elements.flatMap fun v => bytesField TensorField.texts v.plain.toUTF8.toList
    else bytesField TensorField.raw (match sharersOf kind with
      | 1 => elements.flatMap (writeParts kind)
      | _ => writeShared kind elements)

def writeInitializer (init : Model.Initializer) : Message :=
  init.dims.flatMap (intField TensorField.dims) ++ intField TensorField.elemCode init.elemCode ++
    textField TensorField.name init.name ++ writeElements init.elemCode init.elements

end Wire

end ReductionIR
