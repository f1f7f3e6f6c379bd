import ReductionIR.Model
/-
What the library of the file format does for a conversion and an export: it reads
initializers as arrays, writes arrays as initializers, and knows file versions. Conversions
and exports work with any such library; the current one is given here.
-/
namespace ReductionIR

structure Codec where
  /-- The array that an initializer stores. -/
  array : Model.Initializer → Except Breakdown.Family Dense
  /-- An initializer that stores an array under a name. -/
  initializer : String → Dense → Except Breakdown.Family Model.Initializer
  /-- The least file version that knows an opset. -/
  irVersion? : Int → Option Int

namespace Model

/-- The dims of `count` elements. One of them may be left open by a negative number: then it
    is what the others leave. -/
def resolveDims (count : Nat) (dims : List Int) : Except Breakdown (List Int) :=
  let known := (dims.filter fun n => decide (0 ≤ n)).foldl (fun n d => n * d.toNat) 1
  match (dims.filter fun n => decide (n < 0)).length with
  | 0 => if known = count then .ok dims else .error .ragged
  | 1 =>
    if known = 0 ∨ count % known ≠ 0 then .error .ragged
    else .ok (dims.map fun n => if n < 0 then (count / known : Nat) else n)
  | _ => .error .ragged

/-- An initializer of given values: they must be of the element type, and as many as the dims
    say. -/
def Initializer.ofValues (name : String) (elemCode : Int) (dims : List Int)
    (values : List Value) : Except Breakdown Initializer :=
  match ElemKind.ofCode? elemCode with
  | none => .ok { name, elemCode, dims, elements := values }
  | some kind => do
    let elements ← values.mapM (Value.asElement kind)
    return { name, elemCode, dims := ← resolveDims values.length dims, elements }

/-- An element as it is read back: numbers are stored as what they were rounded to, and texts
    are read as elements of one array of texts. -/
def storedElement (kind : ElemKind) (v : Value) : Except Breakdown Value :=
  match kind, v with
  | .object, .text s => .ok (.text (Value.fitted s.length s))
  | .object, .bytes bytes => (decodeText bytes).map fun s => .text (Value.fitted s.length s)
  | .object, _ => .error .wrongType
  | kind, .float x => if kind.isFloating then .ok (.float x) else Value.asElement kind (.float x)
  | kind, v => Value.asElement kind v

/-- The array that an initializer stores; an undefined element type has none. -/
def Initializer.array (init : Initializer) : Except Breakdown Dense :=
  match ElemKind.ofCode? init.elemCode with
  | none => .error (if init.elemCode = 0 then .wrongType else .unknownName)
  | some kind => do
    let dims ← resolveDims init.elements.length init.dims
    return ⟨kind, dims.map Int.toNat, ← init.elements.mapM (storedElement kind)⟩

def Initializer.ofArray (name : String) (data : Dense) : Initializer :=
  { name, elemCode := data.kind.code, dims := data.dims.map Int.ofNat, elements := data.elements }

end Model

def Value.isText : Value → Bool
  | text _ => true
  | _ => false

namespace Codec

/-- Untyped elements are written only if all are texts. -/
def current : Codec where
  array init := init.array.mapError Breakdown.family
  initializer name data :=
    if data.kind = .object && !data.elements.all Value.isText then .error .unimplemented
    else .ok (.ofArray name data)
  irVersion? opset :=
    [(18, 8), (19, 9), (20, 9), (21, 10), (22, 10), (23, 11), (24, 12), (25, 13), (26, 13),
      (27, 13), (28, 14)].lookup opset

end Codec

def Model.Initializer.tensor (init : Model.Initializer) (codec : Codec) (origin : Origin) :
    Except Breakdown Tensor := do
  return .constant origin init.name (← (codec.array init).mapError Breakdown.foreign)

end ReductionIR
