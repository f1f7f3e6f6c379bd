import ReductionIR.Graph
/-
Models as files hold them: a graph of named values with initializers and nodes, and the
operator sets it imports.
-/
namespace ReductionIR

namespace Model

/-- The payload of a node attribute. Text is bytes, not yet checked to be text. -/
inductive AttributeData
  | int (n : Int)
  | float (x : Binary64)
  | text (bytes : List UInt8)
  | ints (ns : List Int)
  | floats (xs : List Binary64)
  | texts (items : List (List UInt8))
  | other (kind : String)

structure Attribute where
  name : String
  data : AttributeData
  /-- Is data of its kind written down? -/
  isGiven : Bool := true
  /-- Is its kind written down, and no data of another one? -/
  isClear : Bool := true

structure Node where
  opType : String
  name : String := ""
  domain : String := ""
  inputs : List String := []
  outputs : List String := []
  attributes : List Attribute := []

/-- The type of a graph input or output. -/
inductive ValueType
  | tensor (elemCode : Int) (shape : Shape)
  | other
  | absent

structure ValueInfo where
  name : String
  type : ValueType

structure Initializer where
  name : String
  elemCode : Int
  dims : List Int
  elements : List Value
  /-- Are the elements written down in one place, the one for their type, and not cut short? -/
  isClear : Bool := true

/-- The elements have a kind and are given clearly. -/
def Initializer.isKnown (init : Initializer) : Bool := init.elemCode != 0 && init.isClear

structure Graph where
  name : String
  inputs : List ValueInfo := []
  outputs : List ValueInfo := []
  /-- What is known of values in between. -/
  hints : List ValueInfo := []
  initializers : List Initializer := []
  nodes : List Node := []

end Model

structure Model where
  irVersion : Int := 8
  producerName : String := ""
  /-- The names of remarks that come with the model. -/
  remarks : List String := []
  opsetImports : List (String × Int)
  graph : Model.Graph

namespace Model

def decodeText (bytes : List UInt8) : Except Breakdown String :=
  match String.fromUTF8? ⟨bytes.toArray⟩ with
  | some s => .ok s
  | none => .error .notUtf8

/-- The tagged value of an attribute; `none` for kinds a store does not hold. -/
def AttributeData.tagged : AttributeData → Except Breakdown (Option ReductionIR.Attribute)
  | int n => .ok (some (.int n))
  | float x => .ok (some (.float x))
  | text bytes => do return some (.text (← decodeText bytes))
  | ints ns => .ok (some (.ints ns))
  | floats xs => .ok (some (.floats xs))
  | texts items => do return some (.texts (← items.mapM decodeText))
  | other _ => .ok none

/-- The store of a node's attributes; the last one of a name counts. -/
def storeOf (attributes : List Attribute) : Except Breakdown AttributeStore := do
  let tagged ← attributes.mapM fun a => do return (← a.data.tagged).map (a.name, ·)
  return Table.ofList (tagged.filterMap id)

def ValueInfo.facts (value : ValueInfo) : Facts :=
  match value.type with
  | .tensor elemCode shape => { dtype := .ofCode elemCode, shape, data := none }
  | .other | .absent => { dtype := .unknown, shape := .unknownRank, data := none }

def ValueInfo.tensor (value : ValueInfo) (origin : Origin) : Tensor :=
  { value.facts with origin, id := value.name, name := value.name }

end Model

end ReductionIR
