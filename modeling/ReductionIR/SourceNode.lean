import ReductionIR.Model
/-
One operator of a source model as lowering sees it: its attributes are tagged, and its
location says where it stands for the reader of a message.
-/
namespace ReductionIR

structure SourceNode where
  opType : String
  opset : Int
  inputs : List String := []
  attributes : AttributeStore := ∅
  location : String := "<unknown>"
  name : String := ""
  domain : String := ""

namespace SourceNode

/-- A place in words: name, operator, opset and, when known, the position in the model. -/
def locate (name opType : String) (opset : Int) (position : Option Int) : String :=
  "node '" ++ name ++ "' (" ++ opType ++ ", opset " ++ toString opset ++ ")" ++
    position.elim "" fun n => " at position " ++ toString n

def nameOr (name other : String) : String := if name = "" then other else name

/-- A node of plain values; without a name it goes by its operator. -/
def ofFields (opType : String) (opset : Int) (inputs : List String) (attributes : Fields)
    (name : String) : Except Breakdown SourceNode := do
  let name := nameOr name opType
  return { opType, opset, inputs, attributes := ← AttributeStore.ofPairs attributes,
           location := locate name opType opset none, name }

/-- A node of a model; without a name it goes by its operator and position. -/
def ofModel (node : Model.Node) (opset : Int) (position : Option Int) :
    Except Breakdown SourceNode := do
  let name := nameOr node.name
    (node.opType ++ position.elim "" fun n => "_" ++ toString n)
  return { opType := node.opType, opset, inputs := node.inputs,
           attributes := ← Model.storeOf node.attributes,
           location := locate name node.opType opset position, name, domain := node.domain }

end SourceNode

end ReductionIR
