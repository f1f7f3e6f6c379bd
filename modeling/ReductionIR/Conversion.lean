import ReductionIR.Codec
import ReductionIR.Lowering
/-
Conversion of a whole model: initializers and inputs become tensors, then every node is
lowered in order. In strict mode the first node that fails ends the conversion; otherwise
failures are collected, and nodes that need a missing value fail too.
-/
namespace ReductionIR

namespace Model

/-- The domain of the standard operators has two names. -/
def defaultDomains : List String := ["", "ai.onnx"]

/-- The opset of the default domain: the first import of it counts. -/
def defaultOpset (m : Model) : Except ModelFailure Int :=
  match m.opsetImports.find? fun entry => defaultDomains.contains entry.1 with
  | some entry => .ok entry.2
  | none => .error .noDefaultOpset

/-- The imports by domain, under the long name of the default one; the last one counts. -/
def opsets (m : Model) : Table String Int :=
  Table.ofList (m.opsetImports.map fun entry =>
    (if entry.1 = "" then "ai.onnx" else entry.1, entry.2))

end Model

/-- A converted model and what is worth knowing about the conversion. -/
structure Converted where
  graph : Graph
  strict : Bool
  sourceName : String
  producer : String
  opsets : Table String Int
  valueNames : Table String Tensor
  failures : List NodeFailure

/-- A conversion under way: the tensor each value name stands for, failures and warnings. -/
structure Conversion where
  graph : Graph
  values : Table String Tensor := ∅
  failures : List NodeFailure := []
  warnings : List String := []

namespace Conversion

/-- Steps of a conversion; what was reached before a fault stays. -/
abbrev Step := EStateM Fault Conversion

def bindValue (name : String) (t : Tensor) (c : Conversion) : Conversion :=
  { c with values := c.values.insert name t }

def warn (text : String) (c : Conversion) : Conversion :=
  { c with warnings := c.warnings ++ [text] }

def addInitializer (codec : Codec) (init : Model.Initializer) (index : Nat) : Step Unit := do
  let t ← MonadExcept.ofExcept (Fault.lift (init.tensor codec (.given index)))
  modify fun c => { c.bindValue init.name t with graph := c.graph.addConstant t }

/-- An input that an initializer of the same name already stands for is passed over. -/
def addInput (value : Model.ValueInfo) (index : Nat) (c : Conversion) : Conversion :=
  if c.values.contains value.name then c
  else
    let t := value.tensor (.given index)
    { c.bindValue value.name t with graph := c.graph.addInput t }

/-- The input names of a node that stand for no tensor. -/
def unlowered (node : Model.Node) (c : Conversion) : List String :=
  node.inputs.filter fun name => name ≠ "" && !c.values.contains name

/-- The operands of a node; an empty name leaves one out. -/
def operandsOf (node : Model.Node) (c : Conversion) : List (Option Tensor) :=
  node.inputs.map fun name => if name = "" then none else c.values.find? name

/-- Why a node is not even tried. -/
def obstacle? (node : Model.Node) (c : Conversion) : Option NodeFailure.Cause :=
  let missing := c.unlowered node
  if !missing.isEmpty then some (.unloweredInputs missing)
  else if !Model.defaultDomains.contains node.domain then some (.foreignDomain node.domain)
  else none

/-- In strict mode a failure ends the conversion. -/
def note (strict : Bool) (failure : NodeFailure) : Step Unit :=
  if strict then throw (.node failure)
  else modify fun c => { c with failures := c.failures ++ [failure] }

/-- The outputs of a node stand for what its lowering hands out. -/
def bindOutputs (names : List String) (outputs : List Tensor) (c : Conversion) : Conversion :=
  (names.zip outputs).foldl
    (fun c entry => if entry.1 = "" then c else c.bindValue entry.1 entry.2) c

def lowerStep (registry : Registry) (strict : Bool) (node : Model.Node) (source : SourceNode) :
    Step Unit := do
  let c ← get
  match lowerNode registry source (c.operandsOf node) c.graph with
  | (.ok outputs, g) => set ({ c with graph := g }.bindOutputs node.outputs outputs)
  | (.error (.node failure), g) =>
    -- only the counter of the graph has moved
    set { c with graph := g }
    unless strict do
      modify (warn ("Skipping " ++ source.location ++ ": " ++ failure.message))
    note strict failure
  | (.error fault, g) =>
    set { c with graph := g }
    throw fault

def nodeStep (registry : Registry) (strict : Bool) (opset : Int) (node : Model.Node)
    (position : Nat) : Step Unit := do
  let source ← MonadExcept.ofExcept
    (Fault.lift (SourceNode.ofModel node opset (some (position : Int))))
  match (← get).obstacle? node with
  | some cause =>
    note strict { cause, operator := node.opType, location := some source.location }
  | none => lowerStep registry strict node source

/-- A graph output that stands for no tensor is passed over. -/
def addOutput (value : Model.ValueInfo) (c : Conversion) : Conversion :=
  match c.values.find? value.name with
  | some t => { c with graph := c.graph.addOutput t }
  | none => c.warn ("Graph output " ++ value.name ++ " was not produced")

def steps (codec : Codec) (registry : Registry) (strict : Bool) (opset : Int)
    (m : Model.Graph) : Step Unit := do
  -- initializers come first, so that an input of the same name is passed over
  m.initializers.zipIdx.forM fun init => addInitializer codec init.1 init.2
  (m.inputs.zipIdx m.initializers.length).forM fun value => modify (addInput value.1 value.2)
  m.nodes.zipIdx.forM fun node => nodeStep registry strict opset node.1 node.2
  m.outputs.forM fun value => modify (addOutput value)

end Conversion

/-- Convert a model, with the warnings on the way, which outlive a fault. -/
def Model.convert (m : Model) (codec : Codec) (registry : Registry) (strict : Bool)
    (sourceName : String) : Except Fault Converted × List String :=
  match m.defaultOpset with
  | .error failure => (.error (.model failure), [])
  | .ok opset =>
    let start : Conversion :=
      { graph := { name := SourceNode.nameOr m.graph.name sourceName } }
    match (Conversion.steps codec registry strict opset m.graph).run start with
    | .error fault c => (.error fault, c.warnings)
    | .ok _ c =>
      (.ok { graph := c.graph, strict, sourceName, producer := m.producerName,
             opsets := m.opsets, valueNames := c.values, failures := c.failures }, c.warnings)

end ReductionIR
