import ReductionIR.Codec
import ReductionIR.Inference
/-
Writing a graph as a model: operators in a topological order, one node each, with constants
as initializers. Every reduction is marked to reduce nothing over an empty list of axes.
-/
namespace ReductionIR

namespace Export

/-- The operators that produce the inputs of an operator, once for each input. -/
def producers (g : Graph) (op : Op) : List String :=
  op.inputs.filterMap fun id =>
    ((g.tensors.find? id).bind fun t => (g.placement t).producer?).filter g.ops.contains

/-- The operators that read what an operator produces, once for each reading input. -/
def readers (g : Graph) (producer : String) : List String :=
  g.ops.entries.flatMap fun entry =>
    ((producers g entry.2).filter (· == producer)).map fun _ => entry.1

/-- A sort under way: operators whose producers are all done wait in a queue. -/
structure Sorting where
  queue : List String
  awaited : Table String Nat
  done : List String

namespace Sorting

def start (g : Graph) : Sorting :=
  let awaited := g.ops.map fun op => (producers g op).length
  { queue := (awaited.entries.filter fun entry => entry.2 == 0).map Prod.fst, awaited, done := [] }

def release (s : Sorting) (id : String) : Sorting :=
  let left := (s.awaited.find? id).getD 0 - 1
  { s with
    awaited := s.awaited.insert id left
    queue := if left = 0 then s.queue ++ [id] else s.queue }

/-- Take operators off the queue; each one comes there once. -/
def run (g : Graph) : Nat → Sorting → Sorting
  | 0, s => s
  | steps + 1, s =>
    match s.queue with
    | [] => s
    | id :: rest =>
      run g steps ((readers g id).foldl release { s with queue := rest, done := s.done ++ [id] })

end Sorting

/-- The operators in an order in which each comes after its producers. -/
def sorted (g : Graph) : Except Fault (List Op) :=
  let done := (Sorting.run g g.ops.size (Sorting.start g)).done
  -- what lies on a cycle, or behind one, is never queued
  if done.length = g.ops.size then .ok (done.filterMap g.ops.find?)
  else .error (.internal .cycle)

def isStorable (d : Dim) : Bool :=
  match d with
  | .known n => decide (-9223372036854775808 ≤ n ∧ n ≤ 9223372036854775807)
  | _ => true

def valueInfo (allowUnknownRank : Bool) (t : Tensor) : Except Fault Model.ValueInfo :=
  match t.shape with
  | .unknownRank =>
    if allowUnknownRank then .ok ⟨t.id, .tensor t.dtype.code t.shape⟩
    else .error (.model (.unknownRank t.id))
  | .ranked dims =>
    if dims.all isStorable then .ok ⟨t.id, .tensor t.dtype.code t.shape⟩
    else .error (.bare .notStorable)

/-- An array as an initializer. -/
def initializer (codec : Codec) (name : String) (data : Dense) :
    Except Fault Model.Initializer :=
  Fault.lift ((codec.initializer name data).mapError Breakdown.foreign)

/-- The constants of a graph that are no graph inputs, by their ids. -/
def constantData (g : Graph) : List (String × Dense) :=
  g.tensors.values.filterMap fun t =>
    if (g.placement t).isInitializer && !g.inputs.contains t.id then
      t.data.map fun data => (t.id, data)
    else none

def constants (codec : Codec) (g : Graph) : Except Fault (List Model.Initializer) :=
  (constantData g).mapM fun entry => initializer codec entry.1 entry.2

/-- Is a tensor read although nothing gives it a value? -/
def isUnfed (g : Graph) (t : Tensor) : Bool :=
  let p := g.placement t
  p.producer?.isNone && t.data.isNone && !g.inputs.contains t.id && !p.consumers.isEmpty

/-- The nodes and initializers of a model. -/
structure Pieces where
  initializers : List Model.Initializer := []
  nodes : List Model.Node := []

def Pieces.append (a b : Pieces) : Pieces :=
  ⟨a.initializers ++ b.initializers, a.nodes ++ b.nodes⟩

def plainNode (opType : String) (op : Op) : Pieces :=
  { nodes := [{ opType, name := op.id, inputs := op.inputs, outputs := op.outputs }] }

def reductionNode (kind : ReduceKind) (op : Op) : Except Breakdown Pieces := do
  let keep ← ((op.attributes.find? "keep_dims").getD (.bool true)).truncated
  if isStorable (.known keep) then
    -- axes may turn out to be empty at run time, and then nothing is reduced
    return { nodes := [{
      opType := kind.opType, name := op.id, inputs := op.inputs, outputs := op.outputs,
      attributes := [{ name := "keepdims", data := .int keep },
        { name := "noop_with_empty_axes", data := .int 1 }] }] }
  else throw .notStorable

/-- The fixed axes of an operator go into an initializer of their own. -/
def squeezeNode (codec : Codec) (op : Op) : Except Fault Pieces := do
  let name := op.id ++ "_axes"
  let axes ← Fault.lift
    (Dense.ofValue ((op.attributes.find? "axes").getD (.list [])) (some .int64))
  let axes ← initializer codec name axes
  match op.inputs with
  | [] => throw (.bare .operandMissing)
  | data :: _ =>
    return { initializers := [axes],
             nodes := [{ opType := "Squeeze", name := op.id, inputs := [data, name],
                         outputs := op.outputs }] }

def rangeNode (op : Op) : Except Fault Pieces :=
  match (op.attributes.find? "output_type").getD (.dtype .int64) with
  | .dtype .int64 => .ok (plainNode "Range" op)
  | _ => .error (.internal (.rangeType op.id))

def pieces (codec : Codec) (op : Op) : Except Fault Pieces :=
  match OpKind.ofName? op.opType with
  | some .shapeOf => .ok (plainNode "Shape" op)
  | some .exp => .ok (plainNode "Exp" op)
  | some .log => .ok (plainNode "Log" op)
  | some .multiply => .ok (plainNode "Mul" op)
  | some (.reduce kind) => Fault.lift (reductionNode kind op)
  | some .squeeze => squeezeNode codec op
  | some .range => rangeNode op
  | none => .error (.internal (.noExportRule op.opType))

def producerName : String := "onnxlower"

end Export

open Export in
/-- The model that a graph is written as, at an opset. -/
def Graph.toModel (g : Graph) (codec : Codec) (opset : Int) (allowUnknownRank : Bool) :
    Except Fault Model := do
  if opset < Breakdown.leastExportOpset then throw (.bare (.exportOpset opset))
  Fault.lift g.validate
  let inputs ← (g.tensorsOf g.inputs).mapM (valueInfo allowUnknownRank)
  let initializers ← constants codec g
  match g.tensors.values.find? (isUnfed g) with
  | some t => throw (.bare (.unfedTensor t.id))
  | none => pure ()
  let body ← (← sorted g).mapM (pieces codec)
  let body := body.foldl Pieces.append { initializers }
  -- a cycle or an operator without a rule is reported before an output of unknown rank
  let outputs ← (g.tensorsOf g.outputs).mapM (valueInfo allowUnknownRank)
  match codec.irVersion? opset with
  | none => throw (.bare .unknownOpset)
  | some irVersion =>
    return { irVersion, producerName, opsetImports := [("", opset)],
             graph := { name := g.name, inputs, outputs, initializers := body.initializers,
                        nodes := body.nodes } }

end ReductionIR
