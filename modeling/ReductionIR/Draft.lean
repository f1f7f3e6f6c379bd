import ReductionIR.Inference
/-
Drafts of new operators and tensors. Building for one source node only reads the graph;
the graph changes when the finished draft is committed, so an abandoned draft leaves no
trace but the numbers it used up.
-/
namespace ReductionIR

structure Draft where
  counter : Nat
  source? : Option String := none
  ops : List Op := []
  tensors : List Tensor := []
  /-- The tensors that operators of the draft read, each id with the first one of that id. -/
  operands : Table String Tensor := ∅
  committed : Bool := false

/-- Steps that extend a draft and may fail; what was drafted before a failure stays. -/
abbrev Build := EStateM Fault Draft

namespace Draft

/-- Take the next free number for an id that starts with `stem`. -/
def fresh (g : Graph) (stem : String) : Build Nat :=
  modifyGet fun d =>
    let n := g.freeNumber stem d.counter
    (n, { d with counter := n })

def output (opType : String) (n : Nat) (inferred : Inferred) : Tensor :=
  let id := Graph.numbered opType n ++ ":0"
  { origin := .made n, id, name := id, dtype := inferred.1, shape := inferred.2, data := none }

def record (inputs : List Tensor) (op : Op) (out : Tensor) (d : Draft) : Draft :=
  { d with
    ops := d.ops ++ [op]
    tensors := d.tensors ++ [out]
    operands := inputs.foldl (fun seen t => seen.insertNew t.id t) d.operands }

/-- Draft an operator with one output. Inference runs first, so a rejected operator uses up
    no number. -/
def make (g : Graph) (opType : String) (inputs : List Tensor) (attributes : Fields) :
    Build Tensor := do
  let inferred ← MonadExcept.ofExcept (infer opType (inputs.map Tensor.toFacts) attributes)
  let n ← fresh g opType
  let out := output opType n inferred
  modify fun d => d.record inputs
    { id := Graph.numbered opType n, opType, inputs := inputs.map Tensor.id, outputs := [out.id],
      attributes, source? := d.source? } out
  return out

/-- Draft an operator some of whose operands may be left out. When one is, nothing is drafted,
    and a number is used up if inference did not need it. -/
def makeGiven (g : Graph) (opType : String) (inputs : List (Option Tensor))
    (attributes : Fields) : Build Tensor := do
  match inputs.mapM id with
  | some inputs => make g opType inputs attributes
  | none =>
    let _ ← MonadExcept.ofExcept
      (inferGiven opType (inputs.map (Option.map Tensor.toFacts)) attributes)
    let _ ← fresh g opType
    throw (.bare .operandAbsent)

def constant (g : Graph) (data : Except Breakdown Dense) (stem : String) : Build Tensor := do
  let data ← MonadExcept.ofExcept (Fault.lift data)
  let n ← fresh g stem
  let t := Tensor.constant (.made n) (Graph.numbered stem n) data
  modify fun d => { d with tensors := d.tensors ++ [t] }
  return t

def addDrafted (g : Graph) (t : Tensor) : Graph :=
  if (g.placement t).isInitializer then g.addConstant t else g.addTensor t

/-- Add what the graph does not know yet of what the operators read. -/
def addOperand (g : Graph) (t : Tensor) : Graph :=
  if g.tensors.contains t.id then g else g.addTensor t

/-- The graph with operands, tensors and operators of the draft, in this order. -/
def attach (d : Draft) (g : Graph) : Graph :=
  let g := d.operands.values.foldl addOperand g
  -- operands give way to what the graph has under their ids, drafted tensors do not
  let g := d.tensors.foldl addDrafted g
  d.ops.foldl Graph.addNode g

/-- Only the first commit has an effect. -/
def commit (d : Draft) (g : Graph) : Draft × Graph :=
  if d.committed then (d, g) else ({ d with committed := true }, d.attach g)

def discard (d : Draft) : Draft := { d with ops := [], tensors := [], operands := ∅ }

/-- Run steps on a draft whose numbers continue those of the graph. -/
def run {α : Type} (d : Draft) (g : Graph) (steps : Build α) : Except Fault α × Draft × Graph :=
  match steps.run { d with counter := g.counter } with
  | .ok a d => (.ok a, d, { g with counter := d.counter })
  | .error e d => (.error e, d, { g with counter := d.counter })

end Draft

end ReductionIR
