import ReductionIR.Reduction
/-
Lowering one source node: its routine drafts, and the draft is committed when the routine
succeeds.
-/
namespace ReductionIR

namespace Lowering

/-- An unreadable attribute counts as a failure of the node that has it. -/
def blame (node : SourceNode) : Fault → Fault
  | .lookup failure =>
    .node { cause := .unreadable failure, operator := node.opType,
            location := some node.location }
  | fault => fault

/-- Run the entry for a node. A routine must hand out something. -/
def draftWith (entry : Entry) (ctx : Context) : Build (List Tensor) := do
  let outputs ← entry.routine.run entry.toRegime ctx
  if outputs.isEmpty then
    throw (.internal (.noOutputs entry.routine.name ctx.node.location))
  else return outputs

/-- Lower a node with its entry and commit what was drafted. A failure leaves the graph as
    it was, but for the counter. -/
def runEntry (entry : Entry) (ctx : Context) : Except Fault (List Tensor) × Graph :=
  let blank : Draft := { counter := 0, source? := some ctx.node.location }
  match blank.run ctx.graph (draftWith entry ctx) with
  | (.ok outputs, draft, g) => (.ok outputs, draft.attach g)
  | (.error fault, _, g) => (.error (blame ctx.node fault), g)

end Lowering

/-- Lower a node, given its operands in the order of its inputs. -/
def lowerNode (registry : Registry) (node : SourceNode) (operands : List (Option Tensor))
    (g : Graph) : Except Fault (List Tensor) × Graph :=
  match registry.resolve node.opType node.opset with
  | .error cause =>
    (.error (.node { cause, operator := node.opType, location := some node.location }), g)
  | .ok entry => Lowering.runEntry entry { node, operands, graph := g }

end ReductionIR
