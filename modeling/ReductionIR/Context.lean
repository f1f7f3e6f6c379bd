import ReductionIR.Draft
import ReductionIR.SourceNode
/-
What a lowering routine works with: the source node, its operands as far as they are
given, and the graph it drafts for.
-/
namespace ReductionIR

structure Context where
  node : SourceNode
  operands : List (Option Tensor)
  graph : Graph

namespace Context

def failure (ctx : Context) (cause : NodeFailure.Cause) : Fault :=
  .node { cause, operator := ctx.node.opType, location := some ctx.node.location }

def fail {α : Type} (ctx : Context) (cause : NodeFailure.Cause) : Build α :=
  throw (ctx.failure cause)

def operand? (ctx : Context) (index : Nat) : Option Tensor := ctx.operands[index]?.join

def operand (ctx : Context) (index : Nat) : Build Tensor :=
  match ctx.operand? index with
  | some t => pure t
  | none => ctx.fail (.missingInput index)

def read {α : Type} (_ctx : Context) (result : Except LookupFailure α) : Build α :=
  MonadExcept.ofExcept (result.mapError Fault.lookup)

def make (ctx : Context) (opType : String) (inputs : List Tensor) (attributes : Fields) :
    Build Tensor :=
  Draft.make ctx.graph opType inputs attributes

end Context

end ReductionIR
