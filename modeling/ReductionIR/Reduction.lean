import ReductionIR.Registry
/-
The ten reductions of the operator set: a plain reduction with, for some, an elementwise
step before or after it. Everything is checked before anything is drafted.
-/
namespace ReductionIR

inductive Reduction
  | sum | mean | max | min | prod | l1 | l2 | logSum | logSumExp | sumSquare
deriving DecidableEq

namespace Reduction

def all : List Reduction :=
  [sum, mean, max, min, prod, l1, l2, logSum, logSumExp, sumSquare]

def operator : Reduction → String
  | sum => "ReduceSum"
  | mean => "ReduceMean"
  | max => "ReduceMax"
  | min => "ReduceMin"
  | prod => "ReduceProd"
  | l1 => "ReduceL1"
  | l2 => "ReduceL2"
  | logSum => "ReduceLogSum"
  | logSumExp => "ReduceLogSumExp"
  | sumSquare => "ReduceSumSquare"

def routineName : Reduction → String
  | sum => "reduce_sum"
  | mean => "reduce_mean"
  | max => "reduce_max"
  | min => "reduce_min"
  | prod => "reduce_prod"
  | l1 => "reduce_l1"
  | l2 => "reduce_l2"
  | logSum => "reduce_log_sum"
  | logSumExp => "reduce_log_sum_exp"
  | sumSquare => "reduce_sum_square"

def kernel : Reduction → ReduceKind
  | sum | logSum | logSumExp | sumSquare => .sum
  | mean => .mean
  | max => .max
  | min => .min
  | prod => .prod
  | l1 => .l1
  | l2 => .l2

/-- The elementwise step before the core. -/
def prepare (r : Reduction) (ctx : Context) (x : Tensor) : Build Tensor :=
  match r with
  | logSumExp => ctx.make "Exp" [x] []
  | sumSquare => ctx.make "Multiply" [x, x] []
  | _ => pure x

/-- The elementwise step after the core. -/
def finish (r : Reduction) (ctx : Context) (x : Tensor) : Build Tensor :=
  match r with
  | logSum | logSumExp => ctx.make "Log" [x] []
  | _ => pure x

/-- The core, or nothing when there are no axes to reduce. -/
def reduce (r : Reduction) (ctx : Context) (keepDims : Bool) (axes : Axes) (x : Tensor) :
    Build Tensor :=
  match axes with
  | .none => pure x
  | axes => do
    let operand ← axes.operand ctx.graph
    ctx.make r.kernel.opType [x, operand] [("keep_dims", .bool keepDims)]

def checkType (regime : Regime) (ctx : Context) (x : Tensor) : Build Unit :=
  if x.dtype ∈ regime.types then pure () else ctx.fail (.elementType x.dtype)

def lower (r : Reduction) (regime : Regime) (ctx : Context) : Build Tensor := do
  let data ← ctx.operand 0
  checkType regime ctx data
  let keepDims ← ctx.read (ctx.node.attributes.int "keepdims" 1)
  let axes ← Axes.resolve ctx data regime.policy
  let prepared ← r.prepare ctx data
  let reduced ← r.reduce ctx (keepDims != 0) axes prepared
  r.finish ctx reduced

def routine (r : Reduction) : Routine where
  name := r.routineName
  run regime ctx := return [← r.lower regime ctx]

def baseTypes : List DType :=
  [.uint32, .uint64, .int32, .int64, .float16, .float32, .float64]

def extendedTypes : List DType := baseTypes ++ [.bfloat16]

/-- The opset from which on an operator takes its axes as an operand. -/
def operandSince : Reduction → Int
  | sum => 13
  | _ => 18

def entries (r : Reduction) : List Entry :=
  [{ operator := r.operator, since := 1, routine := r.routine, types := baseTypes,
     policy := some .fromAttribute },
   { operator := r.operator, since := r.operandSince, routine := r.routine,
     types := extendedTypes, policy := some .fromInput }]

end Reduction

namespace Registry

def reductionEntries : List Entry := Reduction.all.flatMap Reduction.entries

def standard : Registry := (Builder.registerAll {} reductionEntries).1.build

end Registry

end ReductionIR
