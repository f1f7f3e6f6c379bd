import ReductionIR.Graph
/-
Inference of the element type and shape of an operator's output, one operator at a time.
What is not known stays unknown.
-/
namespace ReductionIR

/-- What a reduction does with the elements along the reduced axes. -/
inductive ReduceKind
  | sum | mean | max | min | prod | l1 | l2
deriving DecidableEq

namespace ReduceKind

def all : List ReduceKind := [sum, mean, max, min, prod, l1, l2]

def opType : ReduceKind → String
  | sum => "ReduceSum"
  | mean => "ReduceMean"
  | max => "ReduceMax"
  | min => "ReduceMin"
  | prod => "ReduceProd"
  | l1 => "ReduceL1"
  | l2 => "ReduceL2"

end ReduceKind

inductive OpKind
  | exp | log | multiply | shapeOf | squeeze | range
  | reduce (kind : ReduceKind)
deriving DecidableEq

namespace OpKind

def all : List OpKind :=
  [exp, log, multiply, range, reduce .l1, reduce .l2, reduce .max, reduce .mean, reduce .min,
    reduce .prod, reduce .sum, shapeOf, squeeze]

def opType : OpKind → String
  | exp => "Exp"
  | log => "Log"
  | multiply => "Multiply"
  | shapeOf => "ShapeOf"
  | squeeze => "Squeeze"
  | range => "Range"
  | reduce kind => kind.opType

def ofName? (text : String) : Option OpKind := all.find? (·.opType == text)

end OpKind

abbrev Inferred := DType × Shape

namespace Inference

/-- The integers a constant holds; `none` for a tensor that is no constant. -/
def constantValues (t : Facts) : Except Breakdown (Option (List Int)) :=
  match t.data with
  | none => .ok none
  | some data => data.integers.map some

def unary : List Facts → Except Breakdown Inferred
  | t :: _ => .ok (t.dtype, t.shape)
  | [] => .error .operandMissing

def product : List Facts → Except Breakdown Inferred
  | [a, b] =>
    match a.shape.broadcast b.shape with
    | some shape => .ok (if a.dtype = .unknown then b.dtype else a.dtype, shape)
    | none => .error (.shapeClash a.shape b.shape)
  | _ => .error .operandCount

/-- The vector of lengths is as long as the rank. -/
def lengths : List Facts → Except Breakdown Inferred
  | t :: _ => .ok (.int64, .ofValues [t.shape.rank?.map Int.ofNat])
  | [] => .error .operandMissing

/-- The axis that a negative fraction counts back to from the rank: their sum may round to a
    whole number. -/
def roundedAxis (rank : Nat) (x : Binary64) : Option Int :=
  if x.below 0 then (x.plus (.ofRatio false rank 1)).integer? else none

/-- The dim an axis of a fixed attribute names; a fraction in range need not name one. -/
def namedAxis (rank : Nat) (axis : Value) : Except Breakdown (Option Int) :=
  match axis.integer?, axis with
  | some n, _ =>
    match normalizeAxis n rank with
    | some position => .ok (some position)
    | none => .error (.axisOutside axis rank)
  | none, .float x =>
    if x.atLeast (-rank) && x.below rank then .ok (roundedAxis rank x)
    else .error (.axisOutside axis rank)
  | none, _ => .error .wrongType

/-- Keep the dims at the positions that are not among `dropped`. -/
def keepOthers (dropped : List Int) (dims : List Dim) : List Dim :=
  (dims.zipIdx.filter fun d => !dropped.contains (d.2 : Int)).map Prod.fst

def squeezed (attributes : Fields) : List Facts → Except Breakdown Inferred
  | [] => .error .operandMissing
  | t :: _ =>
    match t.shape with
    -- without a rank the attribute is not even read
    | .unknownRank => .ok (t.dtype, .unknownRank)
    | .ranked dims => do
      let axes ← Accessor.items ((attributes.find? "axes").getD (.list []))
      let dropped ← axes.mapM (namedAxis dims.length)
      return (t.dtype, .ranked (keepOthers (dropped.filterMap id) dims))

def spanLimit : Int := 9223372036854775807

/-- How many of `start, start + step, …` come before `stop`. -/
def span (start stop step : Int) : Int :=
  if 0 < step then max 0 ((stop - start + step - 1) / step)
  else max 0 ((start - stop - step - 1) / (-step))

def rangeShape (values : List (Option (List Int))) : Except Breakdown Shape :=
  match values.mapM fun v => v.bind fun ns => if ns.length = 1 then ns.head? else none with
  | none => .ok (.ranked [.anonymous])
  | some [start, stop, step] =>
    if step = 0 then .error .zeroStep
    else if spanLimit < span start stop step then .error .spanTooLong
    else .ok (.static [span start stop step])
  | some _ => .error .operandCount

def ranged (attributes : Fields) (operands : List Facts) : Except Breakdown Inferred := do
  let values ← operands.mapM constantValues
  -- a length that cannot be is reported before a type that is none
  let shape ← rangeShape values
  match (attributes.find? "output_type").getD (.dtype .int64) with
  | .dtype t => return (t, shape)
  | _ => throw .notAType

def positions (rank : Nat) (axes : List Int) : Except Breakdown (List Int) :=
  axes.mapM fun axis =>
    match normalizeAxis axis rank with
    | some position => .ok position
    | none => .error (.axisOutside (.int axis) rank)

/-- Each reduced dim becomes 1 or goes. -/
def reducedDims (keepDims : Bool) (reduced : List Int) (dims : List Dim) : List Dim :=
  if keepDims then
    dims.zipIdx.map fun d => if reduced.contains (d.2 : Int) then .known 1 else d.1
  else keepOthers reduced dims

/-- A reduction over axes that are only known at run time. -/
def openReduction (keepDims : Bool) (rank : Nat) (axes : Shape) : Except Fault Shape :=
  if keepDims then .ok (.dynamic rank)
  else
    match axes with
    | .ranked [.known count] =>
      if (rank : Int) < count then .error (.internal (.axisCount count rank))
      else .ok (.dynamic (rank - count).toNat)
    | _ => .ok .unknownRank

def reduced (attributes : Fields) : List Facts → Except Fault Inferred
  | [data, axes] =>
    let keepDims := ((attributes.find? "keep_dims").getD (.bool true)).holds
    match data.shape with
    | .unknownRank => .ok (data.dtype, .unknownRank)
    | .ranked dims => do
      match ← Fault.lift (constantValues axes) with
      | none => return (data.dtype, ← openReduction keepDims dims.length axes.shape)
      | some values =>
        let reduced ← Fault.lift (positions dims.length values)
        return (data.dtype, .ranked (reducedDims keepDims reduced dims))
  | _ => .error (.bare .operandCount)

end Inference

def OpKind.infer (kind : OpKind) (operands : List Facts) (attributes : Fields) :
    Except Fault Inferred :=
  match kind with
  | exp | log => Fault.lift (Inference.unary operands)
  | multiply => Fault.lift (Inference.product operands)
  | shapeOf => Fault.lift (Inference.lengths operands)
  | squeeze => Fault.lift (Inference.squeezed attributes operands)
  | range => Fault.lift (Inference.ranged attributes operands)
  | reduce _ => Inference.reduced attributes operands

/-- The element type and shape of the one output of an operator, by the name of its type. -/
def infer (opType : String) (operands : List Facts) (attributes : Fields) :
    Except Fault Inferred :=
  match OpKind.ofName? opType with
  | some kind => kind.infer operands attributes
  | none => .error (.internal (.noRule opType))

namespace Inference

/-- The constants before the first operand that is left out must be integers too. -/
def rangedPartly (operands : List (Option Facts)) : Except Breakdown Inferred := do
  let _ ← ((operands.takeWhile Option.isSome).filterMap id).mapM constantValues
  throw .operandAbsent

/-- A reduction does not look at its axes when the rank of the data is unknown. -/
def reducedPartly : List (Option Facts) → Except Breakdown Inferred
  | [some data, none] =>
    if data.shape = .unknownRank then .ok (data.dtype, .unknownRank) else .error .operandAbsent
  | [_, _] => .error .operandAbsent
  | _ => .error .operandCount

/-- The first operand is all that counts. -/
def firstOnly (kind : OpKind) (attributes : Fields) :
    List (Option Facts) → Except Fault Inferred
  | some t :: _ => kind.infer [t] attributes
  | none :: _ => .error (.bare .operandAbsent)
  | [] => kind.infer [] attributes

end Inference

/-- Inference when operands are left out. It fails on the first one that a rule looks at. -/
def OpKind.inferPartly (kind : OpKind) (operands : List (Option Facts)) (attributes : Fields) :
    Except Fault Inferred :=
  match kind with
  | exp | log | shapeOf | squeeze => Inference.firstOnly kind attributes operands
  | multiply => .error (.bare (if operands.length = 2 then .operandAbsent else .operandCount))
  | range => Fault.lift (Inference.rangedPartly operands)
  | reduce _ => Fault.lift (Inference.reducedPartly operands)

/-- The element type and shape of the output of an operator some of whose operands may be left
    out. -/
def inferGiven (opType : String) (operands : List (Option Facts)) (attributes : Fields) :
    Except Fault Inferred :=
  match OpKind.ofName? opType, operands.mapM id with
  | some kind, none => kind.inferPartly operands attributes
  | _, full => infer opType (full.getD []) attributes

end ReductionIR
