import ReductionIR.Context
/-
The axes a reduction runs over, resolved to one of four forms: fixed numbers, an operand
that holds them at run time, a drafted expression for all axes, or none at all.
-/
namespace ReductionIR

/-- Where an operator version takes its axes from. -/
inductive AxesPolicy
  | fromAttribute | fromInput
deriving DecidableEq

def AxesPolicy.label : AxesPolicy → String
  | fromAttribute => "attribute"
  | fromInput => "input"

inductive Axes
  | fixed (values : List Int)
  | given (operand : Tensor)
  | synthesized (operand : Tensor)
  | none

namespace Axes

/-- Draft all axes of a tensor: the range from 0 to its rank, read off its shape at run
    time. -/
def allOf (g : Graph) (data : Tensor) : Build Tensor := do
  let lengths ← Draft.make g "ShapeOf" [data] []
  let rank ← Draft.make g "ShapeOf" [lengths] []
  let stop ← Draft.make g "Squeeze" [rank] [("axes", .ofInts [0])]
  let start ← Draft.constant g (Dense.ofInt 0) "range_start"
  let step ← Draft.constant g (Dense.ofInt 1) "range_step"
  Draft.make g "Range" [start, stop, step] [("output_type", .dtype .int64)]

/-- Why fixed axes do not fit a rank: too many of them, or one out of range. -/
def misfit? (values : List Int) (rank : Nat) : Option NodeFailure.Cause :=
  if rank < values.length then some (.tooManyAxes values.length rank)
  else (values.find? fun axis => !decide (-(rank : Int) ≤ axis ∧ axis ≤ (rank : Int) - 1)).map
    (.axisOutside · rank)

def checkFixed (ctx : Context) (values : List Int) (rank : Nat) : Build Unit :=
  match misfit? values rank with
  | some cause => ctx.fail cause
  | Option.none => pure ()

/-- A check against the rank of the data is left out when the rank is unknown. -/
def whenRanked (data : Tensor) (check : Nat → Build Unit) : Build Unit :=
  match data.rank? with
  | some rank => check rank
  | Option.none => pure ()

/-- All axes of a tensor, as numbers when its rank is known. -/
def every (ctx : Context) (data : Tensor) : Build Axes :=
  match data.rank? with
  | some rank => pure (fixed ((List.range rank).map Int.ofNat))
  | Option.none => return synthesized (← allOf ctx.graph data)

/-- Axes from the attribute; an absent or empty one stands for all axes. -/
def fromAttribute (ctx : Context) (data : Tensor) : Build Axes := do
  let values := (← ctx.read (ctx.node.attributes.ints? "axes")).getD []
  if values.isEmpty then every ctx data
  else do
    whenRanked data (checkFixed ctx values)
    return fixed values

/-- Does an operand of this shape name no axes? Only a scalar and an empty list do; an empty
    matrix does not. -/
def isEmptyOperand (shape : Shape) : Bool :=
  shape = .scalar || shape = .static [0]

/-- An operand that is a list must not be longer than the rank. -/
def checkCount (ctx : Context) (axes : Tensor) (rank : Nat) : Build Unit :=
  match axes.shape with
  | .ranked [.known count] =>
    if (rank : Int) < count then ctx.fail (.tooManyAxes count rank) else pure ()
  | _ => pure ()

/-- Axes that a constant operand holds must fit the rank. -/
def checkValues (ctx : Context) (axes : Tensor) (rank : Nat) : Build Unit :=
  match axes.data with
  | some array => do
    let values ← MonadExcept.ofExcept (Fault.lift array.integers)
    checkFixed ctx values rank
  | Option.none => pure ()

/-- Check an operand against the rank of the data, as far as its values are known. -/
def checkOperand (ctx : Context) (axes : Tensor) (rank : Nat) : Build Unit := do
  checkCount ctx axes rank
  checkValues ctx axes rank

/-- Without axes, either nothing is reduced or everything is. -/
def whenAbsent (ctx : Context) (data : Tensor) (noop : Int) : Build Axes :=
  if noop ≠ 0 then pure none else return synthesized (← allOf ctx.graph data)

/-- Axes from the second operand, whose shape must be known. -/
def fromInput (ctx : Context) (data : Tensor) : Build Axes := do
  let noop ← ctx.read (ctx.node.attributes.int "noop_with_empty_axes" 0)
  match ctx.operand? 1 with
  | Option.none => whenAbsent ctx data noop
  | some axes =>
    if !axes.shape.isFullyKnown then ctx.fail .dynamicAxesShape
    else if isEmptyOperand axes.shape then whenAbsent ctx data noop
    else do
      whenRanked data (checkOperand ctx axes)
      return given axes

def resolve (ctx : Context) (data : Tensor) : Option AxesPolicy → Build Axes
  | some .fromAttribute => Axes.fromAttribute ctx data
  | some .fromInput => Axes.fromInput ctx data
  | Option.none => throw (.internal .unknownPolicy)

def operand (g : Graph) : Axes → Build Tensor
  | fixed values => Draft.constant g (Dense.ofInts values) "axes"
  | given t | synthesized t => pure t
  | none => throw (.internal .noAxesOperand)

end Axes

end ReductionIR
