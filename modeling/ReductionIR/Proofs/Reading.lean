import ReductionIR.Proofs.Evaluation
/-
What a reduction of a source model means: which axes it names at its opset, and the value it
stands for. Nothing here depends on how it is lowered.
-/
namespace ReductionIR

/-- The axes a node names: none at all, all, the values of its attribute, or those that its
    second operand holds at run time. -/
inductive Reading
  | untouched
  | all
  | fixed (values : List Int)
  | operand
deriving DecidableEq

/-- The axes a tensor of a rank is reduced over; `none` inside for an untouched tensor. Axes out
    of range have no meaning. -/
def Reading.axes? {α : Type} (I : Interpretation α) (rank : Nat) (axes : Option (Concrete α)) :
    Reading → Option (Option (Finset Nat))
  | untouched => some none
  | all => some (some (Finset.range rank))
  | fixed values => (axisSet? rank values).map some
  | operand => (axes.bind I.integers?).bind fun values => (axisSet? rank values).map some

namespace Reduction

variable {α : Type} (I : Interpretation α)

/-- The axes of a node, given whether its second operand is there and, if so, empty. Up to some
    opset they are an attribute; an empty one names all axes. From then on they are the operand;
    without one a flag decides between none and all. -/
def reading (r : Reduction) (opset : Int) (attributes : AttributeStore) (empty? : Option Bool) :
    Except LookupFailure Reading :=
  if opset < r.operandSince then do
    let values := (← attributes.ints? "axes").getD []
    return if values.isEmpty then .all else .fixed values
  else do
    let noop ← attributes.int "noop_with_empty_axes" 0
    return if empty? = some false then .operand else if noop ≠ 0 then .untouched else .all

/-- The elementwise step before the core. -/
def before (r : Reduction) (x : Concrete α) : Concrete α :=
  match r with
  | logSumExp => x.map I.exp
  | sumSquare => ⟨x.dims, List.zipWith I.product x.elements x.elements⟩
  | _ => x

/-- The elementwise step after the core. -/
def after (r : Reduction) (x : Concrete α) : Concrete α :=
  match r with
  | logSum | logSumExp => x.map I.log
  | _ => x

/-- The core, or nothing when no axes are named. -/
def core (r : Reduction) (keepDims : Bool) (axes : Option (Finset Nat)) (x : Concrete α) :
    Concrete α :=
  match axes with
  | some positions => I.reduce r.kernel positions keepDims x
  | none => x

/-- The value of a reduction, if its axes are in range. -/
def meaning? (r : Reduction) (keepDims : Bool) (reading : Reading) (x : Concrete α)
    (axes : Option (Concrete α)) : Option (Concrete α) :=
  (reading.axes? I x.rank axes).map fun named =>
    r.after I (r.core I keepDims named (r.before I x))

@[simp] theorem rank_before (r : Reduction) (x : Concrete α) :
    (r.before I x).rank = x.rank := by
  cases r <;> rfl

theorem elements_before_of_empty {r : Reduction} {x : Concrete α} (empty : x.elements = []) :
    (r.before I x).elements = [] := by
  cases r <;> simp [before, Concrete.map, empty]

end Reduction

end ReductionIR
