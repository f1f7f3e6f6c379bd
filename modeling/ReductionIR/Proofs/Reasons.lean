import ReductionIR.Proofs.Building
/-
Reasons for a lowering to fail. They form a list, and the first one that applies decides; builds
are put together along such lists.
-/
namespace ReductionIR

open Stepwise

/-- The first reason that applies. -/
def firstReason {ε : Type} (reasons : List (Bool × ε)) : Option ε :=
  (reasons.find? Prod.fst).map Prod.snd

section Reasons

variable {ε : Type}

@[simp] theorem firstReason_nil : firstReason ([] : List (Bool × ε)) = none := rfl

@[simp] theorem firstReason_cons (applies : Bool) (e : ε) (reasons : List (Bool × ε)) :
    firstReason ((applies, e) :: reasons) = if applies then some e else firstReason reasons := by
  cases applies <;> rfl

@[simp] theorem firstReason_append (reasons more : List (Bool × ε)) :
    firstReason (reasons ++ more) = (firstReason reasons).or (firstReason more) := by
  unfold firstReason
  rw [List.find?_append]
  cases reasons.find? Prod.fst <;> rfl

theorem firstReason_map {η : Type} (f : ε → η) (reasons : List (Bool × ε)) :
    firstReason (reasons.map fun reason => (reason.1, f reason.2)) =
      (firstReason reasons).map f := by
  induction reasons with
  | nil => rfl
  | cons reason rest ih =>
    obtain ⟨applies, e⟩ := reason
    cases applies
    · simpa using ih
    · rfl

end Reasons

/-! Reasons to reject a node -/

def isOutside (rank : Nat) (axis : Int) : Bool :=
  decide (axis < -(rank : Int) ∨ (rank : Int) - 1 < axis)

/-- Axes that do not fit a rank that is known. -/
def misfits (rank? : Option Nat) (axes : List Int) : List (Bool × FailureKind) :=
  [(rank?.any fun rank => decide (rank < axes.length), .tooManyReductionAxes),
   (rank?.any fun rank => axes.any (isOutside rank), .axisOutOfRange)]

namespace Tensor

/-- The number of axes that a list of this shape names. -/
def listed? (t : Tensor) : Option Int :=
  match t.shape with
  | .ranked [.known count] => some count
  | _ => none

/-- The integers that a constant holds. -/
def heldAxes (t : Tensor) : List Int :=
  (t.data.bind fun array => array.integers.toOption).getD []

/-- A constant that does not hold integers. -/
def isUnreadable (t : Tensor) : Bool := t.data.any fun array => array.integers.toOption.isNone

end Tensor

namespace SourceNode

variable (node : SourceNode) (operands : List (Option Tensor))

def operators : List String :=
  ["ReduceSum", "ReduceMean", "ReduceMax", "ReduceMin", "ReduceProd", "ReduceL1", "ReduceL2",
    "ReduceLogSum", "ReduceLogSumExp", "ReduceSumSquare"]

/-- Axes become an operand, those of sums sooner than others. -/
def takesOperand : Bool :=
  decide ((if node.opType = "ReduceSum" then 13 else 18) ≤ node.opset)

/-- Brain floats came with the operand. -/
def acceptedTypes : List DType :=
  [.uint32, .uint64, .int32, .int64, .float16, .float32, .float64] ++
    if node.takesOperand then [.bfloat16] else []

/-- Is an attribute there that is not of a kind? -/
def hasOther (name : String) (kind : AttributeKind) : Bool :=
  (node.attributes.find? name).any fun a => decide (a.kind ≠ kind)

def data? : Option Tensor := operands[0]?.join

/-- The operand that names axes: neither left out nor a scalar nor an empty list. -/
def axesOperand? : Option Tensor :=
  operands[1]?.join.filter fun t => decide (t.shape ≠ .scalar ∧ t.shape ≠ .static [0])

/-- The axes of the attribute. -/
def axesAttribute : List Int :=
  match node.attributes.find? "axes" with
  | some (.ints axes) => axes
  | _ => []

/-- The axes that are known before anything runs. -/
def knownAxes : List Int :=
  if node.takesOperand then ((axesOperand? operands).map Tensor.heldAxes).getD []
  else node.axesAttribute

def rank? : Option Nat := (data? operands).bind Tensor.rank?

/-- Reasons that do not look at values of axes. -/
def formReasons : List (Bool × FailureKind) :=
  [(!operators.contains node.opType, .unsupportedOperator),
   (decide (node.opset < 1), .unsupportedOperatorVersion),
   ((data? operands).isNone, .missingInput),
   ((data? operands).any fun t => !node.acceptedTypes.contains t.dtype, .unsupportedElementType),
   (node.hasOther "keepdims" .int, .attributeTypeMismatch)] ++
  if node.takesOperand then
    [(node.hasOther "noop_with_empty_axes" .int, .attributeTypeMismatch),
     (operands[1]?.join.any fun t => !t.shape.isFullyKnown, .dynamicAxesShapeUnsupported),
     ((rank? operands).any fun rank => ((axesOperand? operands).bind Tensor.listed?).any fun count =>
        decide ((rank : Int) < count), .tooManyReductionAxes)]
  else [(node.hasOther "axes" .ints, .attributeTypeMismatch)]

/-- All reasons to reject a node, the earlier ones first. -/
def reasons : List (Bool × FailureKind) :=
  node.formReasons operands ++ misfits (rank? operands) (node.knownAxes operands)

end SourceNode

/-- How a lowering fails: for a reason of the node, or because a value cannot be handled. -/
inductive Ending
  | rejected (kind : FailureKind)
  | broken

def Ending.ofReasons (reasons : List (Bool × FailureKind)) : List (Bool × Ending) :=
  reasons.map fun reason => (reason.1, rejected reason.2)

namespace SourceNode

variable (node : SourceNode) (operands : List (Option Tensor))

/-- A constant that is to name axes does not hold integers. -/
def isUnreadable : Bool :=
  node.takesOperand && (rank? operands).isSome && (axesOperand? operands).any Tensor.isUnreadable

/-- Axes of the attribute, or those it leaves out, are no integers of 64 bits. -/
def isOverflowing : Bool :=
  !node.takesOperand &&
    (if node.axesAttribute = [] then
      (rank? operands).any fun rank => decide (9223372036854775808 < rank)
    else node.axesAttribute.any fun axis => !fitsInt64 axis)

/-- The reasons for all ways in which a lowering fails. -/
def endings : List (Bool × Ending) :=
  Ending.ofReasons (node.formReasons operands) ++ (node.isUnreadable operands, .broken) ::
    Ending.ofReasons (misfits (rank? operands) (node.knownAxes operands)) ++
    [(node.isOverflowing operands, .broken)]

end SourceNode

/-! Builds with known endings -/

/-- A fault that ends a lowering in a way. -/
def Fault.EndsAs : Fault → Ending → Prop
  | .node failure, .rejected kind => failure.kind = kind
  | .lookup failure, .rejected kind => failure.kind = kind
  | .bare _, .broken => True
  | _, _ => False

namespace Build

variable {α β : Type} {ctx : Context} {reasons more : List (Bool × Ending)}

/-- The first reason decides how a build fails; without one it has a result that meets a
    condition. -/
def Decided (m : Build α) (reasons : List (Bool × Ending)) (post : α → Prop) : Prop :=
  ∀ d, match firstReason reasons with
    | some ending => ∃ fault d', m d = .error fault d' ∧ fault.EndsAs ending
    | none => ∃ a d', m d = .ok a d' ∧ post a

theorem decided_pure {a : α} {post : α → Prop} (holds : post a) :
    Decided (pure a) [] post := fun d => ⟨a, d, rfl, holds⟩

theorem Decided.bind {m : Build α} {f : α → Build β} {middle : α → Prop} {post : β → Prop}
    (first : Decided m reasons middle) (rest : ∀ a, middle a → Decided (f a) more post) :
    Decided (m >>= f) (reasons ++ more) post := by
  intro d
  have here := first d
  rw [firstReason_append]
  cases early : firstReason reasons with
  | some ending =>
    rw [early] at here
    obtain ⟨fault, d', failed, ends⟩ := here
    exact ⟨fault, d', bind_eq_error_iff.mpr (Or.inl failed), ends⟩
  | none =>
    rw [early] at here
    obtain ⟨a, d₁, done, holds⟩ := here
    have later := rest a holds d₁
    rw [Option.none_or]
    cases late : firstReason more with
    | some ending =>
      rw [late] at later
      obtain ⟨fault, d', failed, ends⟩ := later
      exact ⟨fault, d', bind_eq_error_iff.mpr (Or.inr ⟨a, d₁, done, failed⟩), ends⟩
    | none =>
      rw [late] at later
      obtain ⟨b, d', finished, holds⟩ := later
      exact ⟨b, d', bind_eq_ok_iff.mpr ⟨a, d₁, done, finished⟩, holds⟩

theorem Decided.bind_ok {m : Build α} {f : α → Build β} {middle : α → Prop} {post : β → Prop}
    (first : Decided m [] middle) (rest : ∀ a, middle a → Decided (f a) more post) :
    Decided (m >>= f) more post := first.bind rest

theorem Decided.mono {m : Build α} {post weaker : α → Prop} (decided : Decided m reasons post)
    (same : firstReason reasons = firstReason more) (weaken : ∀ a, post a → weaker a) :
    Decided m more weaker := by
  intro d
  have here := decided d
  rw [same] at here
  cases first : firstReason more with
  | some ending =>
    rw [first] at here
    exact here
  | none =>
    rw [first] at here
    obtain ⟨a, d', done, holds⟩ := here
    exact ⟨a, d', done, weaken a holds⟩

theorem Decided.of_none {m : Build α} {post : α → Prop} (decided : Decided m reasons post)
    (none_applies : firstReason reasons = none) : Decided m [] post :=
  decided.mono none_applies fun _ holds => holds

theorem decided_check (ctx : Context) {applies : Bool} {kind : FailureKind} {m : Build Unit}
    (fails : applies = true → ∃ cause : NodeFailure.Cause, cause.kind = kind ∧ m = ctx.fail cause)
    (passes : applies = false → m = pure ()) :
    Decided m [(applies, .rejected kind)] fun _ => applies = false := by
  intro d
  cases applies with
  | true =>
    obtain ⟨cause, same, rfl⟩ := fails rfl
    exact ⟨ctx.failure cause, d, rfl, same⟩
  | false =>
    rw [passes rfl]
    exact ⟨(), d, rfl, rfl⟩

end Build

end ReductionIR
