import ReductionIR.Proofs.Codecs
import ReductionIR.Proofs.Describing
import ReductionIR.Proofs.Freshness
/-
What models compute. A source model is read node by node at its opset; a written model is
made of operators of the standard operator set. Both start from stored and fed values.
-/
namespace ReductionIR

/-- The reduction that an operator name stands for. -/
def Reduction.ofOperator? (name : String) : Option Reduction :=
  all.find? (·.operator == name)

/-- An operand of this value names no axes: a scalar or an empty list. -/
def Concrete.isEmptyOperand {α : Type} (a : Concrete α) : Bool := a.dims = [] || a.dims = [0]

instance (rank : Nat) (axes : List Int) : Decidable (NamesOnce rank axes) :=
  inferInstanceAs (Decidable (List.Nodup _))

namespace Model

/-! Source models -/

/-- The name of an operand; an empty name leaves it out. -/
def Node.operandName? (node : Node) (index : Nat) : Option String :=
  node.inputs[index]?.filter (· ≠ "")

/-- What a node asks for: its reduction, its attributes, and whether it keeps dims. -/
structure Request where
  reduction : Reduction
  attributes : AttributeStore
  keepDims : Bool

def Node.request? (node : Node) : Option Request := do
  let reduction ← Reduction.ofOperator? node.opType
  let attributes ← (storeOf node.attributes).toOption
  let keep ← (attributes.int "keepdims" 1).toOption
  return { reduction, attributes, keepDims := keep != 0 }

variable {α : Type} (codec : Codec) (I : Interpretation α)

/-- The value that an initializer stores. -/
def Initializer.value? (init : Initializer) : Option (Concrete α) :=
  (codec.array init).toOption.map I.stored

theorem Initializer.value?_of_array {codec : Codec} {init : Initializer} {data : Dense}
    (read : codec.array init = .ok data) : init.value? codec I = some (I.stored data) := by
  rw [value?, read]
  rfl

namespace Graph

def isStored (m : Graph) (name : String) : Bool := m.initializers.any (·.name == name)

/-- The values there are before any node: those of initializers, and of the other inputs. -/
def given (m : Graph) (fed : Env α) : Env α := fun name =>
  match m.initializers.find? (·.name == name) with
  | some init => init.value? codec I
  | none => if name ∈ m.inputs.map ValueInfo.name then fed name else none

/-- The axes of a reduction that drops dims are settled or, where they are fed or computed,
    name no axis twice. -/
def hasDistinctAxes (m : Graph) (node : Node) (keepDims : Bool) (reading : Reading) (rank : Nat)
    (axes? : Option (Concrete α)) : Bool :=
  keepDims || reading ≠ .operand || ((node.operandName? 1).any m.isStored) ||
    (axes?.bind I.integers?).all fun values => decide (NamesOnce rank values)

/-- The value of a node. Axes named twice may be taken once, or have no meaning where they are
    not settled and dims are dropped. -/
def value? (m : Graph) (rejects : Bool) (opset : Int) (env : Env α) (node : Node) :
    Option (Concrete α) := do
  let request ← node.request?
  let x ← (node.operandName? 0).bind env
  let axes? ← (node.operandName? 1).elim (some none) fun name => (env name).map some
  let reading ← (request.reduction.reading opset request.attributes
    (axes?.map Concrete.isEmptyOperand)).toOption
  if rejects && !m.hasDistinctAxes I node request.keepDims reading x.rank axes? then none
  else request.reduction.meaning? I request.keepDims reading x axes?

end Graph

/-- The first output of a node gets the value. -/
def Node.assign (node : Node) (y : Concrete α) (env : Env α) : Env α :=
  match node.outputs with
  | [] => env
  | name :: _ => if name = "" then env else Function.update env name (some y)

/-- The values of all names after the nodes of a source model. -/
def Graph.run? (m : Graph) (rejects : Bool) (opset : Int) (fed : Env α) : Option (Env α) :=
  m.nodes.foldlM (fun env node => (m.value? I rejects opset env node).map (node.assign · env))
    (m.given codec I fed)

/-- Every name is assigned once. An initializer may have the name of an input. -/
structure Graph.SingleAssignment (m : Graph) : Prop where
  stored : (m.initializers.map Initializer.name).Nodup
  fed : (m.inputs.map ValueInfo.name).Nodup
  made : ((m.nodes.flatMap Node.outputs).filter (· ≠ "")).Nodup
  new : ∀ name ∈ m.nodes.flatMap Node.outputs, name ≠ "" → name ∉ m.givenNames

/-- Inputs that no initializer stands for are fed tensors of their declared shapes. -/
def Graph.FedBy {α : Type} (m : Graph) (fed : Env α) : Prop :=
  ∀ value ∈ m.inputs, m.isStored value.name = false → ∃ x, fed value.name = some x ∧ x.Filled ∧
    value.facts.shape.Describes x.dims

/-- Dims are numbers of 64 bits. -/
structure Graph.Storable (codec : Codec) (m : Graph) : Prop where
  inputs : ∀ value ∈ m.inputs, value.facts.shape.Storable
  initializers : ∀ init ∈ m.initializers, ∀ data, codec.array init = .ok data →
    data.shape.Storable

/-! Written models -/

end Model

namespace OpKind

/-- The name of an operator in the standard operator set. -/
def standardName : OpKind → String
  | shapeOf => "Shape"
  | multiply => "Mul"
  | kind => kind.opType

def ofStandardName? (text : String) : Option OpKind := all.find? (·.standardName == text)

end OpKind

namespace Model

/-- The axes of a written reduction, the empty set included: only without its flag an empty
    list stands for all axes. -/
def writtenAxes? (noop : Bool) (rank : Nat) (values : List Int) : Option (Finset Nat) :=
  if values = [] ∧ noop = false then some (Finset.range rank) else axisSet? rank values

end Model

/-- The value of an operator of the standard operator set. -/
def Interpretation.applyStandard {α : Type} (I : Interpretation α) (kind : OpKind)
    (attributes : AttributeStore) (operands : List (Concrete α)) : Option (Concrete α) :=
  match kind, operands with
  | .squeeze, [x, axes] => (I.integers? axes).bind fun axes => x.squeeze axes
  | .squeeze, _ => none
  | .reduce kind, [x, axes] => do
    let keep ← (attributes.int "keepdims" 1).toOption
    let noop ← (attributes.int "noop_with_empty_axes" 0).toOption
    let positions ← (I.integers? axes).bind (Model.writtenAxes? (noop != 0) x.rank)
    return I.reduce kind positions (keep != 0) x
  | .reduce _, _ => none
  | kind, operands => I.apply kind [] operands

namespace Model

variable {α : Type} (codec : Codec) (I : Interpretation α)

/-- The value of a written node. -/
def Node.written? (env : Env α) (node : Node) : Option (Concrete α) := do
  let kind ← OpKind.ofStandardName? node.opType
  let attributes ← (storeOf node.attributes).toOption
  let operands ← node.inputs.mapM env
  I.applyStandard kind attributes operands

/-- Run written nodes in order; each one has one output. -/
def Node.execute? (env : Env α) (node : Node) : Option (Env α) :=
  match node.outputs with
  | [id] => (node.written? I env).map fun y => Function.update env id (some y)
  | _ => none

def Graph.execute? (m : Graph) (fed : Env α) : Option (Env α) :=
  m.nodes.foldlM (fun env node => node.execute? I env) (m.given codec I fed)

/-- No given name looks like the one for the axes of a written Squeeze. -/
def Graph.AxesFree (m : Graph) : Prop :=
  ∀ name ∈ m.givenNames, ∀ n, name ≠ Graph.numbered "Squeeze" n ++ "_axes"

theorem Graph.unclashing_of_plain {m : Graph}
    (plain : ∀ name ∈ m.givenNames, ':' ∉ name.toList) : m.Unclashing := by
  intro name given kind n same
  refine plain name given ?_
  rw [same, ReductionIR.Graph.resultId, String.toList_append]
  exact List.mem_append_right _ (by simp)

theorem Graph.axesFree_of_plain {m : Graph}
    (plain : ∀ name ∈ m.givenNames, '_' ∉ name.toList) : m.AxesFree := by
  intro name given n same
  refine plain name given ?_
  rw [same, String.toList_append]
  exact List.mem_append_right _ (by simp)

end Model

end ReductionIR
