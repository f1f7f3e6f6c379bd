import ReductionIR.Fault
/-
The dataflow graph: tensors and operators under their ids, the roles and links of every
tensor, and a counter for new ids. A tensor is told apart by its origin, not by its id:
an entry of the table may be replaced by another tensor of the same id.
-/
namespace ReductionIR

/-- Where a tensor comes from: handed in by the caller, who numbers them, or made by this
    library for the id of that number. -/
inductive Origin
  | given (index : Nat)
  | made (number : Nat)
deriving DecidableEq

/-- The roles of a tensor in a graph and its links to operators. -/
structure Placement where
  isInput : Bool := false
  isOutput : Bool := false
  isInitializer : Bool := false
  producer? : Option String := none
  consumers : List String := []
deriving DecidableEq

/-- What inference can see of a tensor. -/
structure Facts where
  dtype : DType
  shape : Shape
  data : Option Dense

structure Tensor extends Facts where
  origin : Origin
  id : String
  name : String
  initial : Placement := {}

namespace Tensor

def constant (origin : Origin) (name : String) (data : Dense) : Tensor :=
  { origin, id := name, name, shape := data.shape, dtype := data.kind.dtype, data := some data,
    initial := { isInitializer := true } }

def placeholder (origin : Origin) (name : String) : Tensor :=
  { origin, id := name, name, shape := .unknownRank, dtype := .unknown, data := none }

def isConstant (t : Tensor) : Bool := t.data.isSome

def rank? (t : Tensor) : Option Nat := t.shape.rank?

def text (t : Tensor) : String :=
  "Tensor(" ++ Text.quoted t.id ++ ", " ++ t.dtype.typeName ++ ", " ++ t.shape.text ++ ")"

end Tensor

structure Op where
  id : String
  opType : String
  inputs : List String := []
  outputs : List String := []
  attributes : Fields := []
  source? : Option String := none

structure Graph where
  name : String
  tensors : Table String Tensor := ∅
  ops : Table String Op := ∅
  inputs : List String := []
  outputs : List String := []
  placements : Table Origin Placement := ∅
  counter : Nat := 0

namespace Graph

def placement (g : Graph) (t : Tensor) : Placement :=
  (g.placements.find? t.origin).getD t.initial

def place (g : Graph) (t : Tensor) (change : Placement → Placement) : Graph :=
  { g with placements := g.placements.insert t.origin (change (g.placement t)) }

@[simp] theorem tensors_place (g : Graph) (t : Tensor) (change : Placement → Placement) :
    (g.place t change).tensors = g.tensors := rfl

@[simp] theorem ops_place (g : Graph) (t : Tensor) (change : Placement → Placement) :
    (g.place t change).ops = g.ops := rfl

theorem placement_place (g : Graph) (t u : Tensor) (change : Placement → Placement) :
    (g.place t change).placement u =
      if u.origin = t.origin then change (g.placement t) else g.placement u := by
  simp only [placement, place, Table.find?_insert]
  split <;> simp

/-- Change the placement of the tensor an id stands for, if it stands for one. -/
def placeId (g : Graph) (id : String) (change : Placement → Placement) : Graph :=
  match g.tensors.find? id with
  | some t => g.place t change
  | none => g

def isTaken (g : Graph) (id : String) : Bool := g.tensors.contains id || g.ops.contains id

def numbered (stem : String) (n : Nat) : String := stem ++ "_" ++ toString n

/-- The first number from `n` on whose id is free; `steps` bounds the taken ones. -/
def freeFrom (g : Graph) (stem : String) : Nat → Nat → Nat
  | 0, n => n
  | steps + 1, n =>
    if g.isTaken (numbered stem n) then freeFrom g stem steps (n + 1) else n

/-- The first number above `counter` whose id is free. No more ids are taken than the two
    tables have entries. -/
def freeNumber (g : Graph) (stem : String) (counter : Nat) : Nat :=
  g.freeFrom stem (g.tensors.size + g.ops.size) (counter + 1)

/-- A new id; the counter stays at its number. -/
def freshId (g : Graph) (stem : String) : String × Graph :=
  let n := g.freeNumber stem g.counter
  (numbered stem n, { g with counter := n })

def addTensor (g : Graph) (t : Tensor) : Graph :=
  { g with tensors := g.tensors.insert t.id t }

def listed (id : String) (ids : List String) : List String :=
  if id ∈ ids then ids else ids ++ [id]

def addInput (g : Graph) (t : Tensor) : Graph :=
  let g := (g.addTensor t).place t fun p => { p with isInput := true }
  { g with inputs := listed t.id g.inputs }

def addOutput (g : Graph) (t : Tensor) : Graph :=
  let g := (g.addTensor t).place t fun p => { p with isOutput := true }
  { g with outputs := listed t.id g.outputs }

def addConstant (g : Graph) (t : Tensor) : Graph :=
  (g.addTensor t).place t fun p => { p with isInitializer := true }

def linkProducer (op : String) (g : Graph) (id : String) : Graph :=
  g.placeId id fun p => { p with producer? := some op }

def linkConsumer (op : String) (g : Graph) (id : String) : Graph :=
  g.placeId id fun p => { p with consumers := listed op p.consumers }

/-- Add an operator and link it with the tensors its ids stand for. -/
def addNode (g : Graph) (op : Op) : Graph :=
  let g := { g with ops := g.ops.insert op.id op }
  let g := op.outputs.foldl (linkProducer op.id) g
  op.inputs.foldl (linkConsumer op.id) g

def producerOf (g : Graph) (t : Tensor) : Option Op :=
  (g.placement t).producer?.bind g.ops.find?

def missingTensor? (g : Graph) (op : Op) : Option String :=
  (op.inputs ++ op.outputs).find? fun id => !g.tensors.contains id

/-- The first link of a tensor to an operator the graph does not have. -/
def brokenLink? (g : Graph) (entry : String × Tensor) : Option Breakdown :=
  let p := g.placement entry.2
  match p.producer? with
  | some producer =>
    -- an empty name stands for no producer
    if producer ≠ "" ∧ !g.ops.contains producer then some (.missingProducer entry.1 producer)
    else (p.consumers.find? fun op => !g.ops.contains op).map (.missingConsumer entry.1)
  | none => (p.consumers.find? fun op => !g.ops.contains op).map (.missingConsumer entry.1)

/-- The first dangling reference: those of operators come before those of tensors. -/
def dangling? (g : Graph) : Option Breakdown :=
  (g.ops.values.findSome? fun op => (g.missingTensor? op).map (.missingTensor op.id)).or
    (g.tensors.entries.findSome? g.brokenLink?)

/-- Every reference must lead somewhere. -/
def validate (g : Graph) : Except Breakdown Unit :=
  match g.dangling? with
  | some failure => .error failure
  | none => .ok ()

/-- How often each operator type occurs, in the order of first occurrence. -/
def histogram (g : Graph) : Table String Nat :=
  g.ops.values.foldl
    (fun counts op => counts.insert op.opType ((counts.find? op.opType).getD 0 + 1)) ∅

def tensorsOf (g : Graph) (ids : List String) : List Tensor := ids.filterMap g.tensors.find?

def text (g : Graph) : String :=
  "ModelIR(nodes=" ++ toString g.ops.size ++ ", tensors=" ++ toString g.tensors.size ++ ")"

end Graph

end ReductionIR
