import Mathlib.Data.Finset.Range
import Mathlib.Data.List.Forall2
import Mathlib.Logic.Function.Basic
import ReductionIR.Reduction
/-
Evaluation of operators on concrete tensors. What numbers are and how reductions combine
them is left to an interpretation; lengths, integers and axes are computed.
-/
namespace ReductionIR

/-- A concrete tensor: the lengths of its axes and its elements in row-major order. -/
structure Concrete (α : Type) where
  dims : List Nat
  elements : List α

namespace Concrete

variable {α : Type}

def rank (x : Concrete α) : Nat := x.dims.length

def map {β : Type} (f : α → β) (x : Concrete α) : Concrete β := ⟨x.dims, x.elements.map f⟩

/-- The element of a scalar. -/
def scalar? (x : Concrete α) : Option α :=
  match x with
  | ⟨[], [a]⟩ => some a
  | _ => none

end Concrete

/-- The lengths that are left when the axes of a set go. -/
def lengthsWithout (axes : Finset Nat) (dims : List Nat) : List Nat :=
  (dims.zipIdx.filter fun d => d.2 ∉ axes).map Prod.fst

/-- The set of positions that axes name, when all are in range. -/
def axisSet? (rank : Nat) (axes : List Int) : Option (Finset Nat) :=
  (axes.mapM fun axis => normalizeAxis axis rank).map fun positions =>
    (positions.map Int.toNat).toFinset

/-- A tensor without some axes, all of which have length 1. -/
def Concrete.squeeze {α : Type} (axes : List Int) (x : Concrete α) : Option (Concrete α) := do
  let dropped ← axisSet? x.rank axes
  if ∀ axis ∈ dropped, x.dims[axis]? = some 1 then
    some ⟨lengthsWithout dropped x.dims, x.elements⟩
  else none

/-- What elements are, and what is done to them. An element may be an integer; a stored integer
    is that integer, and no other stored value is one. -/
structure Interpretation (α : Type) where
  exp : α → α
  log : α → α
  product : α → α → α
  reduce : ReduceKind → Finset Nat → Bool → Concrete α → Concrete α
  literal : Value → α
  integer? : α → Option Int
  integer?_literal : ∀ v, integer? (literal v) = Attribute.intItem? v

namespace Interpretation

variable {α : Type} (I : Interpretation α)

def integer (n : Int) : α := I.literal (.int n)

@[simp] theorem integer?_integer (n : Int) : I.integer? (I.integer n) = some n :=
  I.integer?_literal (.int n)

/-- The integers a tensor holds. -/
def integers? (x : Concrete α) : Option (List Int) := x.elements.mapM I.integer?

/-- A vector of integers. -/
def vector (ns : List Int) : Concrete α := ⟨[ns.length], ns.map I.integer⟩

/-- Stored data as a concrete tensor. -/
def stored (data : Dense) : Concrete α := ⟨data.dims, data.elements.map I.literal⟩

/-- The elementwise product of tensors of the same lengths. -/
def multiply (x y : Concrete α) : Option (Concrete α) :=
  if x.dims = y.dims then some ⟨x.dims, List.zipWith I.product x.elements y.elements⟩ else none

/-- The lengths of a tensor as a vector. -/
def shapeOf (x : Concrete α) : Concrete α := I.vector (x.dims.map Int.ofNat)

/-- The vector of the integers from one scalar up to another in steps. -/
def range (start stop step : Concrete α) : Option (Concrete α) := do
  let first ← start.scalar?.bind I.integer?
  let last ← stop.scalar?.bind I.integer?
  let width ← step.scalar?.bind I.integer?
  if width = 0 then none
  else
    some (I.vector ((List.range (Inference.span first last width).toNat).map
      fun i : Nat => first + i * width))

/-- A reduction over the axes that a tensor holds, in any order and however often. -/
def reduceOver (kind : ReduceKind) (keepDims : Bool) (x axes : Concrete α) :
    Option (Concrete α) := do
  let values ← I.integers? axes
  let positions ← axisSet? x.rank values
  return I.reduce kind positions keepDims x

/-- The value of an operator. -/
def apply (kind : OpKind) (attributes : Fields) (operands : List (Concrete α)) :
    Option (Concrete α) :=
  match kind, operands with
  | .exp, [x] => some (x.map I.exp)
  | .log, [x] => some (x.map I.log)
  | .multiply, [x, y] => I.multiply x y
  | .shapeOf, [x] => some (I.shapeOf x)
  | .squeeze, [x] =>
    match attributes.find? "axes" with
    | some (.list axes) => (axes.mapM Attribute.intItem?).bind fun axes => x.squeeze axes
    | _ => none
  | .range, [start, stop, step] => I.range start stop step
  | .reduce kind, [x, axes] =>
    I.reduceOver kind ((attributes.find? "keep_dims").getD (.bool true)).holds x axes
  | _, _ => none

end Interpretation

/-- The tensors that ids stand for. -/
abbrev Env (α : Type) := String → Option (Concrete α)

variable {α : Type} (I : Interpretation α)

/-- The value of an operator whose inputs have values. -/
def Op.value? (env : Env α) (op : Op) : Option (Concrete α) := do
  let kind ← OpKind.ofName? op.opType
  let operands ← op.inputs.mapM env
  I.apply kind op.attributes operands

/-- Evaluate operators in order; each one gives its one output a value. -/
def Op.run (env : Env α) : List Op → Option (Env α)
  | [] => some env
  | op :: rest =>
    match op.outputs with
    | [id] => (op.value? I env).bind fun x => Op.run (Function.update env id (some x)) rest
    | _ => none

/-- The value that an id has after some operators. -/
def Op.result? (env : Env α) (ops : List Op) (id : String) : Option (Concrete α) :=
  (Op.run I env ops).bind fun env' => env' id

namespace Op

variable {I} {env env' : Env α} {ops more : List Op}

theorem run_append : run I env (ops ++ more) = (run I env ops).bind (run I · more) := by
  induction ops generalizing env with
  | nil => rfl
  | cons op rest ih =>
    rw [List.cons_append, run, run]
    split
    · rename_i id _
      cases op.value? I env with
      | none => rfl
      | some x => exact ih
    · rfl

theorem run_of_not_written (done : run I env ops = some env') {id : String}
    (unwritten : ∀ op ∈ ops, id ∉ op.outputs) : env' id = env id := by
  induction ops generalizing env with
  | nil =>
    cases done
    rfl
  | cons op rest ih =>
    unfold run at done
    split at done
    · rename_i written outputs
      obtain ⟨x, _, later⟩ := Option.bind_eq_some_iff.mp done
      rw [ih later fun op member => unwritten op (List.mem_cons_of_mem _ member)]
      have apart := unwritten op (List.mem_cons_self ..)
      rw [outputs, List.mem_singleton] at apart
      exact Function.update_of_ne apart _ _
    · contradiction

end Op

/-! Lists of results -/

theorem exists_of_forall₂ {α β : Type} {R : α → β → Prop} {l : List α} {l' : List β}
    (related : List.Forall₂ R l l') {a : α} (member : a ∈ l) : ∃ b ∈ l', R a b := by
  induction related with
  | nil => contradiction
  | cons here later ih =>
    rcases List.mem_cons.mp member with rfl | other
    · exact ⟨_, List.mem_cons_self .., here⟩
    · obtain ⟨b, there, holds⟩ := ih other
      exact ⟨b, List.mem_cons_of_mem _ there, holds⟩

theorem mapM_eq_some_iff {β γ : Type} {f : β → Option γ} {bs : List β} {cs : List γ} :
    bs.mapM f = some cs ↔ List.Forall₂ (fun b c => f b = some c) bs cs := by
  constructor
  · intro each
    induction bs generalizing cs with
    | nil =>
      cases each
      exact .nil
    | cons b rest ih =>
      rw [List.mapM_cons] at each
      simp only [bind, Option.bind_eq_some_iff, pure, Option.some.injEq] at each
      obtain ⟨c, first, later, others, rfl⟩ := each
      exact .cons first (ih others)
  · intro each
    induction each with
    | nil => rfl
    | cons first _ ih => simp [first, ih]

theorem exists_of_mapM {β γ : Type} {f : β → Option γ} {bs : List β} {cs : List γ}
    (each : bs.mapM f = some cs) {c : γ} (member : c ∈ cs) : ∃ b ∈ bs, f b = some c :=
  exists_of_forall₂ (mapM_eq_some_iff.mp each).flip member

/-! Laws of the values -/

section Laws

variable {α : Type} (I : Interpretation α)

theorem mapM_eq_some_map {β γ : Type} {f : β → Option γ} {h : β → γ} {l : List β}
    (each : ∀ b ∈ l, f b = some (h b)) : l.mapM f = some (l.map h) := by
  rw [mapM_eq_some_iff, List.forall₂_map_right_iff, List.forall₂_same]
  exact each

namespace Interpretation

theorem integers?_of_integers {x : Concrete α} {ns : List Int}
    (elements : x.elements = ns.map I.integer) : I.integers? x = some ns := by
  rw [integers?, elements, List.mapM_map]
  have each := mapM_eq_some_map (f := I.integer? ∘ I.integer) (h := id) (l := ns)
    fun n _ => I.integer?_integer n
  rw [each, List.map_id]

@[simp] theorem integers?_vector (ns : List Int) : I.integers? (I.vector ns) = some ns :=
  I.integers?_of_integers rfl

theorem integers?_stored {data : Dense} {ns : List Int} (elements : data.elements = ns.map .int) :
    I.integers? (I.stored data) = some ns := by
  apply I.integers?_of_integers
  simp [stored, elements, integer]

end Interpretation

theorem axisSet?_range (rank : Nat) :
    axisSet? rank ((List.range rank).map Int.ofNat) = some (Finset.range rank) := by
  have each : ∀ axis ∈ (List.range rank).map Int.ofNat,
      normalizeAxis axis rank = some axis := by
    intro axis member
    obtain ⟨i, inside, rfl⟩ := List.mem_map.mp member
    have bound := List.mem_range.mp inside
    unfold normalizeAxis
    have low : -(rank : Int) ≤ Int.ofNat i := by simp
    have high : Int.ofNat i < rank := by simpa using bound
    rw [if_pos ⟨low, high⟩, if_neg (by simp)]
  rw [axisSet?, mapM_eq_some_map each, List.map_id', Option.map_some]
  congr 1
  ext i
  simp

theorem axisSet?_lt {rank : Nat} {axes : List Int} {positions : Finset Nat}
    (named : axisSet? rank axes = some positions) : ∀ i ∈ positions, i < rank := by
  obtain ⟨normal, each, rfl⟩ := Option.map_eq_some_iff.mp named
  intro i member
  obtain ⟨position, inside, rfl⟩ := List.mem_map.mp (List.mem_toFinset.mp member)
  obtain ⟨axis, _, normalized⟩ := exists_of_mapM each inside
  have bounds := normalizeAxis_bounds normalized
  omega

namespace Interpretation

/-- The lengths of the lengths, without its one axis, are the rank. -/
theorem squeeze_shapeOf_shapeOf (x : Concrete α) :
    (I.shapeOf (I.shapeOf x)).squeeze [0] = some ⟨[], [I.integer x.rank]⟩ := by
  simp [shapeOf, vector, Concrete.squeeze, Concrete.rank, axisSet?, normalizeAxis, lengthsWithout]

theorem range_all (n : Nat) :
    I.range ⟨[], [I.integer 0]⟩ ⟨[], [I.integer n]⟩ ⟨[], [I.integer 1]⟩ =
      some (I.vector ((List.range n).map Int.ofNat)) := by
  have count : (Inference.span 0 n 1).toNat = n := by
    simp [Inference.span]
  simp [range, Concrete.scalar?, count]
  rfl

end Interpretation

end Laws

end ReductionIR
