import Mathlib
import ReductionIR.Proofs.Frame
import ReductionIR.Proofs.Parts
/-
What a lowering has to compute, and when it does. The operators run on tensors that fit the
operands and on the stored constants; the result must be what the node means.
-/
namespace ReductionIR

open Draft

/-- The value of a constant of a graph. -/
def Graph.constant? {α : Type} (I : Interpretation α) (g : Graph) (id : String) :
    Option (Concrete α) :=
  (g.tensors.find? id).bind fun t => t.data.map I.stored

/-- A value that a tensor of known lengths may have: its data, if it has any. -/
structure Tensor.Fits {α : Type} (I : Interpretation α) (t : Tensor) (a : Concrete α) :
    Prop where
  shape_eq : t.shape = .static (a.dims.map Int.ofNat)
  filled : a.elements.length = a.dims.prod
  data_eq : ∀ data, t.data = some data → a = I.stored data

/-- The operand that axes are read from at run time. -/
def Reading.source? (operand? : Option Tensor) : Reading → Option Tensor
  | operand => operand?
  | _ => none

/-- The ids that axes come through before a reduction has them. -/
def Op.axesIds (op : Op) : List String :=
  match OpKind.ofName? op.opType with
  | some .shapeOf | some .squeeze => op.outputs
  | some .range => op.inputs ++ op.outputs
  | some (.reduce _) => op.inputs.drop 1
  | _ => []

/-- The ids of the elementwise results before a reduction. -/
def Op.stepIds (op : Op) : List String :=
  match OpKind.ofName? op.opType with
  | some .exp | some .multiply => op.outputs
  | _ => []

/-- A lowered node: how it reads, its operands, the result, and the graph with the new
    operators. -/
structure LoweredNode where
  reduction : Reduction
  keepDims : Bool
  reading : Reading
  data : Tensor
  axes? : Option Tensor
  out : Tensor
  graph : Graph
  ops : List Op

namespace LoweredNode

/-- What a lowered node has to do with the lowering. -/
structure Describes (s : LoweredNode) (node : SourceNode) (operands : List (Option Tensor))
    (g : Graph) (outputs : List Tensor) (g' : Graph) : Prop where
  operator_eq : node.opType = s.reduction.operator
  keepDims_eq : ∃ keep, node.attributes.int "keepdims" 1 = .ok keep ∧ s.keepDims = (keep != 0)
  reading_eq : s.reduction.reading node.opset node.attributes
    (((operands[1]?).join).map fun axes => Axes.isEmptyOperand axes.shape) = .ok s.reading
  data_eq : operands[0]?.join = some s.data
  axes_eq : s.axes? = s.reading.source? operands[1]?.join
  outputs_eq : outputs = [s.out]
  graph_eq : s.graph = g'
  ops_eq : s.ops = g'.opsSince g

/-- Tensors that a lowered node may find: any of the declared rank for the data, one that fits
    for run-time axes, and the constants of the graph. -/
structure Feeds (s : LoweredNode) {α : Type} (I : Interpretation α) (env : Env α)
    (x : Concrete α) : Prop where
  atData : env s.data.id = some x
  rank_eq : ∀ rank, s.data.rank? = some rank → x.rank = rank
  atAxes : ∀ t, s.axes? = some t → ∃ a, env t.id = some a ∧ t.Fits I a
  constants : ∀ id, id ≠ s.data.id → (∀ t, s.axes? = some t → id ≠ t.id) →
    ∀ c, s.graph.constant? I id = some c → env id = some c

/-- What the node means on fed tensors. -/
def meaning? (s : LoweredNode) {α : Type} (I : Interpretation α) (env : Env α)
    (x : Concrete α) : Option (Concrete α) :=
  s.reduction.meaning? I s.keepDims s.reading x (s.axes?.bind fun t => env t.id)

/-- Wherever the node means something, the operators compute just this. -/
def Preserved (s : LoweredNode) : Prop :=
  ∀ (α : Type) (I : Interpretation α) (env : Env α) (x y : Concrete α), s.Feeds I env x →
    s.meaning? I env x = some y → Op.result? I env s.ops s.out.id = some y

/-- There are tensors on which the node means something. -/
def Feedable (s : LoweredNode) : Prop :=
  ∃ (α : Type) (I : Interpretation α) (env : Env α) (x y : Concrete α), s.Feeds I env x ∧
    s.meaning? I env x = some y

/-- No operand is in the way: the axes do not come through the id of the data, and an
    elementwise result does not take the id of run-time axes, unless these are the data
    itself and empty. -/
def Unshadowed (s : LoweredNode) : Prop :=
  match s.axes? with
  | none => s.data.id ∉ s.ops.flatMap Op.axesIds
  | some t => t.id ∉ s.ops.flatMap Op.stepIds ∨
    s.data.id = t.id ∧ ∃ dims, t.shape = .ranked dims ∧ Dim.known 0 ∈ dims

end LoweredNode

/-! Operators by what they compute -/

theorem axesIds_opOf (kind : OpKind) (n : Nat) (inputs : List String) (attributes : Fields)
    (source? : Option String) :
    (opOf kind.opType n inputs attributes source?).axesIds =
      match kind with
      | .shapeOf | .squeeze => [Graph.resultId (Graph.numbered kind.opType n)]
      | .range => inputs ++ [Graph.resultId (Graph.numbered kind.opType n)]
      | .reduce _ => inputs.drop 1
      | _ => [] := by
  rw [Op.axesIds]
  simp only [opOf, OpKind.ofName?_opType]
  cases kind <;> rfl

theorem stepIds_opOf (kind : OpKind) (n : Nat) (inputs : List String) (attributes : Fields)
    (source? : Option String) :
    (opOf kind.opType n inputs attributes source?).stepIds =
      match kind with
      | .exp | .multiply => [Graph.resultId (Graph.numbered kind.opType n)]
      | _ => [] := by
  rw [Op.stepIds]
  simp only [opOf, OpKind.ofName?_opType]
  cases kind <;> rfl

section Ids

variable {data : String} {lengths rank stop start step last : Nat} {source? : Option String}

theorem axesIds_allOps :
    (Axes.allOps data lengths rank stop start step last source?).flatMap Op.axesIds =
      [Graph.resultId (Graph.numbered "ShapeOf" lengths),
        Graph.resultId (Graph.numbered "ShapeOf" rank),
        Graph.resultId (Graph.numbered "Squeeze" stop), Graph.numbered "range_start" start,
        Graph.resultId (Graph.numbered "Squeeze" stop), Graph.numbered "range_step" step,
        Graph.resultId (Graph.numbered "Range" last)] := rfl

variable {r : Reduction} {keepDims : Bool} {x : String} {axes? : Option String}
  {first middle : Nat}

theorem axesIds_coreAndSteps :
    (r.coreAndSteps keepDims x axes? first middle last source?).flatMap Op.axesIds =
      axes?.toList := by
  have core : ∀ axes, (r.coreOps keepDims (r.preparedId x first) axes middle source?).flatMap
      Op.axesIds = axes.toList := by
    intro axes
    cases axes with
    | none => rfl
    | some id =>
      have reads := axesIds_opOf (.reduce r.kernel) middle [r.preparedId x first, id]
        [("keep_dims", .bool keepDims)] source?
      simpa [Reduction.coreOps, OpKind.opType] using reads
  rw [Reduction.coreAndSteps, List.flatMap_append, List.flatMap_append, core]
  cases r <;> simp [Reduction.openerOps, Reduction.opener?, Reduction.closerOps, axesIds_opOf] <;> rfl

theorem stepIds_coreAndSteps :
    (r.coreAndSteps keepDims x axes? first middle last source?).flatMap Op.stepIds =
      (r.opener?.map fun kind => Graph.resultId (Graph.numbered kind.opType first)).toList := by
  have core : ∀ axes, (r.coreOps keepDims (r.preparedId x first) axes middle source?).flatMap
      Op.stepIds = [] := by
    intro axes
    cases axes with
    | none => rfl
    | some id =>
      have writes := stepIds_opOf (.reduce r.kernel) middle [r.preparedId x first, id]
        [("keep_dims", .bool keepDims)] source?
      simpa [Reduction.coreOps, OpKind.opType] using writes
  rw [Reduction.coreAndSteps, List.flatMap_append, List.flatMap_append, core]
  cases r <;> simp [Reduction.openerOps, Reduction.opener?, Reduction.closerOps, stepIds_opOf] <;> rfl

end Ids

/-! Reductions over axes that were read -/

section Read

variable {α : Type} {I : Interpretation α} {r : Reduction} {keepDims : Bool} {x a : Concrete α}

theorem reduceOver_eq_meaning? :
    (I.reduceOver r.kernel keepDims (r.before I x) a).map (r.after I) =
      r.meaning? I keepDims .operand x (some a) := by
  simp only [Interpretation.reduceOver, Reduction.meaning?, Reading.axes?, Option.bind_some,
    Reduction.rank_before]
  cases I.integers? a with
  | none => rfl
  | some values =>
    cases named : axisSet? x.rank values <;> simp [named, Reduction.core]

theorem meaning?_operand {values : List Int} (held : I.integers? a = some values) :
    r.meaning? I keepDims .operand x (some a) = r.meaning? I keepDims (.fixed values) x none := by
  simp [Reduction.meaning?, Reading.axes?, held]

theorem meaning?_all : r.meaning? I keepDims (.fixed ((List.range x.rank).map Int.ofNat)) x none =
    r.meaning? I keepDims .all x none := by
  simp only [Reduction.meaning?, Reading.axes?, axisSet?_range, Option.map_some]

end Read

namespace LoweredNode

/-- How the operators of a lowered node came about. -/
structure Built (s : LoweredNode) (operand? : Option Tensor) (d : Draft) (ops : List Op)
    (axesId? : Option String) (first middle last : Nat) (source? : Option String) : Prop where
  parts : Reduction.AxesParts d s.data operand? source? s.reading ops axesId?
  axes_eq : s.axes? = s.reading.source? operand?
  ops_eq : s.ops = ops ++
    s.reduction.coreAndSteps s.keepDims s.data.id axesId? first middle last source?
  out_eq : s.out.id = s.reduction.resultIdOf s.data.id axesId? first middle last
  held : ∀ (α : Type) (I : Interpretation α) stem n data, d.Holds stem n data →
    s.graph.constant? I (Graph.numbered stem n) = some (I.stored data)

/-- The draft that a lowered node came from. -/
structure Drafted (s : LoweredNode) (node : SourceNode) (operands : List (Option Tensor))
    (g : Graph) (d : Draft) : Prop where
  sound : Sound g (operands.filterMap id) g.counter d
  graph_eq : s.graph = d.attach { g with counter := d.counter }
  ops_eq : s.ops = d.ops
  known : Known (operands.filterMap id) d s.out
  lowered : s.reduction.lower (s.reduction.entryAt node.opset).toRegime
    { node, operands, graph := g } (Lowering.blank node g) = .ok s.out d

/-- Every successful lowering is one of a described node. -/
theorem built_of_lowered {node : SourceNode} {operands : List (Option Tensor)} {g g' : Graph}
    {outputs : List Tensor} (done : lowerNode .standard node operands g = (.ok outputs, g')) :
    ∃ s : LoweredNode, s.Describes node operands g outputs g' ∧
      ∃ d ops axesId? first middle last source?, s.Drafted node operands g d ∧
        s.Built operands[1]?.join d ops axesId? first middle last source? := by
  obtain ⟨r, out, d, opType, _, outputs_eq, lowered, rfl⟩ := lowerNode_eq_ok done
  obtain ⟨steps, known⟩ := (r.lower_grows _ _ _).of_ok lowered
  have sound := steps.sound (Draft.sound_blank _ _ _ _)
  obtain ⟨data, keep, reading, ops, axesId?, first, middle, last, operand, found, named, parts,
    ops_eq, out_eq⟩ := Reduction.lower_parts lowered
  -- the described node reads its operands as the draft found them
  refine ⟨{ reduction := r, keepDims := keep != 0, reading, data,
            axes? := reading.source? operands[1]?.join, out,
            graph := d.attach { g with counter := d.counter }
            ops := d.ops }, ?_, d, ops, axesId?, first, middle, last,
    (Lowering.blank node g).source?, ⟨sound, rfl, rfl, known, lowered⟩, ?_⟩
  · exact {
      operator_eq := opType
      keepDims_eq := ⟨keep, found, rfl⟩
      reading_eq := named
      data_eq := operand
      axes_eq := rfl
      outputs_eq := outputs_eq
      graph_eq := rfl
      ops_eq := sound.opsSince_attach.symm }
  · exact {
      parts := parts
      axes_eq := rfl
      ops_eq := ops_eq
      out_eq := out_eq
      held := by
        intro α I stem n data holds
        obtain ⟨t, member, id_eq, stored⟩ := holds
        have there := sound.find?_seated { g with counter := d.counter } t.id
        rw [sound.drafted?_of_mem member, Option.some_or] at there
        rw [Graph.constant?, Draft.tensors_attach, ← id_eq, there]
        simp [stored] }

variable {s : LoweredNode} {operand? : Option Tensor} {d : Draft} {ops : List Op}
  {axesId? : Option String} {first middle last : Nat} {source? : Option String}
  {α : Type} {I : Interpretation α} {env : Env α} {x : Concrete α}

theorem Built.result?_eq_bind
    (built : s.Built operand? d ops axesId? first middle last source?) {env' : Env α}
    (run : Op.run I env ops = some env') :
    Op.result? I env s.ops s.out.id = Op.result? I env'
      (s.reduction.coreAndSteps s.keepDims s.data.id axesId? first middle last source?)
      (s.reduction.resultIdOf s.data.id axesId? first middle last) := by
  rw [built.ops_eq, built.out_eq, Op.result?, Op.run_append, run]
  rfl

theorem Built.result?_of_axes {axes : String}
    (built : s.Built operand? d ops (some axes) first middle last source?) {env' : Env α}
    (run : Op.run I env ops = some env') (atData : env' s.data.id = some x) :
    Op.result? I env s.ops s.out.id =
      (s.reduction.opened I env' x first axes).bind fun a =>
        s.reduction.meaning? I s.keepDims .operand x (some a) := by
  rw [built.result?_eq_bind run, Reduction.result?_of_axes _ _ _ _ _ atData]
  cases s.reduction.opened I env' x first axes with
  | none => rfl
  | some a => exact reduceOver_eq_meaning?

theorem ne_of_axesId
    (built : s.Built operand? d ops axesId? first middle last source?) (unread : s.axes? = none)
    (clear : s.Unshadowed) : s.data.id ∉ ops.flatMap Op.axesIds ++ axesId?.toList := by
  unfold Unshadowed at clear
  rw [unread] at clear
  simpa [built.ops_eq, axesIds_coreAndSteps] using clear

/-- Fixed axes are where the core reads them, unless the data has the id of their constant. -/
theorem Built.result?_of_constant {stem : String} {n : Nat} {data : Dense} {values : List Int}
    (built : s.Built operand? d [] (some (Graph.numbered stem n)) first middle last source?)
    (holds : d.Holds stem n data) (elements : data.elements = values.map .int)
    (unread : s.axes? = none) (feeds : s.Feeds I env x) (clear : s.Unshadowed) :
    Op.result? I env s.ops s.out.id =
      s.reduction.meaning? I s.keepDims (.fixed values) x none := by
  have apart : Graph.numbered stem n ≠ s.data.id := by
    intro same
    exact ne_of_axesId built unread clear (by simp [same])
  have there : env (Graph.numbered stem n) = some (I.stored data) :=
    feeds.constants _ apart (by simp [unread]) _ (built.held α I stem n data holds)
  have nothing : Op.run I env [] = some env := rfl
  rw [built.result?_of_axes nothing feeds.atData, Reduction.opened_numbered, there, Option.bind_some,
    meaning?_operand (I.integers?_stored elements)]

/-- Unless the data has the id of something on the way, all axes are computed. -/
theorem Built.result?_of_all {lengths rank stop start step end_ : Nat}
    (built : s.Built operand? d (Axes.allOps s.data.id lengths rank stop start step end_ source?)
      (some (Graph.resultId (Graph.numbered "Range" end_))) first middle last source?)
    (lower : d.Holds "range_start" start (Axes.scalarOf 0))
    (width : d.Holds "range_step" step (Axes.scalarOf 1))
    (unread : s.axes? = none) (feeds : s.Feeds I env x) (clear : s.Unshadowed) :
    Op.result? I env s.ops s.out.id = s.reduction.meaning? I s.keepDims .all x none := by
  have outside := ne_of_axesId built unread clear
  simp only [axesIds_allOps, Option.toList_some, List.mem_append, List.mem_cons, List.not_mem_nil,
    or_false, not_or] at outside
  obtain ⟨⟨nLengths, nRank, nStop, nStart, _, nStep, nRange⟩, _⟩ := outside
  have atStart := feeds.constants _ (Ne.symm nStart) (by simp [unread]) _
    (built.held α I _ _ _ lower)
  have atStep := feeds.constants _ (Ne.symm nStep) (by simp [unread]) _
    (built.held α I _ _ _ width)
  have run := run_allOps (I := I) lengths rank stop start step end_ source? feeds.atData
  simp only [atStart, atStep, Option.bind_some, Interpretation.stored_scalarOf, I.range_all,
    Option.map_some] at run
  have data_kept : s.data.id ∉ allIds lengths rank stop end_ := by
    simp [allIds, nLengths, nRank, nStop, nRange]
  rw [built.result?_of_axes run ((allEnv_of_not_mem data_kept).trans feeds.atData),
    Reduction.opened_range, allEnv_last, Option.bind_some,
    meaning?_operand (I.integers?_vector _), meaning?_all]

theorem elements_of_zero {t : Tensor} {a : Concrete α} (fits : t.Fits I a) {dims : List Dim}
    (shape : t.shape = .ranked dims) (zero : Dim.known 0 ∈ dims) : a.elements = [] := by
  have lengths := fits.shape_eq
  rw [shape, Shape.static, Shape.ranked.injEq] at lengths
  rw [lengths, List.map_map] at zero
  obtain ⟨n, member, same⟩ := List.mem_map.mp zero
  have none_left : n = 0 := by simpa using same
  have count := fits.filled
  rw [List.prod_eq_zero_iff_exists_zero_nat.mpr ⟨n, member, none_left⟩] at count
  exact List.eq_nil_of_length_eq_zero count

/-- Run-time axes are read where the operand is, unless a step before the core took its id; an
    empty operand that is the data itself may be overwritten. -/
theorem Built.result?_of_given {t : Tensor}
    (built : s.Built operand? d [] (some t.id) first middle last source?) (read : s.axes? = some t)
    (feeds : s.Feeds I env x) (clear : s.Unshadowed) :
    Op.result? I env s.ops s.out.id =
      s.reduction.meaning? I s.keepDims .operand x (env t.id) := by
  obtain ⟨a, atAxes, fits⟩ := feeds.atAxes t read
  have nothing : Op.run I env [] = some env := rfl
  rw [built.result?_of_axes nothing feeds.atData, atAxes]
  unfold Unshadowed at clear
  rw [read] at clear
  rcases clear with apart | ⟨same, dims, shape, zero⟩
  · have kept : s.reduction.opened I env x first t.id = env t.id := by
      refine Reduction.opened_of_ne first fun kind known taken => apart ?_
      simp [built.ops_eq, stepIds_coreAndSteps, known, taken]
    rw [kept, atAxes, Option.bind_some]
  · obtain rfl : x = a := by
      have atData := feeds.atData
      rw [same, atAxes] at atData
      exact (Option.some.inj atData).symm
    have empty := elements_of_zero fits shape zero
    have held : I.integers? x = some [] := I.integers?_of_integers empty
    rcases s.reduction.opened_eq_or I env x first t.id with kept | taken
    · rw [kept, atAxes, Option.bind_some]
    · have also : I.integers? (s.reduction.before I x) = some [] :=
        I.integers?_of_integers (Reduction.elements_before_of_empty I empty)
      rw [taken, Option.bind_some, meaning?_operand also, meaning?_operand held]

/-- Where nothing is in the way, the operators compute what the node means, and nothing where
    it means nothing. -/
theorem Built.result?_eq (built : s.Built operand? d ops axesId? first middle last source?)
    (feeds : s.Feeds I env x) (clear : s.Unshadowed) :
    Op.result? I env s.ops s.out.id = s.meaning? I env x := by
  have parts := built.parts
  have axes := built.axes_eq
  unfold meaning?
  generalize reads : s.reading = reading at parts axes
  cases parts with
  | untouched =>
    have nothing : Op.run I env [] = some env := rfl
    rw [built.result?_eq_bind nothing, Reduction.result?_of_no_axes _ _ _ _ feeds.atData]
    rfl
  | fixed holds =>
    rw [built.result?_of_constant holds rfl axes feeds clear, axes]
    rfl
  | ranked known holds =>
    rw [built.result?_of_constant holds rfl axes feeds clear, axes, ← feeds.rank_eq _ known]
    exact meaning?_all
  | synthesized ordered lower width =>
    rw [built.result?_of_all lower width axes feeds clear, axes]
    rfl
  | given there known =>
    rw [axes, Reading.source?, there]
    exact built.result?_of_given (axes.trans there) feeds clear

end LoweredNode

end ReductionIR
