import ReductionIR.Proofs.ModelRuns
import ReductionIR.Proofs.Solving
/-
One node of a source model and the operators that it is lowered to. Where ids do not clash
and the operands have the values that the graph gives them, the operators can run, and the
tensor that is handed out has the value of the node.
-/
namespace ReductionIR

open Stepwise Draft

/-! Nothing is in the way of a node -/

namespace LoweredNode

variable {s : LoweredNode} {node : SourceNode} {operands : List (Option Tensor)} {g : Graph}
  {d : Draft} {operand? : Option Tensor} {ops : List Op} {axesId? : Option String}
  {first middle last : Nat} {source? : Option String}

theorem free_of_holds (drafted : s.Drafted node operands g d) (unclashed : d.Unclashed g)
    {stem : String} {n : Nat} {data : Dense} (holds : d.Holds stem n data) :
    g.tensors.find? (Graph.numbered stem n) = none := by
  obtain ⟨t, member, named, _⟩ := holds
  have free := drafted.sound.free_of_unclashed unclashed member
  rw [named] at free
  exact ((Graph.isTaken_eq_false_iff g _).mp free).1

theorem free_of_written (drafted : s.Drafted node operands g d) (unclashed : d.Unclashed g)
    {op : Op} (member : op ∈ s.ops) {id : String} (written : id ∈ op.outputs) :
    g.tensors.find? id = none := by
  rw [drafted.ops_eq] at member
  obtain ⟨n, _, _, new⟩ := drafted.sound.newOps op member
  rw [new.outputs_eq, List.mem_singleton] at written
  rw [written]
  exact ((Graph.isTaken_eq_false_iff g _).mp (unclashed op member)).1

/-- The axes come through ids that were free, up to the operand itself. -/
theorem Built.free_of_axesId
    (built : s.Built operand? d ops axesId? first middle last source?)
    (drafted : s.Drafted node operands g d) (unclashed : d.Unclashed g) (unread : s.axes? = none) :
    ∀ id ∈ s.ops.flatMap Op.axesIds, g.tensors.find? id = none := by
  have parts := built.parts
  have axes := built.axes_eq
  have ops_eq := built.ops_eq
  intro id member
  rw [ops_eq, List.flatMap_append, axesIds_coreAndSteps] at member
  generalize reads : s.reading = reading at parts axes
  cases parts with
  | untouched => simp at member
  | fixed holds =>
    obtain rfl : id = _ := by simpa using member
    exact free_of_holds drafted unclashed holds
  | ranked known holds =>
    obtain rfl : id = _ := by simpa using member
    exact free_of_holds drafted unclashed holds
  | given there known =>
    rw [unread, Reading.source?, there] at axes
    contradiction
  | @synthesized lengths rank stop start step end_ ordered lower width =>
    -- the ids on the way to all axes are results and constants of the draft
    have written : ∀ op ∈ Axes.allOps s.data.id lengths rank stop start step end_ source?,
        ∀ out ∈ op.outputs, g.tensors.find? out = none := by
      intro op computed out written
      exact free_of_written drafted unclashed (by
        rw [ops_eq]
        exact List.mem_append_left _ computed) written
    simp only [Axes.allOps, opOf, List.mem_cons, List.not_mem_nil, or_false, forall_eq_or_imp,
      forall_eq] at written
    obtain ⟨atLengths, atRank, atStop, atLast⟩ := written
    simp only [axesIds_allOps, Option.toList_some, List.mem_append, List.mem_cons,
      List.not_mem_nil, or_false] at member
    have atStart := free_of_holds drafted unclashed lower
    have atStep := free_of_holds drafted unclashed width
    rcases member with (rfl | rfl | rfl | rfl | rfl | rfl | rfl) | rfl
    · exact atLengths
    · exact atRank
    · exact atStop
    · exact atStart
    · exact atStop
    · exact atStep
    · exact atLast
    · exact atLast

/-- Results get new ids, so no operand is in the way. -/
theorem Built.unshadowed_of_unclashed
    (built : s.Built operand? d ops axesId? first middle last source?)
    (drafted : s.Drafted node operands g d) (unclashed : d.Unclashed g)
    (ofData : g.tensors.find? s.data.id = some s.data)
    (ofAxes : ∀ t, s.axes? = some t → g.tensors.find? t.id = some t) : s.Unshadowed := by
  unfold Unshadowed
  cases read : s.axes? with
  | none =>
    intro member
    rw [built.free_of_axesId drafted unclashed read _ member] at ofData
    contradiction
  | some t =>
    refine Or.inl fun member => ?_
    obtain ⟨op, listed, step⟩ := List.mem_flatMap.mp member
    have written : t.id ∈ op.outputs := by
      unfold Op.stepIds at step
      split at step
      · exact step
      · exact step
      · contradiction
    have there := ofAxes t read
    rw [free_of_written drafted unclashed listed written] at there
    contradiction

/-- Axes are read at run time from operands of fully known shapes only. -/
theorem Built.known_of_read
    (built : s.Built operand? d ops axesId? first middle last source?) {t : Tensor}
    (read : s.axes? = some t) : t.shape.isFullyKnown = true := by
  have parts := built.parts
  have axes := built.axes_eq
  generalize reads : s.reading = reading at parts axes
  cases parts with
  | given there known =>
    rw [read, Reading.source?, there, Option.some.injEq] at axes
    exact axes ▸ known
  | _ =>
    rw [read] at axes
    contradiction

end LoweredNode

theorem Shape.eq_static_of_describes {s : Shape} {lengths : List Nat}
    (describes : s.Describes lengths) (known : s.isFullyKnown = true) :
    s = .static (lengths.map Int.ofNat) := by
  cases s with
  | unknownRank => contradiction
  | ranked dims =>
    have each := describes dims rfl
    have every : dims.all Dim.isKnown = true := known
    rw [Shape.static, Shape.ranked.injEq]
    clear describes known
    induction each with
    | nil => rfl
    | @cons d n rest others here _ ih =>
      rw [List.all_cons, Bool.and_eq_true] at every
      cases d with
      | known k => rw [here k rfl, ih every.2, List.map_cons, List.map_cons]; rfl
      | named symbol => exact absurd every.1 (by simp [Dim.isKnown, Dim.value?])
      | anonymous => exact absurd every.1 (by simp [Dim.isKnown, Dim.value?])

/-! The values that a node finds -/

namespace LoweredNode

variable {α : Type} {I : Interpretation α} {fed env : Env α} {s : LoweredNode}
  {node : SourceNode} {operands : List (Option Tensor)} {g : Graph} {d : Draft}
  {operand? : Option Tensor} {ops : List Op} {axesId? : Option String}
  {first middle last : Nat} {source? : Option String} {x : Concrete α}

/-- The operands of a node have described values in an environment. -/
structure Supplied (s : LoweredNode) (I : Interpretation α) (g : Graph) (env : Env α)
    (x : Concrete α) : Prop where
  ofData : g.tensors.find? s.data.id = some s.data
  atData : env s.data.id = some x
  describes : s.data.Describes I x
  filled : x.Filled
  atAxes : ∀ t, s.axes? = some t → g.tensors.find? t.id = some t ∧
    ∃ a, env t.id = some a ∧ t.Describes I a ∧ a.Filled

/-- With the new constants, a node finds tensors that it may find. -/
theorem Built.feeds (built : s.Built operand? d ops axesId? first middle last source?)
    (drafted : s.Drafted node operands g d) (wired : g.Wired) (owns : g.Owns operands)
    (unclashed : d.Unclashed g) (solves : g.Solves I fed env) (supplied : s.Supplied I g env x) :
    s.Feeds I (s.graph.stocked I env) x := by
  have kept : ∀ {id t}, g.tensors.find? id = some t → s.graph.stocked I env id = env id := by
    intro id t found
    rw [drafted.graph_eq]
    exact drafted.sound.stocked_of_found wired owns unclashed solves found
  exact {
    atData := (kept supplied.ofData).trans supplied.atData
    rank_eq := fun rank known => Reduction.rank_eq_of_describes supplied.describes known
    atAxes := by
      intro t read
      obtain ⟨there, a, value, describes, filled⟩ := supplied.atAxes t read
      refine ⟨a, (kept there).trans value, ?_, filled, describes.data⟩
      exact Shape.eq_static_of_describes describes.shape (built.known_of_read read)
    constants := by
      intro id _ _ c stored
      rw [Graph.stocked, stored]
      rfl }

/-- The new operators can run, and leave the value of the node. -/
theorem Built.run (built : s.Built operand? d ops axesId? first middle last source?)
    (drafted : s.Drafted node operands g d) (wired : g.Wired) (owns : g.Owns operands)
    (unclashed : d.Unclashed g) (solves : g.Solves I fed env) (supplied : s.Supplied I g env x)
    {y : Concrete α} (means : s.meaning? I env x = some y) :
    ∃ env', s.graph.Solves I fed env' ∧ env' s.out.id = some y ∧
      ∀ id t, g.tensors.find? id = some t → env' id = env id := by
  have feeds := built.feeds drafted wired owns unclashed solves supplied
  have clear := built.unshadowed_of_unclashed drafted unclashed supplied.ofData
    fun t read => (supplied.atAxes t read).1
  have same : s.meaning? I (s.graph.stocked I env) x = s.meaning? I env x := by
    unfold meaning?
    cases read : s.axes? with
    | none => rfl
    | some t =>
      obtain ⟨there, _⟩ := supplied.atAxes t read
      rw [Option.bind_some, Option.bind_some, drafted.graph_eq,
        drafted.sound.stocked_of_found wired owns unclashed solves there]
  have result := built.result?_eq feeds clear
  rw [same, means, Op.result?] at result
  obtain ⟨env', done, atOut⟩ := Option.bind_eq_some_iff.mp result
  rw [drafted.ops_eq, drafted.graph_eq] at done
  obtain ⟨solved, kept⟩ := drafted.sound.solves_attach wired owns unclashed solves done
  exact ⟨env', drafted.graph_eq ▸ solved, atOut, kept⟩

end LoweredNode

/-! Source nodes and what they are lowered as -/

theorem toOption_eq_some_iff {ε β : Type} {result : Except ε β} {b : β} :
    result.toOption = some b ↔ result = .ok b := by
  cases result <;> simp [Except.toOption]

/-- Whether an operand is empty matters only from some opset on. -/
theorem Reduction.reading_congr {r : Reduction} {opset : Int} {attributes : AttributeStore}
    {first second : Option Bool} (same : ¬ opset < r.operandSince → first = second) :
    r.reading opset attributes first = r.reading opset attributes second := by
  unfold reading
  split
  · rfl
  · rename_i late
    rw [same late]

namespace Model

variable {α : Type} {I : Interpretation α} {m : Graph} {opset : Int} {values : Env α}
  {node : Node} {y : Concrete α}

theorem Graph.value?_eq_some (means : m.value? I true opset values node = some y) :
    ∃ (r : Reduction) (attributes : AttributeStore) (keep : Int) (x : Concrete α)
        (axes? : Option (Concrete α)) (reading : Reading), node.opType = r.operator ∧
      storeOf node.attributes = .ok attributes ∧ attributes.int "keepdims" 1 = .ok keep ∧
      (∃ name, node.operandName? 0 = some name ∧ values name = some x) ∧
      ((node.operandName? 1).elim (some none) fun name => (values name).map some) = some axes? ∧
      r.reading opset attributes (axes?.map Concrete.isEmptyOperand) = .ok reading ∧
      m.hasDistinctAxes I node (keep != 0) reading x.rank axes? = true ∧
      r.meaning? I (keep != 0) reading x axes? = some y := by
  unfold value? Node.request? at means
  simp only [bind, Option.bind_eq_some_iff, pure, Option.some.injEq, Bool.true_and] at means
  obtain ⟨_, ⟨r, known, attributes, stored, keep, found, rfl⟩, x, atData, axes?, atAxes, reading,
    reads, means⟩ := means
  rw [toOption_eq_some_iff] at stored found reads
  split at means
  · contradiction
  · rename_i distinct
    refine ⟨r, attributes, keep, x, axes?, reading, ?_, stored, found, atData, atAxes, reads,
      by simpa using distinct, means⟩
    have same := List.find?_some known
    exact (eq_of_beq same).symm

end Model

namespace Conversion

variable {c : Conversion} {node : Model.Node}

theorem operandsOf_join (node : Model.Node) (c : Conversion) (index : Nat) :
    (c.operandsOf node)[index]?.join = (node.operandName? index).bind c.values.find? := by
  unfold operandsOf Model.Node.operandName?
  rw [List.getElem?_map]
  cases node.inputs[index]? with
  | none => rfl
  | some name =>
    by_cases empty : name = "" <;> simp [empty, Option.filter]

theorem found_of_clear (clear : c.obstacle? node = none) {index : Nat} {name : String}
    (used : node.operandName? index = some name) : ∃ t, c.values.find? name = some t := by
  obtain ⟨listed, given⟩ := Option.filter_eq_some_iff.mp used
  unfold obstacle? at clear
  dsimp only at clear
  split at clear
  · contradiction
  · rename_i lowered
    have none_left : c.unlowered node = [] := by simpa using lowered
    have present := List.filter_eq_nil_iff.mp none_left name (List.mem_of_getElem? listed)
    rw [decide_eq_true_iff] at given
    exact Option.ne_none_iff_exists'.mp (by simpa [given, Table.contains] using present)

end Conversion

theorem Concrete.isEmptyOperand_eq {α : Type} {I : Interpretation α} {t : Tensor}
    {a : Concrete α} (describes : t.Describes I a) (known : t.shape.isFullyKnown = true) :
    Axes.isEmptyOperand t.shape = a.isEmptyOperand := by
  rw [Shape.eq_static_of_describes describes.shape known]
  unfold Axes.isEmptyOperand isEmptyOperand
  cases a.dims with
  | nil => rfl
  | cons n rest =>
    cases rest with
    | nil => simp [Shape.static, Shape.scalar]
    | cons k rest => simp [Shape.static, Shape.scalar]

namespace Conversion

variable {α : Type} {I : Interpretation α} {m : Model.Graph} {values env : Env α}
  {c : Conversion} {node : Model.Node} {opset : Int} {source : SourceNode}
  {outputs : List Tensor} {g' : Graph} {y : Concrete α}

/-- Every name stands for a tensor that describes its value; those of initializers are stored. -/
structure Tracks (I : Interpretation α) (m : Model.Graph) (values env : Env α)
    (c : Conversion) : Prop where
  described : ∀ name t, c.values.find? name = some t → ∃ x, values name = some x ∧
    env t.id = some x ∧ t.Describes I x ∧ x.Filled
  settled : ∀ name t, m.isStored name = true → c.values.find? name = some t → t.data ≠ none

theorem Tracks.operand (tracks : Tracks I m values env c) (clear : c.obstacle? node = none)
    (index : Nat) :
    node.operandName? index = none ∧ (c.operandsOf node)[index]?.join = none ∨
      ∃ name t x, node.operandName? index = some name ∧ c.values.find? name = some t ∧
        (c.operandsOf node)[index]?.join = some t ∧ values name = some x ∧ env t.id = some x ∧
        t.Describes I x ∧ x.Filled := by
  rw [operandsOf_join]
  cases used : node.operandName? index with
  | none => exact Or.inl ⟨rfl, rfl⟩
  | some name =>
    obtain ⟨t, found⟩ := found_of_clear clear used
    obtain ⟨x, value, there, describes, filled⟩ := tracks.described name t found
    exact Or.inr ⟨name, t, x, rfl, found, found, value, there, describes, filled⟩

theorem Tracks.describes (tracks : Tracks I m values env c) (clear : c.obstacle? node = none)
    {index : Nat} {name : String} {t : Tensor} {x : Concrete α}
    (found : (c.operandsOf node)[index]?.join = some t) (used : node.operandName? index = some name)
    (value : values name = some x) : env t.id = some x ∧ t.Describes I x ∧ x.Filled := by
  rcases tracks.operand clear index with ⟨absent, _⟩ | ⟨name', t', x', used', _, operand, value',
    there, describes, filled⟩
  · rw [absent] at used
    contradiction
  · obtain rfl : t = t' := Option.some.inj (found.symm.trans operand)
    obtain rfl : name = name' := Option.some.inj (used.symm.trans used')
    obtain rfl : x = x' := Option.some.inj (value.symm.trans value')
    exact ⟨there, describes, filled⟩

theorem Tracks.optional (tracks : Tracks I m values env c) (clear : c.obstacle? node = none)
    {index : Nat} {a? : Option (Concrete α)}
    (value : (node.operandName? index).elim (some none) (fun name => (values name).map some) =
      some a?) :
    (c.operandsOf node)[index]?.join = none ∧ a? = none ∨ ∃ name t a,
      node.operandName? index = some name ∧ c.values.find? name = some t ∧
      (c.operandsOf node)[index]?.join = some t ∧ a? = some a ∧ env t.id = some a ∧
      t.Describes I a ∧ a.Filled := by
  rcases tracks.operand clear index with ⟨absent, operand⟩ | ⟨name, t, a, used, bound, operand,
    held, there, describes, filled⟩
  · rw [absent] at value
    exact Or.inl ⟨operand, (Option.some.inj value).symm⟩
  · rw [used, Option.elim_some, held] at value
    exact Or.inr ⟨name, t, a, used, bound, operand, (Option.some.inj value).symm, there,
      describes, filled⟩

/-- Axes that are fed are as the checks of the node took them to be. -/
theorem Tracks.axesFit (tracks : Tracks I m values env c) (clear : c.obstacle? node = none)
    {axes? : Option (Concrete α)}
    (atAxes : (node.operandName? 1).elim (some none) (fun name => (values name).map some) =
      some axes?) {keepDims : Bool} {rank : Nat}
    (distinct : m.hasDistinctAxes I node keepDims .operand rank axes? = true) :
    Reduction.AxesFit I keepDims rank (c.operandsOf node)[1]?.join axes? := by
  intro t operand
  rcases tracks.optional clear atAxes with ⟨absent, _⟩ | ⟨name, u, a, used, bound, operand', rfl, _,
    ofAxes, filled⟩
  · exact absurd (operand.symm.trans absent) (by simp)
  · obtain rfl : t = u := Option.some.inj (operand.symm.trans operand')
    refine ⟨a, rfl, ofAxes, filled, ?_⟩
    intro unstored drops axes held
    have fresh : m.isStored name = false := by
      by_contra is_stored
      exact tracks.settled name t (by simpa using is_stored) bound unstored
    simpa [Model.Graph.hasDistinctAxes, drops, used, fresh, held] using distinct

/-- The value of a node reads its axes as the lowering does. -/
theorem Tracks.reading_eq (tracks : Tracks I m values env c) (clear : c.obstacle? node = none)
    {s : LoweredNode} {d : Draft}
    (describes : s.Describes source (c.operandsOf node) c.graph outputs g')
    (drafted : s.Drafted source (c.operandsOf node) c.graph d) {axes? : Option (Concrete α)}
    (atAxes : (node.operandName? 1).elim (some none) (fun name => (values name).map some) =
      some axes?) :
    s.reduction.reading source.opset source.attributes (axes?.map Concrete.isEmptyOperand) =
      .ok s.reading := by
  rw [← describes.reading_eq]
  refine Reduction.reading_congr fun late => ?_
  rcases tracks.optional clear atAxes with ⟨operand, rfl⟩ | ⟨_, t, a, _, _, operand, rfl, _, ofAxes,
    _⟩
  · rw [operand]
    rfl
  · have known := Reduction.known_of_lower drafted.lowered late operand
    rw [operand, Option.map_some, Option.map_some, Concrete.isEmptyOperand_eq ofAxes known]

theorem found_of_operand {g : Graph} {operands : List (Option Tensor)} (owns : g.Owns operands)
    {index : Nat} {t : Tensor} (operand : operands[index]?.join = some t) :
    g.tensors.find? t.id = some t :=
  owns t (List.mem_of_getElem? (Option.join_eq_some_iff.mp operand))

theorem operand_of_axes {s : LoweredNode} {operands : List (Option Tensor)} {g : Graph}
    (describes : s.Describes source operands g outputs g') {t : Tensor}
    (given : s.axes? = some t) : operands[1]?.join = some t := by
  rw [describes.axes_eq] at given
  cases reads : s.reading <;> rw [reads] at given
  case operand => exact given
  all_goals contradiction

/-- A node that is lowered reads as its value does, and hands out a tensor that describes it. -/
theorem Tracks.supplied (tracks : Tracks I m values env c) (lawful : I.Lawful)
    (owns : c.graph.Owns (c.operandsOf node)) (clear : c.obstacle? node = none)
    {position : Option Int} (read : SourceNode.ofModel node opset position = .ok source)
    {s : LoweredNode} {d : Draft}
    (describes : s.Describes source (c.operandsOf node) c.graph outputs g')
    (drafted : s.Drafted source (c.operandsOf node) c.graph d)
    (means : m.value? I true opset values node = some y) :
    ∃ x, s.Supplied I c.graph env x ∧ s.meaning? I env x = some y ∧ s.out.Describes I y ∧
      y.Filled := by
  obtain ⟨r, attributes, keep, x, axes?, reading, operator, stored, found, ⟨name, used, value⟩,
    atAxes, reads, distinct, means⟩ := Model.Graph.value?_eq_some means
  obtain ⟨opType, rfl, kept⟩ := SourceNode.ofModel_eq_ok read
  obtain rfl : r = s.reduction :=
    Reduction.operator_injective (operator.symm.trans (opType.symm.trans describes.operator_eq))
  obtain rfl : attributes = source.attributes := Except.ok.inj (stored.symm.trans kept)
  obtain ⟨keep', found', keepDims⟩ := describes.keepDims_eq
  obtain rfl : keep = keep' := Except.ok.inj (found.symm.trans found')
  -- the value of the node names the axes that the lowering read
  have same := tracks.reading_eq clear describes drafted atAxes
  obtain rfl : reading = s.reading := Except.ok.inj (reads.symm.trans same)
  rw [← keepDims] at means distinct
  obtain ⟨atData, ofData, filled⟩ := tracks.describes clear describes.data_eq used value
  have second := tracks.optional clear atAxes
  refine ⟨x, ⟨found_of_operand owns describes.data_eq, atData, ofData, filled, ?_⟩, ?_, ?_⟩
  · intro t given
    have operand := operand_of_axes describes given
    rcases second with ⟨absent, _⟩ | ⟨_, u, a, _, _, operand', _, there, ofAxes, filled⟩
    · rw [operand] at absent
      contradiction
    · obtain rfl : t = u := Option.some.inj (operand.symm.trans operand')
      exact ⟨found_of_operand owns operand, a, there, ofAxes, filled⟩
  · rw [← means]
    unfold LoweredNode.meaning? Reduction.meaning?
    cases reads : s.reading
    case operand =>
      have given : s.axes? = (c.operandsOf node)[1]?.join := by
        rw [describes.axes_eq, reads]
        rfl
      rcases second with ⟨absent, rfl⟩ | ⟨_, t, a, _, _, operand, rfl, there, _, _⟩
      · rw [given, absent]
        rfl
      · rw [given, operand, Option.bind_some, there]
    all_goals rfl
  · refine s.reduction.lower_describes lawful drafted.lowered describes.data_eq found
      describes.reading_eq ofData filled ?_ (keepDims ▸ means)
    intro run
    rw [run] at distinct
    exact keepDims ▸ tracks.axesFit clear atAxes distinct

end Conversion

end ReductionIR
