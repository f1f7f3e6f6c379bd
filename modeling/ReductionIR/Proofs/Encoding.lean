import ReductionIR.Proofs.Stepping
/-
Operators as nodes of a written model. The operators of a lowering have attributes of a
fixed form, so each can be written, and the written node has the value of the operator.
-/
namespace ReductionIR

open Stepwise

/-- An operator whose attributes are those that a lowering gives it. -/
def Op.Writable (op : Op) : Prop :=
  match OpKind.ofName? op.opType with
  | some .squeeze => op.attributes = [("axes", .ofInts [0])] ∧ ∃ x, op.inputs = [x]
  | some .range => op.attributes = [("output_type", .dtype .int64)]
  | some (.reduce _) => ∃ keep, op.attributes = [("keep_dims", .bool keep)]
  | some _ => True
  | none => False

section Lowered

variable {source? : Option String} {op : Op}

theorem Draft.writable_opOf_iff (kind : OpKind) (n : Nat) (inputs : List String)
    (attributes : Fields) :
    (opOf kind.opType n inputs attributes source?).Writable ↔ match kind with
      | .squeeze => attributes = [("axes", .ofInts [0])] ∧ ∃ x, inputs = [x]
      | .range => attributes = [("output_type", .dtype .int64)]
      | .reduce _ => ∃ keep, attributes = [("keep_dims", .bool keep)]
      | _ => True := by
  unfold Op.Writable
  simp only [opOf, OpKind.ofName?_opType]
  cases kind <;> rfl

open Draft

theorem Axes.writable_allOps {data : String} {lengths rank stop start step last : Nat}
    (member : op ∈ allOps data lengths rank stop start step last source?) : op.Writable := by
  simp only [allOps, List.mem_cons, List.not_mem_nil, or_false] at member
  rcases member with rfl | rfl | rfl | rfl
  · exact (writable_opOf_iff .shapeOf _ _ _).mpr trivial
  · exact (writable_opOf_iff .shapeOf _ _ _).mpr trivial
  · exact (writable_opOf_iff .squeeze _ _ _).mpr ⟨rfl, _, rfl⟩
  · exact (writable_opOf_iff .range _ _ _).mpr rfl

namespace Reduction

variable {r : Reduction} {id : String} {n : Nat}

theorem writable_openerOps (member : op ∈ r.openerOps id n source?) : op.Writable := by
  cases r <;> simp only [openerOps, opener?, List.not_mem_nil, List.mem_singleton] at member
  · rw [member]
    exact (writable_opOf_iff .exp _ _ _).mpr trivial
  · rw [member]
    exact (writable_opOf_iff .multiply _ _ _).mpr trivial

theorem writable_coreOps {keepDims : Bool} {axesId? : Option String}
    (member : op ∈ r.coreOps keepDims id axesId? n source?) : op.Writable := by
  unfold coreOps at member
  split at member
  · contradiction
  · rw [List.mem_singleton.mp member]
    exact (writable_opOf_iff (.reduce r.kernel) _ _ _).mpr ⟨_, rfl⟩

theorem writable_closerOps (member : op ∈ r.closerOps id n source?) : op.Writable := by
  cases r <;> simp only [closerOps, List.not_mem_nil, List.mem_singleton] at member
  · rw [member]
    exact (writable_opOf_iff .log _ _ _).mpr trivial
  · rw [member]
    exact (writable_opOf_iff .log _ _ _).mpr trivial

end Reduction

theorem LoweredNode.Built.writable {s : LoweredNode} {operand? : Option Tensor} {d : Draft}
    {ops : List Op} {axesId? : Option String} {first middle last : Nat}
    (built : s.Built operand? d ops axesId? first middle last source?) :
    ∀ op ∈ s.ops, op.Writable := by
  have ofAxes : ∀ op ∈ ops, op.Writable := by
    have parts := built.parts
    generalize s.reading = reading at parts
    cases parts with
    | synthesized ordered lower width => exact fun op => Axes.writable_allOps
    | _ => simp
  rw [built.ops_eq]
  intro op member
  simp only [Reduction.coreAndSteps, List.mem_append] at member
  rcases member with early | opener | core | closer
  · exact ofAxes op early
  · exact Reduction.writable_openerOps opener
  · exact Reduction.writable_coreOps core
  · exact Reduction.writable_closerOps closer

end Lowered

/-! Written nodes -/

/-- Some operators have no attributes that count. -/
theorem Interpretation.applyStandard_eq {α : Type} (I : Interpretation α) {kind : OpKind}
    (plain : kind ∈ [OpKind.exp, .log, .multiply, .shapeOf, .range]) (attributes : Fields)
    (operands : List (Concrete α)) :
    I.applyStandard kind ∅ operands = I.apply kind attributes operands := by
  simp only [List.mem_cons, List.not_mem_nil, or_false] at plain
  rcases plain with rfl | rfl | rfl | rfl | rfl <;>
    rcases operands with _ | ⟨x, _ | ⟨y, _ | ⟨z, _ | ⟨w, rest⟩⟩⟩⟩ <;> rfl

namespace Export

/-- A node that goes by the id of an operator and has its operator, inputs and outputs, with
    more inputs behind. -/
structure Transcribes (op : Op) (more : List String) (node : Model.Node) : Prop where
  name_eq : node.name = op.id
  opType_eq : (OpKind.ofName? op.opType).map OpKind.standardName = some node.opType
  inputs_eq : node.inputs = op.inputs ++ more
  outputs_eq : node.outputs = op.outputs

/-- The axes of every Squeeze that a lowering makes. -/
def firstAxis : Dense := ⟨.int64, [1], [.int 0]⟩

theorem ofInts_firstAxis : Dense.ofInts [0] = .ok firstAxis := rfl

/-- A node that is written for an operator: its initializers are named after the operator, and
    where these and the inputs have their values, so does the node. -/
structure Encodes (codec : Codec) (op : Op) (p : Pieces) : Prop where
  node : ∃ node, p.nodes = [node] ∧
    Transcribes op (p.initializers.map Model.Initializer.name) node ∧
    ∀ (α : Type) (I : Interpretation α) (env env' : Env α), (∀ id ∈ op.inputs, env' id = env id) →
      (∀ init ∈ p.initializers, env' init.name = some (I.stored firstAxis)) →
      node.written? I env' = op.value? I env
  named : ∀ init ∈ p.initializers, init.name = op.id ++ "_axes" ∧ op.opType = "Squeeze"
  single : p.initializers.length ≤ 1
  fixed : ∀ init ∈ p.initializers, codec.array init = .ok firstAxis

variable {codec : Codec} {op : Op}

/-- An array that comes back can be written. -/
theorem initializer_eq_ok {data : Dense} (restores : codec.Restores data) (name : String) :
    initializer codec name data = .ok (codec.written name data) := by
  rw [initializer, restores.initializer_eq]
  rfl

/-- An operator that is written under the name that the standard operator set has for it. -/
theorem encodes_plainNode {kind : OpKind} (known : OpKind.ofName? op.opType = some kind)
    (plain : kind ∈ [OpKind.exp, .log, .multiply, .shapeOf, .range]) :
    Encodes codec op (plainNode kind.standardName op) where
  node := by
    refine ⟨_, rfl, ⟨rfl, by rw [known]; rfl, (List.append_nil _).symm, rfl⟩, ?_⟩
    intro α I env env' same _
    have standard : OpKind.ofStandardName? kind.standardName = some kind := by
      cases kind with
      | reduce kind => cases kind <;> rfl
      | _ => rfl
    unfold Model.Node.written? Op.value?
    rw [standard, known, mapM_congr same]
    simp only [bind, Option.bind_some]
    have attributes : (Model.storeOf []).toOption = some ∅ := rfl
    rw [attributes, Option.bind_some]
    congr 1
    funext operands
    exact I.applyStandard_eq plain op.attributes operands
  named := fun _ member => nomatch member
  single := Nat.zero_le 1
  fixed := fun _ member => nomatch member

/-- The node that a reduction is written as. An empty list of axes leaves its data as it is. -/
def reducing (kind : ReduceKind) (keep : Bool) (op : Op) : Model.Node :=
  { opType := kind.opType, name := op.id, inputs := op.inputs, outputs := op.outputs
    attributes := [{ name := "keepdims", data := .int (if keep then 1 else 0) },
      { name := "noop_with_empty_axes", data := .int 1 }] }

theorem reductionNode_eq_ok {kind : ReduceKind} {keep : Bool}
    (attributes : op.attributes = [("keep_dims", .bool keep)]) :
    reductionNode kind op = .ok { nodes := [reducing kind keep op] } := by
  unfold reductionNode
  rw [attributes]
  cases keep <;> rfl

theorem storeOf_reducing (kind : ReduceKind) (keep : Bool) (op : Op) :
    ∃ store, Model.storeOf (reducing kind keep op).attributes = .ok store ∧
      store.int "keepdims" 1 = .ok (if keep then 1 else 0) ∧
      store.int "noop_with_empty_axes" 0 = .ok 1 := ⟨_, rfl, rfl, rfl⟩

/-- A reduction reduces over the empty set when its axes are empty. -/
theorem encodes_reductionNode {kind : ReduceKind} {keep : Bool}
    (known : OpKind.ofName? op.opType = some (.reduce kind))
    (attributes : op.attributes = [("keep_dims", .bool keep)]) :
    ∃ p, reductionNode kind op = .ok p ∧ Encodes codec op p := by
  have transcribes : Transcribes op [] (reducing kind keep op) :=
    ⟨rfl, by rw [known]; rfl, (List.append_nil _).symm, rfl⟩
  refine ⟨_, reductionNode_eq_ok attributes, ⟨_, rfl, transcribes, ?_⟩, ?_, Nat.zero_le 1, ?_⟩
  · intro α I env env' same _
    have standard : OpKind.ofStandardName? (reducing kind keep op).opType = some (.reduce kind) := by
      cases kind <;> rfl
    obtain ⟨store, stored, keeps, noop⟩ := storeOf_reducing kind keep op
    have flag : ((Fields.find? [("keep_dims", Value.bool keep)] "keep_dims").getD
        (.bool true)).holds = keep := rfl
    have one : ((if keep then (1 : Int) else 0) != 0) = keep := by cases keep <;> rfl
    have reads : (reducing kind keep op).inputs.mapM env' = op.inputs.mapM env := mapM_congr same
    unfold Model.Node.written? Op.value?
    rw [standard, known, stored, attributes, reads]
    simp only [bind, Option.bind_some, Except.toOption]
    congr 1
    funext operands
    rcases operands with _ | ⟨x, _ | ⟨axes, _ | ⟨_, _⟩⟩⟩
    · rfl
    · rfl
    · simp only [Interpretation.applyStandard, Interpretation.apply, Interpretation.reduceOver,
        keeps, noop, flag, one, bind, Except.toOption, Option.bind_some]
      cases I.integers? axes with
      | none => rfl
      | some values =>
        simp [Model.writtenAxes?]
    · rfl
  · exact fun _ member => absurd member List.not_mem_nil
  · exact fun _ member => absurd member List.not_mem_nil

/-- The fixed axis of a written Squeeze is in an initializer. -/
theorem encodes_squeezeNode (laws : codec.Lawful)
    (known : OpKind.ofName? op.opType = some .squeeze)
    (attributes : op.attributes = [("axes", .ofInts [0])]) {x : String} (reads : op.inputs = [x]) :
    ∃ p, squeezeNode codec op = .ok p ∧ Encodes codec op p := by
  have restores := laws.restores_integers (Dense.holdsIntegers_of_ofInts ofInts_firstAxis)
  have named := restores.name_written (op.id ++ "_axes")
  let axes := codec.written (op.id ++ "_axes") firstAxis
  let node : Model.Node := {
    opType := "Squeeze", name := op.id, inputs := [x, op.id ++ "_axes"], outputs := op.outputs }
  have transcribes : Transcribes op [axes.name] node :=
    ⟨rfl, by rw [known]; rfl, by rw [reads, named]; rfl, rfl⟩
  refine ⟨{ initializers := [axes], nodes := [node] }, ?_, ⟨node, rfl, transcribes, ?_⟩, ?_,
    Nat.le_refl 1, ?_⟩
  · have encoded : Dense.ofValue (((Fields.find? [("axes", Value.ofInts [0])] "axes").getD
        (.list []))) (some .int64) = .ok firstAxis := rfl
    unfold squeezeNode
    rw [attributes, reads, encoded]
    simp only [Fault.lift, Except.mapError, bind, Except.bind, initializer_eq_ok restores]
    rfl
  · intro α I env env' same stored
    have atAxes : env' (op.id ++ "_axes") = some ⟨[1], [I.integer 0]⟩ :=
      named ▸ stored axes (List.mem_singleton_self _)
    have atData : env' x = env x := same x (by simp [reads])
    have held : I.integers? ⟨[1], [I.integer 0]⟩ = some [0] := I.integers?_of_integers rfl
    have standard : OpKind.ofStandardName? "Squeeze" = some .squeeze := rfl
    have empty : (Model.storeOf []).toOption = some ∅ := rfl
    have fixed : Fields.find? [("axes", Value.ofInts [0])] "axes" = some (.list [.int 0]) := rfl
    have items : [Value.int 0].mapM Attribute.intItem? = some [0] := rfl
    unfold Model.Node.written? Op.value?
    rw [standard, known, reads, attributes]
    simp only [bind, Option.bind_some, node, empty, List.mapM_cons, List.mapM_nil, atAxes, atData,
      pure]
    cases env x with
    | none => rfl
    | some data =>
      simp only [Option.bind_some, Interpretation.applyStandard, Interpretation.apply, held, fixed,
        items]
  · intro init member
    rw [List.mem_singleton.mp member]
    refine ⟨named, ?_⟩
    have same := List.find?_some known
    exact (eq_of_beq same).symm
  · intro init member
    rw [List.mem_singleton.mp member]
    exact restores.array_written _

/-- Every operator that can be written is written as a node that encodes it. -/
theorem pieces_encodes (laws : codec.Lawful) (writable : op.Writable) :
    ∃ p, pieces codec op = .ok p ∧ Encodes codec op p := by
  unfold Op.Writable at writable
  unfold pieces
  cases known : OpKind.ofName? op.opType with
  | none => simp [known] at writable
  | some kind =>
    simp only [known] at writable ⊢
    cases kind with
    | shapeOf => exact ⟨_, rfl, encodes_plainNode known (by simp)⟩
    | exp => exact ⟨_, rfl, encodes_plainNode known (by simp)⟩
    | log => exact ⟨_, rfl, encodes_plainNode known (by simp)⟩
    | multiply => exact ⟨_, rfl, encodes_plainNode known (by simp)⟩
    | squeeze =>
      obtain ⟨attributes, x, reads⟩ := writable
      exact encodes_squeezeNode laws known attributes reads
    | range =>
      refine ⟨plainNode "Range" op, ?_, encodes_plainNode known (by simp)⟩
      unfold rangeNode
      rw [writable]
      rfl
    | reduce kind =>
      obtain ⟨keep, attributes⟩ := writable
      obtain ⟨p, written, encodes⟩ := encodes_reductionNode known attributes
      exact ⟨p, by simp only [written]; rfl, encodes⟩

end Export

/-! Graphs -/

/-- A graph that a model file can hold. -/
structure Graph.Writable (codec : Codec) (g : Graph) : Prop where
  ops : ∀ id op, g.ops.find? id = some op → op.Writable
  stored : ∀ id t data, g.tensors.find? id = some t → t.data = some data → codec.Restores data
  inputs : ∀ id ∈ g.inputs, ∃ t, g.tensors.find? id = some t ∧ t.shape.Storable
  outputs : ∀ id ∈ g.outputs, ∃ t, g.tensors.find? id = some t ∧ t.shape.Storable

theorem LoweredNode.Built.writable_graph {codec : Codec} (laws : codec.Lawful)
    {s : LoweredNode} {node : SourceNode} {operands : List (Option Tensor)} {g : Graph} {d : Draft}
    {operand? : Option Tensor} {ops : List Op} {axesId? : Option String} {first middle last : Nat}
    {source? : Option String}
    (built : s.Built operand? d ops axesId? first middle last source?)
    (drafted : s.Drafted node operands g d) (wired : g.Wired) (owns : g.Owns operands)
    (unclashed : d.Unclashed g) (writable : g.Writable codec) : s.graph.Writable codec := by
  have sound := drafted.sound
  have frame := sound.frame wired.toNumbered owns unclashed
  rw [drafted.graph_eq]
  exact {
    ops := by
      intro id op found
      rcases sound.op_of_attach found with old | ⟨member, _⟩
      · exact writable.ops id op old
      · exact built.writable op (drafted.ops_eq ▸ member)
    stored := by
      intro id t data found held
      rcases sound.tensor_of_attach owns found with old | ⟨member, _⟩
      · exact writable.stored id t data old held
      · obtain ⟨n, _, _, made⟩ := sound.made t member
        cases made with
        | constant _ whole =>
          cases held
          exact laws.restores_integers whole
        | result => contradiction
    inputs := by
      intro id member
      rw [frame.inputs_eq] at member
      obtain ⟨t, found, storable⟩ := writable.inputs id member
      exact ⟨t, frame.tensors_kept id t found, storable⟩
    outputs := by
      intro id member
      rw [frame.outputs_eq] at member
      obtain ⟨t, found, storable⟩ := writable.outputs id member
      exact ⟨t, frame.tensors_kept id t found, storable⟩ }

end ReductionIR
