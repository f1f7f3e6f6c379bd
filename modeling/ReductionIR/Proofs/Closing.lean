import ReductionIR.Proofs.Exportable
import ReductionIR.Proofs.Exporting
/-
Written models are closed. Their nodes are the operators of the graph, in an order in which each
one reads what is given or made before it, and no name is given or made twice.
-/
namespace ReductionIR

variable {codec : Codec}

/-- Every name is given or made once, and read behind that. -/
structure Model.Graph.Closed (m : Model.Graph) : Prop where
  once : (m.givenNames ++ m.nodes.flatMap Model.Node.outputs).Nodup
  ordered : ∀ before node after, m.nodes = before ++ node :: after → ∀ name ∈ node.inputs,
    name ∈ m.givenNames ∨ name ∈ before.flatMap Model.Node.outputs
  produced : ∀ value ∈ m.outputs,
    value.name ∈ m.givenNames ∨ value.name ∈ m.nodes.flatMap Model.Node.outputs

/-- The nodes of a model are the operators of a graph, each one once; what else they read are
    initializers. -/
def Graph.IsTranscribedBy (g : Graph) (m : Model.Graph) : Prop :=
  ∃ ops : List Op, ops.Perm g.ops.values ∧ List.Forall₂ (fun op node =>
    ∃ more ⊆ m.initializers.map Model.Initializer.name, Export.Transcribes op more node)
    ops m.nodes

namespace Export

variable {g : Graph} {order : List String} {m : Model.Graph} {op : Op} {t : Tensor}
  {id : String}

/-- The node that an operator is written as. -/
def nodeOf (codec : Codec) (op : Op) : Model.Node :=
  (pieceOf codec op).nodes.headD { opType := op.opType }

theorem nodes_pieceOf (laws : codec.Lawful) (writable : op.Writable) :
    (pieceOf codec op).nodes = [nodeOf codec op] ∧ Transcribes op
      ((pieceOf codec op).initializers.map Model.Initializer.name) (nodeOf codec op) := by
  obtain ⟨node, nodes, transcribes, _⟩ := (pieceOf_encodes laws writable).2.node
  have same : nodeOf codec op = node := by
    rw [nodeOf, nodes]
    rfl
  exact ⟨same ▸ nodes, same ▸ transcribes⟩

theorem split_of_opsIn {early late : List Op} (split : opsIn g order = early ++ op :: late) :
    ∃ before id after, order = before ++ id :: after ∧ opsIn g before = early ∧
      g.ops.find? id = some op := by
  obtain ⟨ids, others, rfl, kept, left⟩ := List.filterMap_eq_append_iff.mp split
  obtain ⟨skipped, id, after, rfl, unknown, found, _⟩ := List.filterMap_eq_cons_iff.mp left
  refine ⟨ids ++ skipped, id, after, (List.append_assoc ..).symm, ?_, found⟩
  rw [opsIn, List.filterMap_append, kept, List.filterMap_eq_nil_iff.mpr unknown, List.append_nil]

section Written

variable (wired : g.Wired) (ordered : Ordered g order)

include wired ordered

theorem mem_opsIn_iff : op ∈ opsIn g order ↔ g.ops.find? op.id = some op := by
  rw [opsIn, List.mem_filterMap]
  constructor
  · rintro ⟨id, _, found⟩
    rw [wired.opKeyed id op found]
    exact found
  · intro found
    exact ⟨op.id, (ordered.mem_iff op.id).mpr ⟨op, found⟩, found⟩

omit wired in
theorem opsIn_perm : (opsIn g order).Perm g.ops.values := by
  have keys : order.Perm g.ops.keys := by
    refine (List.perm_ext_iff_of_nodup ordered.nodup g.ops.nodup_keys).mpr fun id => ?_
    rw [ordered.mem_iff]
    change _ ↔ id ∈ g.ops.keys
    rw [← Table.contains_iff_mem_keys, Table.contains, Option.isSome_iff_exists]
  rw [opsIn, ← Table.filterMap_keys]
  exact keys.filterMap g.ops.find?

theorem nodup_opsIn : ((opsIn g order).map Op.id).Nodup := by
  rw [((opsIn_perm ordered).map Op.id).nodup_iff, Table.values_map Op.id wired.opKeyed]
  exact g.ops.nodup_keys

variable (laws : codec.Lawful) (writable : g.Writable codec) (written : WrittenAs codec g order m)

include laws writable written

theorem nodes_eq : m.nodes = (opsIn g order).map (nodeOf codec) := by
  rw [written.nodes, List.map_eq_flatMap]
  refine List.flatMap_congr fun op member => ?_
  have found := (mem_opsIn_iff wired ordered).mp member
  exact (nodes_pieceOf laws (writable.ops op.id op found)).1

omit ordered written in
theorem outputs_nodeOf (found : g.ops.find? op.id = some op) :
    (nodeOf codec op).outputs = [Graph.resultId op.id] := by
  rw [(nodes_pieceOf laws (writable.ops op.id op found)).2.outputs_eq, wired.outputs_eq found]

theorem madeNames_eq :
    m.nodes.flatMap Model.Node.outputs = (opsIn g order).map (Graph.resultId ∘ Op.id) := by
  rw [nodes_eq wired ordered laws writable written, List.flatMap_map, List.map_eq_flatMap]
  refine List.flatMap_congr fun op member => ?_
  exact outputs_nodeOf wired laws writable ((mem_opsIn_iff wired ordered).mp member)

theorem isTranscribedBy : g.IsTranscribedBy m := by
  refine ⟨opsIn g order, opsIn_perm ordered, ?_⟩
  rw [nodes_eq wired ordered laws writable written, List.forall₂_map_right_iff, List.forall₂_same]
  intro op member
  refine ⟨_, ?_, (nodes_pieceOf laws
    (writable.ops op.id op ((mem_opsIn_iff wired ordered).mp member))).2⟩
  rw [written.initializers, List.map_append]
  refine List.subset_append_of_subset_right _ (List.map_subset _ ?_)
  exact fun init own => List.mem_flatMap.mpr ⟨op, member, own⟩

omit laws

omit writable written in
theorem mem_early_of_reads {early late : List Op} {maker : Op}
    (split : opsIn g order = early ++ op :: late) (input : id ∈ op.inputs)
    (there : g.tensors.find? id = some t) (known : g.ops.find? maker.id = some maker)
    (made : (g.placement t).producer? = some maker.id) : maker ∈ early := by
  obtain ⟨before, key, after, rfl, rfl, found⟩ := split_of_opsIn split
  have behind := ordered.behind before key after rfl op found maker.id
    (wired.mem_producers input there made)
  exact List.mem_filterMap.mpr ⟨maker.id, behind, known⟩

omit wired ordered writable in
theorem given_of_axes (member : op ∈ opsIn g order)
    (axes : id ∈ (pieceOf codec op).initializers.map Model.Initializer.name) :
    id ∈ m.givenNames := by
  refine List.mem_append_left _ ?_
  rw [written.initializers, List.map_append]
  obtain ⟨init, own, rfl⟩ := List.mem_map.mp axes
  exact List.mem_append_right _
    (List.mem_map_of_mem (List.mem_flatMap.mpr ⟨op, member, own⟩))

omit ordered

theorem given_or_made (found : g.tensors.find? id = some t) :
    id ∈ m.givenNames ∨ ∃ op, g.ops.find? op.id = some op ∧ id = Graph.resultId op.id ∧
      (g.placement t).producer? = some op.id := by
  have named := wired.keyed id t found
  rcases wired.roles id t found with ⟨input, _, _⟩ | @⟨data, held, _, _, _⟩ |
    ⟨known, _, _, outputs, producer⟩
  · left
    refine List.mem_append_right _ ?_
    rw [written.inputNames wired, ← named]
    exact input
  · left
    have stored := (mem_constantData_iff wired).mpr ⟨t, found, held⟩
    rw [Model.Graph.givenNames, written.initializers, List.map_append,
      names_constantsOf wired writable]
    refine List.mem_append_left _ (List.mem_append_left _ ?_)
    exact List.mem_map_of_mem stored
  · right
    rw [wired.outputs_eq known, List.singleton_inj, named] at outputs
    exact ⟨_, known, outputs.symm, producer⟩

end Written

/-! Names -/

theorem sublist_flatMap {β γ : Type} {f : β → List γ} {h : β → γ} {l : List β}
    (each : ∀ b ∈ l, (f b).Sublist [h b]) : (l.flatMap f).Sublist (l.map h) := by
  induction l with
  | nil => exact List.Sublist.slnil
  | cons b rest ih =>
    rw [List.flatMap_cons, List.map_cons, ← List.singleton_append]
    exact (each b (List.mem_cons_self ..)).append
      (ih fun c later => each c (List.mem_cons_of_mem _ later))

section Closed

variable (wired : g.Wired) (writable : g.Writable codec)

include wired writable

theorem stored_of_constant (constant : id ∈ (constantsOf codec g).map Model.Initializer.name) :
    ∃ t data, g.tensors.find? id = some t ∧ t.data = some data := by
  rw [names_constantsOf wired writable] at constant
  obtain ⟨⟨_, data⟩, member, rfl⟩ := List.mem_map.mp constant
  obtain ⟨t, found, held⟩ := (mem_constantData_iff wired).mp member
  exact ⟨t, data, found, held⟩

theorem nodup_constantsOf : ((constantsOf codec g).map Model.Initializer.name).Nodup := by
  have names : ((constantData g).map Prod.fst).Sublist (g.tensors.values.map Tensor.id) := by
    unfold constantData
    rw [List.filterMap_eq_flatMap_toList, List.map_flatMap]
    refine sublist_flatMap fun t _ => ?_
    split
    · cases t.data with
      | none => exact List.nil_sublist _
      | some data => exact List.Sublist.refl _
    · exact List.nil_sublist _
  rw [Table.values_map Tensor.id wired.keyed] at names
  rw [names_constantsOf wired writable]
  exact g.tensors.nodup_keys.sublist names

variable (laws : codec.Lawful) (ordered : Ordered g order)

include laws ordered

theorem nodup_axes : (((opsIn g order).flatMap fun op => (pieceOf codec op).initializers).map
    Model.Initializer.name).Nodup := by
  have names : (((opsIn g order).flatMap fun op => (pieceOf codec op).initializers).map
      Model.Initializer.name).Sublist
        (((opsIn g order).map Op.id).map fun id => id ++ "_axes") := by
    rw [List.map_flatMap, List.map_map]
    refine sublist_flatMap fun op member => ?_
    have encodes := (pieceOf_encodes laws
      (writable.ops op.id op ((mem_opsIn_iff wired ordered).mp member))).2
    have named := encodes.named
    have single := encodes.single
    generalize (pieceOf codec op).initializers = inits at named single
    match inits with
    | [] => exact List.nil_sublist _
    | [init] =>
      rw [List.map_singleton, (named init (List.mem_singleton_self _)).1]
      exact List.Sublist.refl _
    | _ :: _ :: _ => simp at single
  refine (List.Nodup.map ?_ (nodup_opsIn wired ordered)).sublist names
  exact fun _ _ same => (String.append_left_inj _).mp same

variable (apart : g.AxesApart) (written : WrittenAs codec g order m)

include apart

theorem free_of_axes (axes : id ∈ ((opsIn g order).flatMap fun op =>
    (pieceOf codec op).initializers).map Model.Initializer.name) : g.tensors.find? id = none := by
  obtain ⟨init, listed, rfl⟩ := List.mem_map.mp axes
  obtain ⟨op, member, own⟩ := List.mem_flatMap.mp listed
  exact axes_apart laws wired writable apart ((mem_opsIn_iff wired ordered).mp member) own

include written

theorem unmade_of_given (given : id ∈ m.givenNames) (found : g.tensors.find? id = some t) :
    (g.placement t).producer? = none := by
  rw [Model.Graph.givenNames, written.initializers, List.map_append, written.inputNames wired,
    List.mem_append, List.mem_append] at given
  rcases given with (constant | axes) | input
  · obtain ⟨u, data, there, held⟩ := stored_of_constant wired writable constant
    obtain rfl : t = u := Option.some.inj (found.symm.trans there)
    exact (wired.roles id t found).of_stored held
  · rw [free_of_axes wired writable laws ordered apart axes] at found
    contradiction
  · rw [← wired.keyed id t found] at input
    exact ((wired.roles id t found).of_input input).2

theorem nodup_givenNames : m.givenNames.Nodup := by
  unfold Model.Graph.givenNames
  rw [written.initializers, List.map_append, written.inputNames wired]
  refine List.nodup_append.mpr ⟨List.nodup_append.mpr
    ⟨nodup_constantsOf wired writable, nodup_axes wired writable laws ordered, ?_⟩,
    wired.inputs_once, ?_⟩
  · rintro name constant _ axes rfl
    obtain ⟨t, _, found, _⟩ := stored_of_constant wired writable constant
    rw [free_of_axes wired writable laws ordered apart axes] at found
    contradiction
  · rintro name stored _ input rfl
    obtain ⟨u, fed⟩ := wired.inputs_known name input
    rcases List.mem_append.mp stored with constant | axes
    · obtain ⟨t, data, found, held⟩ := stored_of_constant wired writable constant
      rw [← wired.keyed name t found] at input
      rw [((wired.roles name t found).of_input input).1] at held
      contradiction
    · rw [free_of_axes wired writable laws ordered apart axes] at fed
      contradiction

theorem nodup_names : (m.givenNames ++ m.nodes.flatMap Model.Node.outputs).Nodup := by
  rw [madeNames_eq wired ordered laws writable written]
  refine List.nodup_append.mpr ⟨nodup_givenNames wired writable laws ordered apart written, ?_, ?_⟩
  · rw [← List.map_map]
    exact (nodup_opsIn wired ordered).map fun _ _ => Graph.resultId_injective
  · rintro name given _ made rfl
    obtain ⟨op, listed, rfl⟩ := List.mem_map.mp made
    obtain ⟨n, placed⟩ := wired.placed op.id op ((mem_opsIn_iff wired ordered).mp listed)
    obtain ⟨t, found, _, producer⟩ := placed.result
    rw [unmade_of_given wired writable laws ordered apart written given found] at producer
    contradiction

omit apart in
theorem given_or_made_before {before after : List Model.Node} {node : Model.Node}
    (split : m.nodes = before ++ node :: after) {name : String} (reads : name ∈ node.inputs) :
    name ∈ m.givenNames ∨ name ∈ before.flatMap Model.Node.outputs := by
  rw [nodes_eq wired ordered laws writable written] at split
  obtain ⟨early, late, parts, rfl, tail⟩ := List.map_eq_append_iff.mp split
  obtain ⟨op, rest, rfl, rfl, _⟩ := List.map_eq_cons_iff.mp tail
  have member : op ∈ opsIn g order := by
    rw [parts]
    exact List.mem_append_right _ (List.mem_cons_self ..)
  have found := (mem_opsIn_iff wired ordered).mp member
  rw [(nodes_pieceOf laws (writable.ops op.id op found)).2.inputs_eq] at reads
  rcases List.mem_append.mp reads with input | axes
  · obtain ⟨n, placed⟩ := wired.placed op.id op found
    obtain ⟨t, there, _⟩ := placed.earlier name input
    rcases given_or_made wired writable written there with given | ⟨maker, known, rfl, made⟩
    · exact Or.inl given
    · have listed := mem_early_of_reads wired ordered parts input there known made
      refine Or.inr (List.mem_flatMap.mpr ⟨nodeOf codec maker, List.mem_map_of_mem listed, ?_⟩)
      rw [outputs_nodeOf wired laws writable known]
      exact List.mem_singleton_self _
  · exact Or.inl (given_of_axes written member axes)

omit apart in
theorem given_or_made_output {value : Model.ValueInfo} (member : value ∈ m.outputs) :
    value.name ∈ m.givenNames ∨ value.name ∈ m.nodes.flatMap Model.Node.outputs := by
  rw [written.outputs] at member
  obtain ⟨t, listed, rfl⟩ := List.mem_map.mp member
  obtain ⟨id, _, found⟩ := List.mem_filterMap.mp listed
  rw [madeNames_eq wired ordered laws writable written]
  change t.id ∈ _ ∨ t.id ∈ _
  rw [wired.keyed id t found]
  rcases given_or_made wired writable written found with given | ⟨maker, known, same, _⟩
  · exact Or.inl given
  · exact Or.inr (List.mem_map.mpr ⟨maker, (mem_opsIn_iff wired ordered).mpr known, same.symm⟩)

theorem closed : m.Closed where
  once := nodup_names wired writable laws ordered apart written
  ordered := fun _ _ _ split _ => given_or_made_before wired writable laws ordered written split
  produced := fun _ => given_or_made_output wired writable laws ordered written

end Closed

end Export

/-- Every model that converts can be written, at every opset of a file: as a closed model with one
    node for each operator, unless an input or output must have a rank and has none. -/
theorem converted_model_is_closed (codec : Codec) (laws : codec.Lawful) (m : Model)
    (storable : m.graph.Storable codec) (unclashing : m.graph.Unclashing) (free : m.graph.AxesFree)
    (strict : Bool) (sourceName : String) (converted : Converted) (warnings : List String)
    (done : m.convert codec .standard strict sourceName = (.ok converted, warnings)) (opset : Int)
    (least : 18 ≤ opset) (greatest : opset ≤ 28) :
    converted.graph.validate = .ok () ∧ ∃ written : Model,
      converted.graph.toModel codec opset true = .ok written ∧ written.graph.Closed ∧
      converted.graph.IsTranscribedBy written.graph ∧
      ((∀ t ∈ converted.graph.tensorsOf (converted.graph.inputs ++ converted.graph.outputs),
          t.shape ≠ .unknownRank) ∧ converted.graph.toModel codec opset false = .ok written ∨
        ∃ t ∈ converted.graph.tensorsOf (converted.graph.inputs ++ converted.graph.outputs),
          t.shape = .unknownRank ∧
          converted.graph.toModel codec opset false = .error (.model (.unknownRank t.id))) := by
  obtain ⟨c, graph, _, exportable⟩ := Model.convert_exportable laws unclashing storable done
  have wired := exportable.wired
  have writable := exportable.writable
  have apart := exportable.toNamed.axesApart free
  rw [graph]
  obtain ⟨written, order, ordered, form, exported⟩ :=
    Export.toModel_eq laws wired writable least greatest
  refine ⟨wired.validates, written, exported true,
    Export.closed wired writable laws ordered apart form,
    Export.isTranscribedBy wired ordered laws writable form, ?_⟩
  rw [exported false]
  unfold Export.unranked?
  cases found : (c.graph.tensorsOf (c.graph.inputs ++ c.graph.outputs)).find?
      fun t => t.shape = .unknownRank with
  | none =>
    left
    exact ⟨fun t member => by simpa using List.find?_eq_none.mp found t member, rfl⟩
  | some t =>
    right
    exact ⟨t, List.mem_of_find?_eq_some found, by simpa using List.find?_some found, rfl⟩

/-- Axes stored twice under one name, a node that fails, and one whose axes are computed. -/
def storedTwiceModel : Model :=
  { opsetImports := [("", 18)]
    graph :=
      { name := "m"
        inputs := [⟨"x", .tensor 1 .unknownRank⟩]
        outputs := [⟨"y", .tensor 1 .unknownRank⟩, ⟨"z", .tensor 1 .unknownRank⟩]
        initializers := [⟨"a", 7, [1], [.int 0], true⟩, ⟨"a", 7, [1], [.int 1], true⟩]
        nodes :=
          [{ opType := "ReduceMax", inputs := ["x", "a"], outputs := ["y"] },
           { opType := "Softmax", inputs := ["y"], outputs := ["s"] },
           { opType := "ReduceLogSumExp", inputs := ["y"], outputs := ["z"] }] } }

/-- It is written with axes of its own, unless ranks must be known. -/
theorem storedTwiceModel_is_closed : ∃ converted warnings written,
    storedTwiceModel.convert .current .standard false "m" = (.ok converted, warnings) ∧
    converted.failures.map NodeFailure.kind = [.unsupportedOperator] ∧
    converted.graph.toModel .current 28 true = .ok written ∧ written.graph.Closed ∧
    written.graph.initializers.map Model.Initializer.name =
      ["a", "range_start_5", "range_step_6", "Squeeze_4_axes"] ∧
    ∃ id, converted.graph.toModel .current 28 false = .error (.model (.unknownRank id)) := by
  have storable : storedTwiceModel.graph.Storable .current := by
    constructor
    · intro value member
      obtain rfl := List.mem_singleton.mp member
      exact Inference.storable_unknownRank
    · intro init member data read
      rcases List.mem_pair.mp member with rfl | rfl
      all_goals
        cases read
        intro dims shape
        cases shape
        decide
  obtain ⟨converted, warnings, done⟩ : ∃ converted warnings,
      storedTwiceModel.convert .current .standard false "m" = (.ok converted, warnings) :=
    Model.exists_converted (by decide +kernel)
  have names : (storedTwiceModel.convert .current .standard false "m").1.toOption.map
      (fun converted => (converted.failures.map NodeFailure.kind,
        (converted.graph.toModel .current 28 true).toOption.map fun written =>
          written.graph.initializers.map Model.Initializer.name)) =
        some ([.unsupportedOperator],
          some ["a", "range_start_5", "range_step_6", "Squeeze_4_axes"]) := by
    decide +kernel
  have refused : (storedTwiceModel.convert .current .standard false "m").1.toOption.map
      (fun converted => (converted.graph.toModel .current 28 false).toOption.isNone) =
      some true := by
    decide +kernel
  rw [done] at names refused
  obtain ⟨failures, names⟩ := Prod.mk.inj (Option.some.inj names)
  have refused : (converted.graph.toModel .current 28 false).toOption.isNone = true :=
    Option.some.inj refused
  obtain ⟨_, written, exported, closed, _, open_or_ranked⟩ := converted_model_is_closed
    .current Codec.current_lawful storedTwiceModel storable
    (Model.Graph.unclashing_of_plain (by decide +kernel))
    (Model.Graph.axesFree_of_plain (by decide +kernel)) false "m" converted warnings done 28
    (by decide) (by decide)
  rw [exported] at names
  refine ⟨converted, warnings, written, done, failures, exported, closed, Option.some.inj names, ?_⟩
  rcases open_or_ranked with ⟨_, accepted⟩ | ⟨t, _, _, error⟩
  · rw [accepted] at refused
    simp [Except.toOption] at refused
  · exact ⟨t.id, error⟩

end ReductionIR
