import ReductionIR.Proofs.Exportable
import ReductionIR.Proofs.Exporting
/-
A conversion follows the run of its model. After every step the names that have values so far
stand for tensors that describe them, and one environment solves the graph.
-/
namespace ReductionIR

open Stepwise

variable {codec : Codec}

/-! Stored values -/

namespace Model

theorem Initializer.filled_of_array {α : Type} {I : Interpretation α} (reads : codec.Reads)
    {init : Initializer} {data : Dense} (read : codec.array init = .ok data) :
    (I.stored data).Filled := by
  change (data.elements.map I.literal).length = data.dims.prod
  rw [List.length_map]
  exact reads.full read

end Model

theorem Dense.shape_describes (data : Dense) : data.shape.Describes data.dims := by
  intro dims shape
  cases shape
  induction data.dims with
  | nil => exact .nil
  | cons n rest ih =>
    refine .cons ?_ ih
    intro k known
    exact (Dim.known.inj known).symm

theorem find?_of_nodup {β κ : Type} [DecidableEq κ] {l : List β} {key : β → κ}
    (nodup : (l.map key).Nodup) {b : β} (member : b ∈ l) :
    l.find? (key · == key b) = some b := by
  cases found : l.find? (key · == key b) with
  | none =>
    have absent := List.find?_eq_none.mp found b member
    simp at absent
  | some other =>
    have same : key other = key b := by simpa using List.find?_some found
    rw [List.inj_on_of_nodup_map nodup (List.mem_of_find?_eq_some found) member same]

namespace Conversion

variable {α : Type} {I : Interpretation α} {m : Model.Graph} {fed values env : Env α}
  {c : Conversion}

/-- A conversion that has come as far as a run of its model. -/
structure Simulates (codec : Codec) (I : Interpretation α) (m : Model.Graph)
    (fed values env : Env α) (c : Conversion) : Prop
    extends Exportable codec m.givenNames c, Tracks I m values env c where
  solves : c.graph.Solves I fed env

/-! Initializers and inputs -/

/-- Before the nodes, tensors that have come in describe what is given. -/
structure Seeded (codec : Codec) (I : Interpretation α) (m : Model.Graph) (fed : Env α)
    (count : Nat) (c : Conversion) : Prop extends Entered codec m.givenNames count c,
    Simulates codec I m fed (m.given codec I fed) (m.given codec I fed) c

theorem seeded_start (m : Model) (sourceName : String) :
    Seeded codec I m.graph fed 0 (m.startOf sourceName) where
  toEntered := entered_start m sourceName
  described := fun _ _ found => nomatch found
  settled := fun _ _ _ found => nomatch found
  solves := ⟨fun _ _ found => (nomatch found), fun _ _ stored => (nomatch stored),
    fun _ member => (nomatch member)⟩

/-- A tensor that has come in under the name of its value may describe it. -/
theorem Seeded.enter {count : Nat} (seeded : Seeded codec I m fed count c) {t : Tensor} {g : Graph}
    {p : Placement} (gained : Graph.Gained c.graph g t p)
    (entered : Entered codec m.givenNames (count + 1) { c.bindValue t.id t with graph := g })
    (value : ∃ x, m.given codec I fed t.id = some x ∧ t.Describes I x ∧ x.Filled)
    (settled : m.isStored t.id = true → t.data ≠ none)
    (inputs : ∀ id ∈ g.inputs, id ∈ c.graph.inputs ∨ id = t.id ∧ m.given codec I fed id = fed id) :
    Seeded codec I m fed (count + 1) { c.bindValue t.id t with graph := g } := by
  obtain ⟨x, atName, describes, filled⟩ := value
  exact {
    toEntered := entered
    described := by
      refine Table.forall_find?_insert seeded.described ?_
      exact ⟨x, atName, atName, describes, filled⟩
    settled := by
      intro name u is_stored found
      exact Table.forall_find?_insert (fun name u found is_stored =>
        seeded.settled name u is_stored found) settled name u found is_stored
    solves := {
      ops := by
        intro id op found
        rw [gained.ops_eq] at found
        exact seeded.solves.ops id op found
      constants := by
        intro id a stored
        obtain ⟨u, found, held⟩ := Option.bind_eq_some_iff.mp stored
        rcases gained.known found with ⟨rfl, rfl⟩ | ⟨_, old⟩
        · obtain ⟨data, there, rfl⟩ := Option.map_eq_some_iff.mp held
          rw [atName, describes.data data there]
        · refine seeded.solves.constants id a ?_
          rw [Graph.constant?, old]
          exact held
      inputs := by
        intro id member
        rcases inputs id member with old | ⟨_, same⟩
        · exact seeded.solves.inputs id old
        · exact same } }

theorem Seeded.mono {count more : Nat} (seeded : Seeded codec I m fed count c) (le : count ≤ more) :
    Seeded codec I m fed more c :=
  { seeded with toEntered := seeded.toEntered.mono le }

theorem isStored_of_mem {init : Model.Initializer} (member : init ∈ m.initializers) :
    m.isStored init.name = true := by
  rw [Model.Graph.isStored, List.any_eq_true]
  exact ⟨init, member, by simp⟩

theorem given_of_unstored {name : String} (fresh : m.isStored name = false)
    (listed : name ∈ m.inputs.map Model.ValueInfo.name) : m.given codec I fed name = fed name := by
  have none_stored : m.initializers.find? (·.name == name) = none := by
    rw [List.find?_eq_none]
    intro init member same
    have is_stored := isStored_of_mem member
    rw [eq_of_beq same, fresh] at is_stored
    contradiction
  rw [Model.Graph.given, none_stored]
  exact if_pos listed

theorem unstored_of_unbound {values : Table String Tensor} {name : String}
    (stored : ∀ init ∈ m.initializers, ∃ t, values.find? init.name = some t)
    (unbound : values.find? name = none) : m.isStored name = false := by
  by_contra is_stored
  rw [Bool.not_eq_false, Model.Graph.isStored, List.any_eq_true] at is_stored
  obtain ⟨init, listed, same⟩ := is_stored
  obtain ⟨t, bound⟩ := stored init listed
  rw [eq_of_beq same, unbound] at bound
  contradiction

theorem bound_insert {values : Table String Tensor} {name other : String} (t : Tensor)
    (bound : ∃ u, values.find? other = some u) :
    ∃ u, (values.insert name t).find? other = some u := by
  rw [Table.find?_insert]
  split
  · exact ⟨t, rfl⟩
  · exact bound

theorem seeded_of_initializers (laws : codec.Lawful) {start c₁ : Conversion}
    (seeded : Seeded codec I m fed 0 start) (unfed : start.graph.inputs = [])
    (once : m.SingleAssignment) (storable : m.Storable codec)
    (done : m.initializers.zipIdx.forM (fun init => addInitializer codec init.1 init.2) start =
      .ok () c₁) :
    Seeded codec I m fed m.initializers.length c₁ ∧
      ∀ init ∈ m.initializers, ∃ t, c₁.values.find? init.name = some t := by
  have stage := initializers_induction (P := fun i c => Seeded codec I m fed i c ∧
      c.graph.inputs = [] ∧ ∀ init ∈ m.initializers.take i, ∃ t,
        c.values.find? init.name = some t) ?_ ⟨seeded, unfed, by simp⟩ done
  · rw [List.take_length] at stage
    exact ⟨stage.1, stage.2.2⟩
  · rintro i init data c there read ⟨seeded, unfed, stored⟩
    have member := List.mem_of_getElem? there
    have value : m.given codec I fed init.name = some (I.stored data) := by
      rw [Model.Graph.given, find?_of_nodup once.stored member]
      exact Model.Initializer.value?_of_array I read
    have describes : (Tensor.constant (.given i) init.name data).Describes I (I.stored data) := by
      refine ⟨data.shape_describes, fun other held => ?_⟩
      cases held
      rfl
    refine ⟨seeded.enter (Graph.gained_addConstant ..)
      (seeded.toEntered.initializer laws unfed storable member read)
      ⟨_, value, describes, Model.Initializer.filled_of_array laws.toReads read⟩
      (fun _ => Option.some_ne_none data) (fun _ input => Or.inl input), unfed, ?_⟩
    intro other listed
    rw [List.take_add_one, there] at listed
    change ∃ t, (c.values.insert init.name _).find? other.name = some t
    rcases List.mem_append.mp listed with old | now
    · exact bound_insert _ (stored other old)
    · rw [List.mem_singleton.mp now, Table.find?_insert, if_pos rfl]
      exact ⟨_, rfl⟩

theorem seeded_of_inputs {c₁ c₂ : Conversion}
    (seeded : Seeded codec I m fed m.initializers.length c₁)
    (stored : ∀ init ∈ m.initializers, ∃ t, c₁.values.find? init.name = some t)
    (supplied : m.FedBy fed) (storable : m.Storable codec)
    (done : (m.inputs.zipIdx m.initializers.length).forM
      (fun value => (modify (addInput value.1 value.2) : Step Unit)) c₁ = .ok () c₂) :
    ∃ count, Seeded codec I m fed count c₂ := by
  have stage := inputs_induction (P := fun i c =>
      Seeded codec I m fed (m.initializers.length + i) c ∧
      ∀ init ∈ m.initializers, ∃ t, c.values.find? init.name = some t) ?_ ⟨seeded, stored⟩ done
  · exact ⟨_, stage.1⟩
  · rintro i value c there ⟨seeded, stored⟩
    have member := List.mem_of_getElem? there
    have entered := seeded.toEntered.input storable member
    unfold addInput at entered ⊢
    dsimp only at entered ⊢
    -- a name that is bound belongs to an initializer, which the input declares once more
    split
    · exact ⟨seeded.mono (Nat.le_succ _), stored⟩
    · rename_i absent
      rw [if_neg absent] at entered
      have unbound : c.values.find? value.name = none := by
        simpa [Table.contains] using absent
      have fresh := unstored_of_unbound stored unbound
      have given : m.given codec I fed value.name = fed value.name :=
        given_of_unstored fresh (List.mem_map_of_mem member)
      obtain ⟨x, there, filled, describes⟩ := supplied value member fresh
      have describes_x : (value.tensor (.given (m.initializers.length + i))).Describes I x := by
        refine ⟨describes, fun data held => ?_⟩
        rw [data_of_valueInfo] at held
        contradiction
      refine ⟨seeded.enter (Graph.gained_addInput ..) entered
        ⟨x, given.trans there, describes_x, filled⟩ ?_ ?_, ?_⟩
      · intro is_stored
        change m.isStored value.name = true at is_stored
        rw [fresh] at is_stored
        contradiction
      · intro id input
        rcases Graph.mem_listed.mp input with old | rfl
        · exact Or.inl old
        · exact Or.inr ⟨rfl, given⟩
      · intro init listed
        exact bound_insert _ (stored init listed)

/-! Nodes -/

theorem assign_apply (node : Model.Node) (y : Concrete α) (values : Env α) (name : String) :
    node.assign y values name =
      if node.outputs.head? = some name ∧ name ≠ "" then some y else values name := by
  unfold Model.Node.assign
  cases node.outputs with
  | nil => simp
  | cons first rest =>
    by_cases empty : first = ""
    · by_cases same : first = name
      · simp [empty, ← same]
      · simp [empty, empty ▸ same]
    · by_cases same : first = name
      · simp [empty, ← same]
      · have other : name ≠ first := Ne.symm same
        simp [empty, same, Function.update_of_ne other]

/-- Lowering a node follows the run of the model by that node. -/
theorem Simulates.lowered (laws : codec.Lawful)
    (simulates : Simulates codec I m fed values env c) (lawful : I.Lawful)
    (unclashing : m.Unclashing) (once : m.SingleAssignment) {node : Model.Node}
    (member : node ∈ m.nodes) (clear : c.obstacle? node = none) {opset : Int}
    {position : Option Int} {source : SourceNode}
    (read : SourceNode.ofModel node opset position = .ok source) {outputs : List Tensor}
    {g' : Graph}
    (done : lowerNode .standard source (c.operandsOf node) c.graph = (.ok outputs, g'))
    {y : Concrete α} (means : m.value? I true opset values node = some y) :
    ∃ env', Simulates codec I m fed (node.assign y values) env'
      ({ c with graph := g' }.bindOutputs node.outputs outputs) := by
  have exportable := simulates.toExportable.lowered laws unclashing done
  have owns := simulates.toNamed.owns node
  obtain ⟨s, describes, d, ops, axesId?, first, middle, last, source?, drafted, built⟩ :=
    LoweredNode.built_of_lowered done
  have unclashed := simulates.toNamed.unclashed unclashing drafted.sound
  obtain ⟨x, supplied, meaning, ofOut, filled⟩ :=
    simulates.toTracks.supplied lawful owns clear read describes drafted means
  obtain ⟨env', solves, atOut, kept⟩ :=
    built.run drafted simulates.wired owns unclashed simulates.solves supplied meaning
  have graph := describes.graph_eq
  subst graph
  rw [describes.outputs_eq] at exportable ⊢
  refine ⟨env', ?_⟩
  exact {
    toExportable := exportable
    described := by
      intro name t found
      rw [find?_bindOutputs] at found
      rw [assign_apply]
      split at found
      · rename_i assigned
        cases found
        rw [if_pos assigned]
        exact ⟨y, rfl, atOut, ofOut, filled⟩
      · rename_i other
        obtain ⟨z, value, there, others⟩ := simulates.described name t found
        rw [if_neg other]
        exact ⟨z, value, (kept _ t (simulates.own name t found)).trans there, others⟩
    settled := by
      intro name t is_stored found
      rw [find?_bindOutputs] at found
      split at found
      · rename_i assigned
        -- names of initializers are assigned by no node
        have listed := List.mem_of_mem_head? (Option.mem_def.mpr assigned.1)
        have made : name ∈ m.nodes.flatMap Model.Node.outputs :=
          List.mem_flatMap.mpr ⟨node, member, listed⟩
        obtain ⟨init, stored, same⟩ := List.any_eq_true.mp is_stored
        have given : name ∈ m.givenNames :=
          List.mem_append_left _ (List.mem_map.mpr ⟨init, stored, eq_of_beq same⟩)
        exact absurd given (once.new name made assigned.2)
      · exact simulates.settled name t is_stored found
    solves := by
      rw [graph_bindOutputs]
      exact solves }

/-- The third stage follows the whole run. -/
theorem Simulates.nodes (laws : codec.Lawful) {c' : Conversion}
    (simulates : Simulates codec I m fed values env c)
    (lawful : I.Lawful) (unclashing : m.Unclashing) (once : m.SingleAssignment) {opset : Int}
    {last : Env α}
    (run : m.nodes.foldlM (fun env node => (m.value? I true opset env node).map
      (node.assign · env)) values = some last)
    (done : m.nodes.zipIdx.forM (fun node => nodeStep .standard true opset node.1 node.2) c =
      .ok () c') : ∃ env', Simulates codec I m fed last env' c' := by
  have stage := nodes_induction (P := fun i c => ∃ values env,
      (m.nodes.drop i).foldlM (fun env node => (m.value? I true opset env node).map
        (node.assign · env)) values = some last ∧ Simulates codec I m fed values env c) ?_
    ⟨values, env, run, simulates⟩ done
  · rw [List.drop_length] at stage
    obtain ⟨values, env, ended, simulates⟩ := stage
    cases ended
    exact ⟨env, simulates⟩
  · rintro i node c c' there ⟨values, env, run, simulates⟩ turn
    obtain ⟨inside, entry⟩ := List.getElem?_eq_some_iff.mp there
    rw [List.drop_eq_getElem_cons inside, entry, List.foldlM_cons] at run
    obtain ⟨_, first, run⟩ := Option.bind_eq_some_iff.mp run
    obtain ⟨y, means, rfl⟩ := Option.map_eq_some_iff.mp first
    obtain ⟨source, read, ⟨clear, outputs, g', lowered, rfl⟩ | ⟨lenient, _⟩⟩ :=
      nodeStep_eq_ok turn
    · obtain ⟨env', simulates⟩ := simulates.lowered laws lawful unclashing once
        (List.mem_of_getElem? there) clear read lowered means
      exact ⟨_, env', run, simulates⟩
    · contradiction

/-! Outputs -/

theorem Simulates.output (simulates : Simulates codec I m fed values env c)
    (value : Model.ValueInfo) : Simulates codec I m fed values env (c.addOutput value) := by
  have exportable := simulates.toExportable.output value
  unfold addOutput at exportable ⊢
  cases found : c.values.find? value.name with
  | none =>
    simp only [found] at exportable ⊢
    exact { simulates with toExportable := exportable }
  | some t =>
    simp only [found] at exportable ⊢
    have own := simulates.own value.name t found
    exact {
      toExportable := exportable
      described := simulates.described
      settled := simulates.settled
      solves := {
        ops := simulates.solves.ops
        constants := by
          intro id a stored
          rw [Graph.constant?, Graph.find?_addOutput own] at stored
          exact simulates.solves.constants id a stored
        inputs := simulates.solves.inputs } }

end Conversion

/-- A conversion follows every run of its model. -/
theorem Model.convert_simulates (laws : codec.Lawful) {m : Model} {α : Type}
    {I : Interpretation α} {fed last : Env α}
    (lawful : I.Lawful) (unclashing : m.graph.Unclashing) (once : m.graph.SingleAssignment)
    (storable : m.graph.Storable codec) (supplied : m.graph.FedBy fed) {sourceName : String}
    {converted : Converted} {warnings : List String}
    (done : m.convert codec .standard true sourceName = (.ok converted, warnings)) {opset : Int}
    (imported : m.defaultOpset = .ok opset)
    (run : m.graph.run? codec I true opset fed = some last) :
    ∃ (c : Conversion) (env : Env α), converted.graph = c.graph ∧
      converted.valueNames = c.values ∧ c.Simulates codec I m.graph fed last env := by
  obtain ⟨opset', c, imported', steps, graph, values⟩ := Model.convert_eq_ok done
  obtain rfl : opset = opset' := Except.ok.inj (imported.symm.trans imported')
  obtain ⟨c₁, c₂, c₃, first, second, third, fourth⟩ := Conversion.steps_eq_ok steps
  obtain ⟨seeded, stored⟩ := Conversion.seeded_of_initializers laws
    (Conversion.seeded_start m sourceName) rfl once storable first
  obtain ⟨_, seeded⟩ := Conversion.seeded_of_inputs seeded stored supplied storable second
  obtain ⟨env, simulates⟩ := seeded.toSimulates.nodes laws lawful unclashing once run third
  refine ⟨c, env, graph, values, ?_⟩
  exact Conversion.outputs_induction (P := fun c => c.Simulates codec I m.graph fed last env)
    (fun value c simulates => simulates.output value) simulates fourth

end ReductionIR
