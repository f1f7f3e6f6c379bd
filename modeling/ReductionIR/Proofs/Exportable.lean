import ReductionIR.Proofs.Encoding
/-
A conversion can be written at any time: whatever came in, and whichever nodes were lowered or
failed, its graph is wired and a model file can hold it.
-/
namespace ReductionIR

open Stepwise

variable {codec : Codec}

namespace Conversion

variable {names : List String} {m : Model.Graph} {c : Conversion} {count : Nat}

/-- A conversion whose graph can be written, and whose values a file can hold. -/
structure Exportable (codec : Codec) (names : List String) (c : Conversion) : Prop
    extends Named names c where
  wired : c.graph.Wired
  writable : c.graph.Writable codec
  storable : ∀ name t, c.values.find? name = some t → t.shape.Storable

/-! Initializers and inputs -/

/-- Before the nodes, tensors go by the names of their values, and they came in by number. -/
structure Entered (codec : Codec) (names : List String) (count : Nat) (c : Conversion) : Prop
    extends Plain names c, Exportable codec names c where
  given : c.graph.Given count

theorem entered_start (m : Model) (sourceName : String) :
    Entered codec names 0 (m.startOf sourceName) where
  toPlain := plain_start m sourceName
  wired := (Graph.given_empty _).wired
  writable := ⟨fun _ _ found => (nomatch found), fun _ _ _ found => (nomatch found),
    fun _ member => (nomatch member), fun _ member => (nomatch member)⟩
  storable := fun _ _ found => nomatch found
  given := Graph.given_empty _

theorem Entered.mono (entered : Entered codec names count c) {more : Nat} (le : count ≤ more) :
    Entered codec names more c :=
  { entered with given := entered.given.mono le }

/-- A tensor may come in under its name, also when the name stood for another one. -/
theorem Entered.enter (entered : Entered codec names count c) {t : Tensor} (named : t.id ∈ names)
    {g : Graph} {p : Placement} (gained : Graph.Gained c.graph g t p)
    (given : g.Given (count + 1)) (storable : t.shape.Storable)
    (restores : ∀ data, t.data = some data → codec.Restores data)
    (inputs : ∀ id ∈ g.inputs, id ∈ c.graph.inputs ∨ id = t.id)
    (outputs : g.outputs = c.graph.outputs) :
    Entered codec names (count + 1) { c.bindValue t.id t with graph := g } := by
  have known : ∀ id, (∃ u, c.graph.tensors.find? id = some u ∧ u.shape.Storable) →
      ∃ u, g.tensors.find? id = some u ∧ u.shape.Storable := by
    rintro id ⟨u, found, fits⟩
    by_cases same : id = t.id
    · exact ⟨t, same ▸ gained.find?_self, storable⟩
    · exact ⟨u, (gained.find?_of_ne same).trans found, fits⟩
  exact {
    toPlain := entered.toPlain.enter named rfl gained.tensors_eq gained.ops_eq gained.counter_eq
    wired := given.wired
    writable := {
      ops := by
        rw [gained.ops_eq]
        exact entered.writable.ops
      stored := by
        intro id u data found held
        rcases gained.known found with ⟨_, rfl⟩ | ⟨_, old⟩
        · exact restores data held
        · exact entered.writable.stored id u data old held
      inputs := by
        intro id member
        rcases inputs id member with old | rfl
        · exact known id (entered.writable.inputs id old)
        · exact ⟨t, gained.find?_self, storable⟩
      outputs := by
        rw [outputs]
        exact fun id member => known id (entered.writable.outputs id member) }
    storable := Table.forall_find?_insert entered.storable storable
    given := given }

theorem Entered.initializer (laws : codec.Lawful) (entered : Entered codec m.givenNames count c)
    (unfed : c.graph.inputs = []) (storable : m.Storable codec) {init : Model.Initializer}
    (member : init ∈ m.initializers) {data : Dense} (read : codec.array init = .ok data) :
    Entered codec m.givenNames (count + 1)
      { c.bindValue init.name (.constant (.given count) init.name data) with
        graph := c.graph.addConstant (.constant (.given count) init.name data) } := by
  have inner : init.name ∉ c.graph.inputs := by
    rw [unfed]
    exact List.not_mem_nil
  exact entered.enter (List.mem_append_left _ (List.mem_map_of_mem member))
    (Graph.gained_addConstant ..) (entered.given.addConstant rfl inner rfl rfl)
    (storable.initializers init member data read)
    (fun other held => Option.some.inj held ▸ laws.restores_read read)
    (fun _ input => Or.inl input) rfl

theorem data_of_valueInfo (value : Model.ValueInfo) (origin : Origin) :
    (value.tensor origin).data = none := by
  change value.facts.data = none
  unfold Model.ValueInfo.facts
  split <;> rfl

theorem Entered.input (entered : Entered codec m.givenNames count c) (storable : m.Storable codec)
    {value : Model.ValueInfo} (member : value ∈ m.inputs) :
    Entered codec m.givenNames (count + 1) (addInput value count c) := by
  have unstored := data_of_valueInfo value (.given count)
  unfold addInput
  split
  · exact entered.mono (Nat.le_succ _)
  · refine entered.enter (List.mem_append_right _ (List.mem_map_of_mem member))
      (Graph.gained_addInput ..) (entered.given.addInput rfl unstored rfl)
      (storable.inputs value member) ?_ (fun _ input => Graph.mem_listed.mp input) rfl
    intro data held
    rw [unstored] at held
    contradiction

theorem entered_of_stages (laws : codec.Lawful) {start c₁ c₂ : Conversion}
    (entered : Entered codec m.givenNames 0 start)
    (unfed : start.graph.inputs = []) (storable : m.Storable codec)
    (first : m.initializers.zipIdx.forM (fun init => addInitializer codec init.1 init.2) start =
      .ok () c₁)
    (second : (m.inputs.zipIdx m.initializers.length).forM
      (fun value => (modify (addInput value.1 value.2) : Step Unit)) c₁ = .ok () c₂) :
    ∃ count, Entered codec m.givenNames count c₂ := by
  have stored := initializers_induction
    (P := fun i c => Entered codec m.givenNames i c ∧ c.graph.inputs = []) ?_ ⟨entered, unfed⟩ first
  · have fed := inputs_induction
      (P := fun i c => Entered codec m.givenNames (m.initializers.length + i) c) ?_ stored.1 second
    · exact ⟨_, fed⟩
    · intro i value c found entered
      exact entered.input storable (List.mem_of_getElem? found)
  · rintro i init data c found read ⟨entered, unfed⟩
    exact ⟨entered.initializer laws unfed storable (List.mem_of_getElem? found) read, unfed⟩

/-! Nodes and outputs -/

theorem Exportable.congr (exportable : Exportable codec names c) {c' : Conversion}
    (graph : c'.graph = c.graph) (values : c'.values = c.values) : Exportable codec names c' where
  toNamed := exportable.toNamed.congr graph values
  wired := graph ▸ exportable.wired
  writable := graph ▸ exportable.writable
  storable := values ▸ exportable.storable

theorem Exportable.lowered (laws : codec.Lawful) (exportable : Exportable codec m.givenNames c)
    (unclashing : m.Unclashing) {node : Model.Node} {source : SourceNode} {outputs : List Tensor}
    {g' : Graph}
    (done : lowerNode .standard source (c.operandsOf node) c.graph = (.ok outputs, g')) :
    Exportable codec m.givenNames ({ c with graph := g' }.bindOutputs node.outputs outputs) := by
  have named := exportable.toNamed.lowered unclashing done
  have owns := exportable.toNamed.owns node
  obtain ⟨s, describes, d, ops, axesId?, first, middle, last, source?, drafted, built⟩ :=
    LoweredNode.built_of_lowered done
  have unclashed := exportable.toNamed.unclashed unclashing drafted.sound
  have wired := drafted.sound.wired_attach exportable.wired owns unclashed
  have writable :=
    built.writable_graph laws drafted exportable.wired owns unclashed exportable.writable
  rw [← drafted.graph_eq, describes.graph_eq] at wired
  rw [describes.graph_eq] at writable
  have out : s.out.shape.Storable := by
    have operand := describes.data_eq
    rw [operandsOf_join] at operand
    obtain ⟨name, _, found⟩ := Option.bind_eq_some_iff.mp operand
    exact Reduction.lower_storable drafted.lowered describes.data_eq
      (exportable.storable name s.data found)
  exact {
    toNamed := named
    wired := by
      rw [graph_bindOutputs]
      exact wired
    writable := by
      rw [graph_bindOutputs]
      exact writable
    storable := by
      intro name t found
      rcases mem_of_bindOutputs found with new | old
      · rw [describes.outputs_eq] at new
        rw [List.mem_singleton.mp new]
        exact out
      · exact exportable.storable name t old }

theorem Exportable.output (exportable : Exportable codec names c) (value : Model.ValueInfo) :
    Exportable codec names (c.addOutput value) := by
  have named := exportable.toNamed.output value
  unfold addOutput at named ⊢
  cases found : c.values.find? value.name with
  | none => exact exportable.congr rfl rfl
  | some t =>
    simp only [found] at named ⊢
    have own := exportable.own value.name t found
    have lookup := Graph.find?_addOutput own
    exact {
      toNamed := named
      wired := exportable.wired.addOutput own
      writable := {
        ops := exportable.writable.ops
        stored := by
          intro id u data there
          rw [lookup] at there
          exact exportable.writable.stored id u data there
        inputs := by
          intro id member
          rw [lookup]
          exact exportable.writable.inputs id member
        outputs := by
          intro id member
          rw [lookup]
          rcases Graph.mem_listed.mp member with old | rfl
          · exact exportable.writable.outputs id old
          · exact ⟨t, own, exportable.storable value.name t found⟩ }
      storable := exportable.storable }

end Conversion

/-- A converted model can be written, whichever nodes were lowered. -/
theorem Model.convert_exportable (laws : codec.Lawful) {m : Model} (unclashing : m.graph.Unclashing)
    (storable : m.graph.Storable codec) {strict : Bool} {sourceName : String}
    {converted : Converted} {warnings : List String}
    (done : m.convert codec .standard strict sourceName = (.ok converted, warnings)) :
    ∃ c : Conversion, converted.graph = c.graph ∧ converted.valueNames = c.values ∧
      c.Exportable codec m.graph.givenNames := by
  refine Model.convert_induction ?_ ?_ ?_ ?_ done
  · intro name c₁ c₂ first second
    obtain ⟨_, entered⟩ := Conversion.entered_of_stages laws (Conversion.entered_start m name) rfl
      storable first second
    exact entered.toExportable
  · intro c node source outputs g' exportable lowered
    exact exportable.lowered laws unclashing lowered
  · intro c c' exportable graph values
    exact exportable.congr graph values
  · exact fun value c exportable => exportable.output value

end ReductionIR
