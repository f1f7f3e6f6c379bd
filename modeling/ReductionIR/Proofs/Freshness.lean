import ReductionIR.Proofs.Conversions
import ReductionIR.Proofs.Frame
/-
Ids in converted graphs. They are names of the model or were made with numbers that are
used up, so a lowering can only clash with a name that looks like the id of a result.
-/
namespace ReductionIR

variable {codec : Codec}

/-- The names a model gives to its initializers and inputs. -/
def Model.Graph.givenNames (m : Model.Graph) : List String :=
  m.initializers.map Model.Initializer.name ++ m.inputs.map Model.ValueInfo.name

/-- No given name looks like the id of a result. -/
def Model.Graph.Unclashing (m : Model.Graph) : Prop :=
  ∀ name ∈ m.givenNames, ∀ (kind : OpKind) n,
    name ≠ Graph.resultId (Graph.numbered kind.opType n)

namespace Conversion

/-- The ids of a conversion and the tensors its values stand for. -/
structure Named (names : List String) (c : Conversion) : Prop where
  tensors : ∀ id ∈ c.graph.tensors.keys, id ∈ names ∨ ∃ stem n, n ≤ c.graph.counter ∧
    (id = Graph.numbered stem n ∨ id = Graph.resultId (Graph.numbered stem n))
  ops : ∀ id ∈ c.graph.ops.keys, ∃ stem n, id = Graph.numbered stem n
  own : ∀ name t, c.values.find? name = some t → c.graph.tensors.find? t.id = some t
  loopFree : ∀ id op, c.graph.ops.find? id = some op → ∀ out ∈ op.outputs, out ∉ op.inputs

/-- Before the nodes, every value has its own name. -/
structure Plain (names : List String) (c : Conversion) : Prop extends Named names c where
  sameName : ∀ name t, c.values.find? name = some t → t.id = name

variable {names : List String} {c : Conversion}

theorem plain_start (m : Model) (sourceName : String) : Plain names (m.startOf sourceName) where
  tensors := fun _ member => absurd member List.not_mem_nil
  ops := fun _ member => absurd member List.not_mem_nil
  own := fun _ _ found => nomatch found
  loopFree := fun _ _ found => nomatch found
  sameName := fun _ _ found => nomatch found

/-- A tensor that comes in under a given name, and stands for it. -/
theorem Plain.enter (plain : Plain names c) {name : String} (given : name ∈ names) {t : Tensor}
    (named : t.id = name) {g : Graph} (tensors : g.tensors = c.graph.tensors.insert t.id t)
    (ops : g.ops = c.graph.ops) (counter : g.counter = c.graph.counter) :
    Plain names { c.bindValue name t with graph := g } where
  tensors := by
    intro id member
    change id ∈ g.tensors.keys at member
    rw [tensors, Table.mem_keys_insert] at member
    rcases member with rfl | old
    · exact Or.inl (named ▸ given)
    · obtain given | ⟨stem, n, bound, made⟩ := plain.tensors id old
      · exact Or.inl given
      · exact Or.inr ⟨stem, n, counter ▸ bound, made⟩
  ops := by
    intro id member
    change id ∈ g.ops.keys at member
    exact plain.ops id (ops ▸ member)
  own := by
    intro other u found
    change (c.values.insert name t).find? other = some u at found
    change g.tensors.find? u.id = some u
    rw [Table.find?_insert] at found
    rw [tensors, Table.find?_insert]
    -- the id of the new tensor is its name, so it stands for no other name
    split at found
    · cases found
      simp
    · rename_i different
      have id_eq := plain.sameName other u found
      have apart : u.id ≠ t.id := by
        rw [id_eq, named]
        exact different
      rw [if_neg apart]
      exact plain.own other u found
  loopFree := by
    intro id op found
    change g.ops.find? id = some op at found
    exact plain.loopFree id op (ops ▸ found)
  sameName := by
    exact Table.forall_find?_insert plain.sameName named

theorem mem_of_bindOutputs {ids : List String} {outputs : List Tensor} {name : String}
    {t : Tensor} (found : (c.bindOutputs ids outputs).values.find? name = some t) :
    t ∈ outputs ∨ c.values.find? name = some t := by
  unfold bindOutputs at found
  have known : ∀ pair ∈ ids.zip outputs, pair.2 ∈ outputs :=
    fun pair member => (List.of_mem_zip member).2
  generalize ids.zip outputs = pairs at found known
  induction pairs generalizing c with
  | nil => exact Or.inr found
  | cons pair rest ih =>
    rw [List.foldl_cons] at found
    rcases ih found fun pair later => known pair (List.mem_cons_of_mem _ later) with output | old
    · exact Or.inl output
    · split at old
      · exact Or.inr old
      · change (c.values.insert pair.1 pair.2).find? name = some t at old
        rw [Table.find?_insert] at old
        split at old
        · cases old
          exact Or.inl (known pair (List.mem_cons_self ..))
        · exact Or.inr old

theorem Named.owns (named : Named names c) (node : Model.Node) :
    c.graph.Owns (c.operandsOf node) := by
  intro t member
  obtain ⟨name, _, found⟩ := List.mem_map.mp member
  split at found
  · contradiction
  · exact named.own name t found

/-- In a conversion whose names do not look like results, no result clashes. -/
theorem Named.unclashed (named : Named names c)
    (apart : ∀ name ∈ names, ∀ (kind : OpKind) n,
      name ≠ Graph.resultId (Graph.numbered kind.opType n))
    {given : List Tensor} {d : Draft} (sound : Draft.Sound c.graph given c.graph.counter d) :
    d.Unclashed c.graph := by
  intro op member
  obtain ⟨n, above, _, new⟩ := sound.newOps op member
  obtain ⟨kind, opType⟩ := new.kind
  rw [new.id_eq, ← opType, Graph.isTaken_eq_false_iff, Table.find?_eq_none_iff,
    Table.find?_eq_none_iff]
  constructor
  · intro taken
    rcases named.tensors _ taken with given | ⟨stem, m, bound, made | result⟩
    · exact apart _ given kind n rfl
    · exact Graph.resultId_ne_numbered _ _ _ made
    · have number := (Graph.resultId_numbered_injective result).2
      omega
  · intro taken
    obtain ⟨stem, m, made⟩ := named.ops _ taken
    exact Graph.resultId_ne_numbered _ _ _ made

/-- Lowering a node keeps ids and values in order. -/
theorem Named.lowered (named : Named names c)
    (apart : ∀ name ∈ names, ∀ (kind : OpKind) n,
      name ≠ Graph.resultId (Graph.numbered kind.opType n))
    {node : Model.Node} {source : SourceNode} {outputs : List Tensor} {g' : Graph}
    (done : lowerNode .standard source (c.operandsOf node) c.graph = (.ok outputs, g')) :
    Named names ({ c with graph := g' }.bindOutputs node.outputs outputs) := by
  obtain ⟨t, d, rfl, sound, known, rfl⟩ := lowerNode_sound done
  have owns := named.owns node
  have unclashed := named.unclashed apart sound
  have kept : ∀ id u, c.graph.tensors.find? id = some u →
      (d.attach { c.graph with counter := d.counter }).tensors.find? id = some u := by
    intro id u found
    rw [Draft.tensors_attach]
    exact sound.find?_seated_of_unclashed unclashed found
  have entries := sound.entries_attach
  exact {
    tensors := by
      intro id there
      rw [graph_bindOutputs] at there ⊢
      rw [Draft.counter_attach]
      rw [Draft.tensors_attach, ← Table.contains_iff_mem_keys, Table.contains,
        sound.find?_seated_of_owns owns] at there
      cases drafted : d.drafted? id with
      | some u =>
        obtain ⟨member, rfl⟩ := Draft.mem_of_drafted? drafted
        obtain ⟨n, _, bound, made⟩ := sound.made u member
        rcases made.id_eq with ⟨stem, constant, _⟩ | ⟨opType, result, _⟩
        · exact Or.inr ⟨stem, n, bound, Or.inl constant⟩
        · exact Or.inr ⟨opType, n, bound, Or.inr result⟩
      | none =>
        rw [drafted] at there
        have old := (Table.contains_iff_mem_keys _ _).mp there
        obtain given | ⟨stem, n, bound, made⟩ := named.tensors id old
        · exact Or.inl given
        · exact Or.inr ⟨stem, n, Nat.le_trans bound sound.start_le, made⟩
    ops := by
      intro id there
      rw [graph_bindOutputs, Table.keys, entries, List.map_append] at there
      rcases List.mem_append.mp there with old | new
      · exact named.ops id old
      · obtain ⟨op, member, rfl⟩ := List.mem_map.mp (by simpa using new)
        obtain ⟨n, _, _, new⟩ := sound.newOps op member
        exact ⟨op.opType, n, new.id_eq⟩
    own := by
      intro name u found
      rw [graph_bindOutputs]
      rcases mem_of_bindOutputs found with output | old
      · obtain rfl := List.mem_singleton.mp output
        rcases known with given | drafted
        · exact kept _ _ (Draft.owned_of_present owns given)
        · exact sound.find?_attach_of_mem owns drafted
      · exact kept _ _ (named.own name u old)
    loopFree := by
      intro id op found
      rw [graph_bindOutputs] at found
      rcases sound.op_of_attach found with old | ⟨member, _⟩
      · exact named.loopFree id op old
      · exact sound.loopFree owns unclashed member }

theorem Named.congr (named : Named names c) {c' : Conversion} (graph : c'.graph = c.graph)
    (values : c'.values = c.values) : Named names c' where
  tensors := graph ▸ named.tensors
  ops := graph ▸ named.ops
  own := by
    rw [graph, values]
    exact named.own
  loopFree := graph ▸ named.loopFree

theorem Named.output (named : Named names c) (value : Model.ValueInfo) :
    Named names (c.addOutput value) := by
  unfold addOutput
  split
  · rename_i t found
    have there := named.own value.name t found
    have lookup := Graph.find?_addOutput there
    exact {
      tensors := by
        intro id member
        refine named.tensors id ?_
        rw [← Table.contains_iff_mem_keys, Table.contains] at member ⊢
        rwa [← lookup id]
      ops := named.ops
      own := by
        intro name u stands
        change (c.graph.addOutput t).tensors.find? u.id = some u
        rw [lookup]
        exact named.own name u stands
      loopFree := named.loopFree }
  · exact named.congr rfl rfl

theorem plain_of_stages {m : Model.Graph} {start c₁ c₂ : Conversion}
    (plain : Plain m.givenNames start)
    (first : m.initializers.zipIdx.forM (fun init => addInitializer codec init.1 init.2) start =
      .ok () c₁)
    (second : (m.inputs.zipIdx m.initializers.length).forM
      (fun value => (modify (addInput value.1 value.2) : Step Unit)) c₁ = .ok () c₂) :
    Plain m.givenNames c₂ := by
  have initialized : Plain m.givenNames c₁ := by
    refine initializers_induction (P := fun _ c => Plain m.givenNames c) ?_ plain first
    intro i init data c found _ plain
    have given : init.name ∈ m.givenNames :=
      List.mem_append_left _ (List.mem_map_of_mem (List.mem_of_getElem? found))
    exact plain.enter given rfl rfl rfl rfl
  refine inputs_induction (P := fun _ c => Plain m.givenNames c) ?_ initialized second
  intro i value c found plain
  have given : value.name ∈ m.givenNames :=
    List.mem_append_right _ (List.mem_map_of_mem (List.mem_of_getElem? found))
  unfold addInput
  split
  · exact plain
  · exact plain.enter given rfl rfl rfl rfl

end Conversion

/-- In a converted graph whose names do not look like results no operator reads what it
    writes. -/
theorem Model.convert_named {m : Model} (unclashing : m.graph.Unclashing) {strict : Bool}
    {sourceName : String} {converted : Converted} {warnings : List String}
    (done : m.convert codec .standard strict sourceName = (.ok converted, warnings)) :
    ∃ c : Conversion, converted.graph = c.graph ∧ converted.valueNames = c.values ∧
      Conversion.Named m.graph.givenNames c := by
  refine Model.convert_induction ?_ ?_ ?_ ?_ done
  · intro name c₁ c₂ first second
    exact (Conversion.plain_of_stages (Conversion.plain_start m name) first second).toNamed
  · intro c node source outputs g' named lowered
    exact named.lowered unclashing lowered
  · intro c c' named graph values
    exact named.congr graph values
  · exact fun value c named => named.output value

/-- A lowering overwrites nothing exactly when the results of its operators get ids that are
    not in use; in a conversion that is so when no given name looks like the id of a result. -/
theorem lowering_frames_iff_unclashed (node : SourceNode) (m : Model) :
    (∀ (operands : List (Option Tensor)) (g g' : Graph) (outputs : List Tensor),
      lowerNode .standard node operands g = (.ok outputs, g') → g.Owns operands → g.Numbered →
      ∃ d : Draft, g' = d.attach { g with counter := d.counter } ∧ g'.Numbered ∧
        (d.Frame g g' operands ↔
          ∀ op ∈ g'.opsSince g, g.isTaken (Graph.resultId op.id) = false) ∧
        ∀ op ∈ g'.opsSince g, ∀ t, g.tensors.find? (Graph.resultId op.id) = some t →
          g'.tensors.find? (Graph.resultId op.id) ≠ some t) ∧
    ∀ (strict : Bool) (sourceName : String) (converted : Converted) (warnings : List String),
      m.convert codec .standard strict sourceName = (.ok converted, warnings) →
      m.graph.Unclashing →
      ∀ id op, converted.graph.ops.find? id = some op → ∀ out ∈ op.outputs, out ∉ op.inputs := by
  constructor
  · intro operands g g' outputs done owns numbered
    obtain ⟨t, d, _, sound, _, rfl⟩ := lowerNode_sound done
    refine ⟨d, rfl, sound.numbered_attach numbered owns, ?_, ?_⟩
    · rw [sound.opsSince_attach]
      constructor
      · intro frame op drafted
        by_contra clash
        exact (sound.overwrites numbered owns drafted (Bool.not_eq_false _ ▸ clash)).1 frame
      · exact sound.frame numbered owns
    · rw [sound.opsSince_attach]
      intro op drafted t old
      have taken : g.isTaken (Graph.resultId op.id) = true := by
        simp [Graph.isTaken, Table.contains, old]
      exact (sound.overwrites numbered owns drafted taken).2 t old
  · intro strict sourceName converted warnings done unclashing
    obtain ⟨c, graph, _, named⟩ := Model.convert_named unclashing done
    rw [graph]
    exact named.loopFree

/-- A log-sum-exp that names no axes. -/
def plainLogSumExp : SourceNode := { opType := "ReduceLogSumExp", opset := 1 }

/-- A scalar whose name looks like the result of the first exponential. -/
def likeResult : Tensor :=
  { dtype := .float32, shape := .scalar, data := none, origin := .given 0, id := "Exp_1:0",
    name := "Exp_1:0" }

def graphLikeResult : Graph := Graph.addInput { name := "g" } likeResult

theorem owns_graphLikeResult : graphLikeResult.Owns [some likeResult] := by
  intro t member
  cases List.mem_singleton.mp member
  rfl

theorem numbered_graphLikeResult : graphLikeResult.Numbered :=
  (Graph.numbered_empty "g").addInput rfl fun _ _ found => nomatch found

/-- The input is gone, and the exponential reads what it writes. -/
theorem clashing_name_is_overwritten : graphLikeResult.Owns [some likeResult] ∧
    graphLikeResult.Numbered ∧ ∃ outputs g',
      lowerNode .standard plainLogSumExp [some likeResult] graphLikeResult = (.ok outputs, g') ∧
      graphLikeResult.tensors.find? "Exp_1:0" = some likeResult ∧
      g'.tensors.find? "Exp_1:0" ≠ some likeResult ∧
      (g'.ops.find? "Exp_1").map (fun op => (op.inputs, op.outputs)) =
        some (["Exp_1:0"], ["Exp_1:0"]) := by
  refine ⟨owns_graphLikeResult, numbered_graphLikeResult, _, _, rfl, rfl, ?_, rfl⟩
  intro same
  have origin := congrArg (Option.map Tensor.origin) same
  exact absurd origin (by decide +kernel)

/-- A model of one log-sum-exp. -/
def logSumExpModel : Model :=
  { opsetImports := [("", 18)]
    graph :=
      { name := "m"
        inputs := [⟨"x", .tensor 1 .scalar⟩]
        outputs := [⟨"y", .tensor 1 .scalar⟩]
        nodes := [{ opType := "ReduceLogSumExp", inputs := ["x"], outputs := ["y"] }] } }

theorem unclashing_logSumExpModel : logSumExpModel.graph.Unclashing := by
  intro name given kind n same
  have only : name = "x" := by simpa [Model.Graph.givenNames, logSumExpModel] using given
  have lengths := congrArg String.length same
  have short : "x".length = 1 := rfl
  have suffix : ":0".length = 2 := rfl
  rw [only, Graph.resultId, String.length_append, short, suffix] at lengths
  omega

theorem logSumExpModel_converts : ∃ converted warnings,
    logSumExpModel.convert .current .standard true "m" = (.ok converted, warnings) :=
  Model.exists_converted (by decide +kernel)

/-- The reduction of the same input that takes no elementwise step overwrites nothing, and a
    log-sum-exp of an input with another name reads no result of its own. -/
theorem other_inputs_are_framed :
    (∃ outputs g', lowerNode .standard { plainLogSumExp with opType := "ReduceSum" }
        [some likeResult] graphLikeResult = (.ok outputs, g') ∧
      ∃ d : Draft, g' = d.attach { graphLikeResult with counter := d.counter } ∧
        d.Frame graphLikeResult g' [some likeResult]) ∧
    ∃ converted warnings,
      logSumExpModel.convert .current .standard true "m" = (.ok converted, warnings) ∧
      ∀ id op, converted.graph.ops.find? id = some op → ∀ out ∈ op.outputs, out ∉ op.inputs := by
  obtain ⟨framed, loopFree⟩ := lowering_frames_iff_unclashed
    { plainLogSumExp with opType := "ReduceSum" } logSumExpModel
  constructor
  · refine ⟨_, _, rfl, ?_⟩
    obtain ⟨d, attached, _, whenever, _⟩ := framed [some likeResult] graphLikeResult _ _ rfl
      owns_graphLikeResult numbered_graphLikeResult
    exact ⟨d, attached, whenever.mpr (by decide +kernel)⟩
  · obtain ⟨converted, warnings, done⟩ := logSumExpModel_converts
    exact ⟨converted, warnings, done, loopFree true "m" converted warnings done
      unclashing_logSumExpModel⟩

end ReductionIR
