import ReductionIR.Proofs.Outputs
import ReductionIR.Proofs.Recording
/-
Reductions that are written and converted again. Both sides go along the order of the written
operators: when the operators before it have come back, a node finds tensors like the ones its
operator reads, passes the checks that its operator passed and reduces to a tensor like the result.
-/
namespace ReductionIR

open Draft Stepwise

variable {codec : Codec}

/-! Conversion of what was written -/

/-- An operator was made of another one: of the same type and attributes, on the tensors that the
    ids of the other one stand for. -/
structure Op.ReadsBack (values : Table String Tensor) (op op' : Op) : Prop where
  opType_eq : op'.opType = op.opType
  attributes_eq : op'.attributes = op.attributes
  inputs : List.Forall₂ (fun id id' => ∃ u, values.find? id = some u ∧ u.id = id')
    op.inputs op'.inputs
  outputs : List.Forall₂ (fun id id' => ∃ u, values.find? id = some u ∧ u.id = id')
    op.outputs op'.outputs

theorem Op.ReadsBack.mono {values values' : Table String Tensor} {op op' : Op}
    (back : op.ReadsBack values op')
    (kept : ∀ id u, values.find? id = some u → values'.find? id = some u) :
    op.ReadsBack values' op' :=
  { back with
    inputs := back.inputs.imp fun _ _ ⟨u, found, same⟩ => ⟨u, kept _ u found, same⟩
    outputs := back.outputs.imp fun _ _ ⟨u, found, same⟩ => ⟨u, kept _ u found, same⟩ }

theorem Op.ReadsBack.outputs_unique {values : Table String Tensor} {op op' op'' : Op}
    (first : op.ReadsBack values op') (second : op.ReadsBack values op'') :
    op'.outputs = op''.outputs := by
  refine List.right_unique_forall₂' ?_ first.outputs second.outputs
  rintro id _ _ ⟨u, found, rfl⟩ ⟨v, also, rfl⟩
  rw [Option.some.inj (found.symm.trans also)]

/-- A reduction that is passed over: its result stands for its data. -/
def Op.PassesOn (values : Table String Tensor) (op : Op) : Prop :=
  ∃ x u, op.inputs.head? = some x ∧ values.find? x = some u ∧
    ∀ id ∈ op.outputs, values.find? id = some u

theorem Op.PassesOn.mono {values values' : Table String Tensor} {op : Op}
    (passes : op.PassesOn values)
    (kept : ∀ id u, values.find? id = some u → values'.find? id = some u) :
    op.PassesOn values' := by
  obtain ⟨x, u, first, found, results⟩ := passes
  exact ⟨x, u, first, kept x u found, fun id member => kept id u (results id member)⟩

/-- A conversion after some operators of a graph: what they read and made has come back, and
    nothing else. -/
structure Conversion.Retells (g : Graph) (done : List String) (c : Conversion) : Prop where
  bound : ∀ id t, g.tensors.find? id = some t → g.Known done t →
    ∃ u, c.values.find? id = some u ∧ t.Echoes u
  only : ∀ id u, c.values.find? id = some u → ∃ t, g.tensors.find? id = some t ∧ g.Known done t
  ops : List.Forall₂ (fun op op' => op.ReadsBack c.values op')
    ((Export.opsIn g done).filter fun op => !g.hasEmptyAxes op) c.graph.ops.values
  passed : ∀ op ∈ Export.opsIn g done, g.hasEmptyAxes op = true → op.PassesOn c.values
  made : ∀ key op, c.graph.ops.find? key = some op →
    op.id = key ∧ op.outputs = [Graph.resultId op.id]

namespace Conversion

variable {g : Graph} {order done : List String} {m : Model.Graph} {c : Conversion} {op : Op}

theorem echoes_of_stages (recorded : g.Recorded codec order m) {start c₁ c₂ : Conversion}
    (unbound : start.values = ∅) (blank : start.graph.ops = ∅)
    (first : m.initializers.zipIdx.forM (fun init => addInitializer codec init.1 init.2) start =
      .ok () c₁)
    (second : (m.inputs.zipIdx m.initializers.length).forM
      (fun value => (modify (addInput value.1 value.2) : Step Unit)) c₁ = .ok () c₂) :
    (∀ name u, c₂.values.find? name = some u →
      ∃ t, g.tensors.find? name = some t ∧ t.Resembles u) ∧ c₂.graph.ops = ∅ := by
  have stored : (∀ name u, c₁.values.find? name = some u →
      ∃ t, g.tensors.find? name = some t ∧ t.Resembles u) ∧ c₁.graph.ops = ∅ := by
    refine initializers_induction (P := fun _ c => (∀ name u, c.values.find? name = some u →
      ∃ t, g.tensors.find? name = some t ∧ t.Resembles u) ∧ c.graph.ops = ∅) ?_ ?_ first
    · rintro i init data c found read ⟨known, none_yet⟩
      exact ⟨Table.forall_find?_insert known
        (recorded.initializer_resembles (List.mem_of_getElem? found) read _), none_yet⟩
    · refine ⟨fun name u found => ?_, blank⟩
      rw [unbound] at found
      contradiction
  refine inputs_induction (P := fun _ c => (∀ name u, c.values.find? name = some u →
      ∃ t, g.tensors.find? name = some t ∧ t.Resembles u) ∧ c.graph.ops = ∅) ?_ stored second
  rintro i value c found ⟨known, none_yet⟩
  unfold addInput
  split
  · exact ⟨known, none_yet⟩
  · exact ⟨Table.forall_find?_insert known
      (recorded.input_resembles (List.mem_of_getElem? found) _), none_yet⟩

theorem Retells.of_stages (recorded : g.Recorded codec order m) {start c₁ c₂ : Conversion}
    (unbound : start.values = ∅) (blank : start.graph.ops = ∅)
    (first : m.initializers.zipIdx.forM (fun init => addInitializer codec init.1 init.2) start =
      .ok () c₁)
    (second : (m.inputs.zipIdx m.initializers.length).forM
      (fun value => (modify (addInput value.1 value.2) : Step Unit)) c₁ = .ok () c₂) :
    Retells g [] c₂ := by
  obtain ⟨known, none_yet⟩ := echoes_of_stages recorded unbound blank first second
  have bound : ∀ name, c₂.values.contains name = true ↔ name ∈ m.givenNames := by
    intro name
    rw [bound_of_stages first second, unbound]
    exact or_iff_right Bool.false_ne_true
  exact {
    bound := by
      intro id t found unmade
      rcases Export.given_or_made recorded.wired recorded.writable recorded.written found with
        given | ⟨op, _, _, producer⟩
      · obtain ⟨u, there⟩ := Option.isSome_iff_exists.mp ((bound id).mpr given)
        obtain ⟨t', same, resembles⟩ := known id u there
        obtain rfl := Option.some.inj (found.symm.trans same)
        exact ⟨u, there, resembles.echoes⟩
      · exact absurd (unmade op.id producer) List.not_mem_nil
    only := fun id u found =>
      recorded.unmade_of_given ((bound id).mp (Table.contains_of_find? found))
    ops := by
      rw [none_yet]
      exact List.Forall₂.nil
    passed := fun op member => absurd member List.not_mem_nil
    made := by
      intro key op found
      rw [none_yet] at found
      contradiction }

theorem Retells.operand (retells : Retells g done c) (recorded : g.Recorded codec order m)
    (behind : ∀ p ∈ Export.producers g op, p ∈ done) {id : String} (input : id ∈ op.inputs)
    {t : Tensor} (there : g.tensors.find? id = some t) :
    ∃ u, c.values.find? id = some u ∧ t.Echoes u := by
  exact retells.bound id t there fun p producer =>
    behind p (recorded.wired.mem_producers input there producer)

theorem Retells.unbound (retells : Retells g done c) (recorded : g.Recorded codec order m)
    (found : g.ops.find? op.id = some op) (new : op.id ∉ done) :
    c.values.find? (Graph.resultId op.id) = none := by
  cases there : c.values.find? (Graph.resultId op.id) with
  | none => rfl
  | some u =>
    obtain ⟨t, held, known⟩ := retells.only _ u there
    obtain ⟨_, placed⟩ := recorded.wired.placed op.id op found
    obtain ⟨t', result, _, producer⟩ := placed.result
    obtain rfl := Option.some.inj (held.symm.trans result)
    exact absurd (known op.id producer) new

section Extend

variable (retells : Retells g done c) (recorded : g.Recorded codec order m)
  (found : g.ops.find? op.id = some op) (new : op.id ∉ done) {out u : Tensor}
  (result : g.tensors.find? (Graph.resultId op.id) = some out) {c' : Conversion}
  (values : ∀ name, c'.values.find? name =
    if name = Graph.resultId op.id then some u else c.values.find? name)

include retells recorded found new values in
theorem Retells.kept {name : String} {v : Tensor} (there : c.values.find? name = some v) :
    c'.values.find? name = some v := by
  rw [values, if_neg, there]
  rintro rfl
  rw [retells.unbound recorded found new] at there
  contradiction

include retells recorded found new result values in
/-- One more result goes on with the story, whether an operator was made for it or not. -/
theorem Retells.extend (echoes : out.Echoes u) (added : List Op)
    (entries : c'.graph.ops.entries = c.graph.ops.entries ++ added.map fun op => (op.id, op))
    (reads : List.Forall₂ (fun op op' => op.ReadsBack c'.values op')
      ([op].filter fun op => !g.hasEmptyAxes op) added)
    (named : ∀ op' ∈ added, op'.outputs = [Graph.resultId op'.id])
    (passes : g.hasEmptyAxes op = true → op.PassesOn c'.values) :
    Retells g (done ++ [op.id]) c' := by
  have kept : ∀ name v, c.values.find? name = some v → c'.values.find? name = some v :=
    fun _ _ => retells.kept recorded found new values
  have split := Export.opsIn_concat found done
  exact {
    bound := by
      intro id t held known
      by_cases same : id = Graph.resultId op.id
      · subst same
        obtain rfl := Option.some.inj (result.symm.trans held)
        exact ⟨u, by rw [values, if_pos rfl], echoes⟩
      · have before := ((Graph.known_concat_iff recorded.wired found held).mp known).resolve_right same
        obtain ⟨v, bound, like⟩ := retells.bound id t held before
        exact ⟨v, kept id v bound, like⟩
    only := by
      intro id v bound
      rw [values] at bound
      split at bound
      · rename_i same
        have held := same ▸ result
        exact ⟨out, held, (Graph.known_concat_iff recorded.wired found held).mpr (Or.inr same)⟩
      · obtain ⟨t, held, known⟩ := retells.only id v bound
        exact ⟨t, held, (Graph.known_concat_iff recorded.wired found held).mpr (Or.inl known)⟩
    ops := by
      have joined : c'.graph.ops.values = c.graph.ops.values ++ added := by
        rw [Table.values, entries, List.map_append, List.map_map]
        exact congrArg _ (List.map_id added)
      rw [split, List.filter_append, joined]
      exact List.rel_append (retells.ops.imp fun _ _ back => back.mono kept) reads
    passed := by
      intro earlier member empty
      rw [split] at member
      rcases List.mem_append.mp member with old | last
      · exact (retells.passed earlier old empty).mono kept
      · obtain rfl := List.mem_singleton.mp last
        exact passes empty
    made := by
      intro key op' there
      have entry := Table.mem_of_find? there
      rw [entries] at entry
      rcases List.mem_append.mp entry with old | last
      · exact retells.made key op' (Table.find?_of_mem old)
      · obtain ⟨_, member, same⟩ := List.mem_map.mp last
        cases same
        exact ⟨rfl, named op' member⟩ }

end Extend

theorem find?_bindResult (recorded : g.Recorded codec order m)
    (found : g.ops.find? op.id = some op) (c : Conversion) (h : Graph) (u : Tensor)
    (name : String) :
    (({ c with graph := h } : Conversion).bindOutputs op.outputs [u]).values.find? name =
      if name = Graph.resultId op.id then some u else c.values.find? name := by
  rw [find?_bindOutputs, recorded.wired.outputs_eq found, List.head?_cons]
  by_cases same : name = Graph.resultId op.id
  · rw [if_pos ⟨congrArg some same.symm, same ▸ Graph.resultId_ne_empty op.id⟩, if_pos same]
  · rw [if_neg fun both => same (Option.some.inj both.1).symm, if_neg same]

section Step

variable {kind : ReduceKind} {keepDims : Bool} {data axes out x a : Tensor} {source : SourceNode}
  (retells : Retells g done c) (recorded : g.Recorded codec order m)
  (found : g.ops.find? op.id = some op) (new : op.id ∉ done)
  (reduces : g.Reduces op kind keepDims data axes out)
  (ofData : c.values.find? data.id = some x) (likeData : data.Echoes x)
  (ofAxes : c.values.find? axes.id = some a) (likeAxes : axes.Echoes a)

include reduces ofData ofAxes

theorem obstacle?_reducing : c.obstacle? (Export.reducing kind keepDims op) = none := by
  refine obstacle?_eq_none_iff.mpr ⟨fun name member => Or.inr ?_, List.mem_cons_self ..⟩
  change name ∈ op.inputs at member
  rw [reduces.inputs_eq] at member
  rcases List.mem_pair.mp member with rfl | rfl
  · exact Table.contains_of_find? ofData
  · exact Table.contains_of_find? ofAxes

theorem operandsOf_reducing :
    c.operandsOf (Export.reducing kind keepDims op) = [some x, some a] := by
  have used := reduces.used
  change op.inputs.map _ = _
  rw [reduces.inputs_eq] at used ⊢
  simp only [List.mem_cons, List.not_mem_nil, or_false, not_or] at used
  simp [Ne.symm used.1, Ne.symm used.2, ofData, ofAxes]

include retells recorded found new likeData likeAxes

omit ofAxes in
/-- Without axes, the data comes back as the result. -/
theorem Retells.passed_on (asks : source.Asks kind keepDims)
    (empty : g.hasEmptyAxes op = true) :
    ∃ h, lowerNode .standard source [some x, some a] c.graph = (.ok [x], h) ∧
      Retells g (done ++ [op.id]) (({ c with graph := h } : Conversion).bindOutputs op.outputs [x])
      := by
  have same := likeAxes.resembles reduces.axes_ne_scalar
  have none_named := reduces.hasEmptyAxes_eq ▸ empty
  obtain ⟨h, lowered, entries⟩ := asks.lowers_identity
    (likeData.dtype ▸ reduces.accepted) (reduces.checked.congr likeData.toLikens same) c.graph
    (same.likens.shape ▸ none_named)
  -- only a scalar is reduced over no axes, so the data is as good as the result
  obtain ⟨ofScalar, scalar⟩ := reduces.scalar_of_empty none_named
  have echoes : out.Echoes x := {
    dtype := reduces.dtype_eq.trans likeData.dtype
    shape := scalar.trans (ofScalar.symm.trans likeData.shape)
    data := Or.inr ⟨scalar, reduces.unstored⟩ }
  have values := find?_bindResult recorded found c h x
  have graph := graph_bindOutputs op.outputs [x] { c with graph := h }
  refine ⟨h, lowered, ?_⟩
  generalize ({ c with graph := h } : Conversion).bindOutputs op.outputs [x] = c' at values graph ⊢
  refine retells.extend recorded found new reduces.ofResult values echoes [] ?_ ?_ ?_ ?_
  · rw [graph, entries]
    exact (List.append_nil _).symm
  · simp [empty]
  · exact fun _ member => absurd member List.not_mem_nil
  · intro _
    refine ⟨data.id, x, by rw [reduces.inputs_eq]; rfl, ?_, fun id member => ?_⟩
    · rw [values, ofData, ite_self]
    · rw [recorded.wired.outputs_eq found, List.mem_singleton] at member
      rw [values, if_pos member]

/-- Axes that are there are reduced over once more. -/
theorem Retells.reduced (asks : source.Asks kind keepDims)
    (filled : g.hasEmptyAxes op = false) :
    ∃ u h, lowerNode .standard source [some x, some a] c.graph = (.ok [u], h) ∧
      Retells g (done ++ [op.id]) (({ c with graph := h } : Conversion).bindOutputs op.outputs [u])
      := by
  have same := likeAxes.resembles reduces.axes_ne_scalar
  have some_named := reduces.hasEmptyAxes_eq ▸ filled
  have leaves := reduces.leaves
  rw [likeData.shape, same] at leaves
  obtain ⟨u, h, op', lowered, facts, named, ⟨n, source?, form⟩, entries⟩ :=
    asks.lowers_reduced (likeData.dtype ▸ reduces.accepted)
      (reduces.checked.congr likeData.toLikens same) c.graph (same.likens.shape ▸ some_named) leaves
  have echoes : out.Echoes u := {
    dtype := reduces.dtype_eq.trans (likeData.dtype.trans (congrArg Facts.dtype facts).symm)
    shape := (congrArg Facts.shape facts).symm
    data := Or.inl ((congrArg Facts.data facts).trans reduces.unstored.symm) }
  have made : op'.outputs = [Graph.resultId op'.id] := by
    rw [form]
    rfl
  have values := find?_bindResult recorded found c h u
  have kept : ∀ {name v}, c.values.find? name = some v → name ≠ Graph.resultId op.id := by
    rintro _ v there rfl
    rw [retells.unbound recorded found new] at there
    contradiction
  have graph := graph_bindOutputs op.outputs [u] { c with graph := h }
  refine ⟨u, h, lowered, ?_⟩
  generalize ({ c with graph := h } : Conversion).bindOutputs op.outputs [u] = c' at values graph ⊢
  refine retells.extend recorded found new reduces.ofResult values echoes [op'] ?_ ?_ ?_ ?_
  · rw [graph, entries]
    rfl
  · rw [List.filter_singleton, filled]
    refine .cons ?_ .nil
    exact {
      opType_eq := form ▸ reduces.opType_eq.symm
      attributes_eq := form ▸ reduces.attributes_eq.symm
      inputs := by
        rw [reduces.inputs_eq, form]
        refine .cons ⟨x, ?_, rfl⟩ (.cons ⟨a, ?_, rfl⟩ .nil)
        · rw [values, if_neg (kept ofData), ofData]
        · rw [values, if_neg (kept ofAxes), ofAxes]
      outputs := by
        rw [recorded.wired.outputs_eq found, made]
        exact .cons ⟨u, by rw [values, if_pos rfl], named⟩ .nil }
  · intro other member
    rw [List.mem_singleton.mp member, made]
  · intro empty
    rw [filled] at empty
    contradiction

end Step

/-- The node of an operator whose producers have come back is lowered. -/
theorem Retells.step (retells : Retells g done c) (recorded : g.Recorded codec order m)
    (found : g.ops.find? op.id = some op) (behind : ∀ p ∈ Export.producers g op, p ∈ done)
    (new : op.id ∉ done) {opset : Int} (late : 18 ≤ opset) (position : Nat) :
    ∃ c', nodeStep .standard true opset (Export.nodeOf codec op) position c = .ok () c' ∧
      Retells g (done ++ [op.id]) c' := by
  obtain ⟨kind, keepDims, data, axes, out, reduces⟩ := recorded.reductions op.id op found
  have node : Export.nodeOf codec op = Export.reducing kind keepDims op := by
    rw [Export.nodeOf, reduces.pieceOf_eq]
    rfl
  obtain ⟨source, read, asks⟩ := reduces.asks late (some (position : Int))
  have inputs : data.id ∈ op.inputs ∧ axes.id ∈ op.inputs := by
    rw [reduces.inputs_eq]
    simp
  obtain ⟨x, ofData, likeData⟩ := retells.operand recorded behind inputs.1 reduces.ofData
  obtain ⟨a, ofAxes, likeAxes⟩ := retells.operand recorded behind inputs.2 reduces.ofAxes
  have operands := operandsOf_reducing reduces ofData ofAxes
  have clear := obstacle?_reducing reduces ofData ofAxes
  rw [node]
  cases empty : g.hasEmptyAxes op with
  | true =>
    obtain ⟨h, lowered, later⟩ := retells.passed_on recorded found new reduces ofData likeData
      likeAxes asks empty
    exact ⟨_, nodeStep_of_lowers read ⟨clear, operands ▸ lowered⟩, later⟩
  | false =>
    obtain ⟨u, h, lowered, later⟩ := retells.reduced recorded found new reduces ofData likeData
      ofAxes likeAxes asks empty
    exact ⟨_, nodeStep_of_lowers read ⟨clear, operands ▸ lowered⟩, later⟩

/-- All nodes are lowered, in their order. -/
theorem Retells.loop (start : Retells g [] c) (recorded : g.Recorded codec order m) {opset : Int}
    (late : 18 ≤ opset) {before after : List String} (split : order = before ++ after) :
    ∃ c', nodesStep true opset ((Export.opsIn g before).map (Export.nodeOf codec)) c = .ok () c' ∧
      Retells g before c' := by
  -- from the end, for an operator reads what those before it made
  induction before using List.reverseRecOn generalizing after with
  | nil => exact ⟨c, rfl, start⟩
  | append_singleton before id ih =>
    rw [List.append_assoc, List.singleton_append] at split
    obtain ⟨c₁, passed, retells⟩ := ih split
    obtain ⟨op, found⟩ := (recorded.ordered.mem_iff id).mp (by simp [split])
    have named := recorded.wired.opKeyed id op found
    subst named
    have behind := recorded.ordered.behind before op.id after split op found
    have new : op.id ∉ before := by
      have once := split ▸ recorded.ordered.nodup
      exact fun member => (List.nodup_append.mp once).2.2 _ member _ (List.mem_cons_self ..) rfl
    obtain ⟨c₂, done, later⟩ := retells.step recorded found behind new late
      ((Export.opsIn g before).map (Export.nodeOf codec)).length
    refine ⟨c₂, ?_, later⟩
    rw [Export.opsIn_concat found, List.map_append, List.map_singleton]
    exact nodesStep_concat_eq_ok_iff.mpr ⟨c₁, passed, done⟩

theorem ops_addOutputs (outputs : List Model.ValueInfo) (c : Conversion) :
    (addOutputs outputs c).graph.ops = c.graph.ops := by
  induction outputs generalizing c with
  | nil => rfl
  | cons value rest ih =>
    have one : (c.addOutput value).graph.ops = c.graph.ops := by
      unfold addOutput
      split <;> rfl
    exact (ih _).trans one

end Conversion

/-! A graph and what comes back of it -/

/-- A converted graph of reductions and the one that it comes back as. -/
structure Converted.ReadsBack (converted again : Converted) : Prop where
  tensors : ∀ id, id ∈ converted.graph.inputs ∨ converted.graph.tensors.contains id = true ∨
      (∃ op ∈ converted.graph.ops.values, id ∈ op.outputs) →
    ∃ t u, converted.graph.tensors.find? id = some t ∧ again.valueNames.find? id = some u ∧
      again.graph.tensors.find? u.id = some u ∧ t.Likens u ∧ (t.data ≠ none → u.data = t.data)
  ops : ∃ order : List Op, order.Perm converted.graph.ops.values ∧
    List.Forall₂ (fun op op' => op.ReadsBack again.valueNames op')
      (order.filter fun op => !converted.graph.hasEmptyAxes op) again.graph.ops.values
  once : ∀ op ∈ converted.graph.ops.values, converted.graph.hasEmptyAxes op = false →
    ∃! op', op' ∈ again.graph.ops.values ∧ op.ReadsBack again.valueNames op'
  passed : ∀ op ∈ converted.graph.ops.values, converted.graph.hasEmptyAxes op = true →
    op.PassesOn again.valueNames

namespace Conversion.Retells

variable {g : Graph} {order : List String} {c : Conversion} {op : Op}

theorem echoed (retells : Retells g order c) {m : Model.Graph} (recorded : g.Recorded codec order m)
    {id : String} {t : Tensor} (found : g.tensors.find? id = some t) :
    ∃ u, c.values.find? id = some u ∧ t.Echoes u := by
  refine retells.bound id t found fun p made => ?_
  obtain ⟨maker, known, _⟩ := recorded.wired.producer_known found made
  exact (recorded.ordered.mem_iff p).mpr ⟨maker, known⟩

theorem existsUnique (retells : Retells g order c) (member : op ∈ Export.opsIn g order)
    (filled : g.hasEmptyAxes op = false) :
    ∃! op', op' ∈ c.graph.ops.values ∧ op.ReadsBack c.values op' := by
  have listed : op ∈ (Export.opsIn g order).filter fun op => !g.hasEmptyAxes op :=
    List.mem_filter.mpr ⟨member, by rw [filled]; rfl⟩
  obtain ⟨op', there, back⟩ := exists_of_forall₂ retells.ops listed
  refine ⟨op', ⟨there, back⟩, fun other ⟨also, again⟩ => ?_⟩
  -- what was made of one operator has the same result, which tells operators apart
  have same : other.outputs = op'.outputs := again.outputs_unique back
  obtain ⟨key, found⟩ := Table.exists_key_of_mem_values there
  obtain ⟨key', found'⟩ := Table.exists_key_of_mem_values also
  obtain ⟨rfl, outputs⟩ := retells.made key op' found
  obtain ⟨rfl, outputs'⟩ := retells.made key' other found'
  rw [outputs, outputs', List.singleton_inj] at same
  rw [Graph.resultId_injective same] at found'
  exact Option.some.inj (found'.symm.trans found)

/-- Once all operators have come back, the graph has. -/
theorem readsBack {converted again : Converted} {m : Model.Graph}
    (retells : Retells converted.graph order c) (recorded : converted.graph.Recorded codec order m)
    (values : again.valueNames = c.values) (ops : again.graph.ops.values = c.graph.ops.values)
    (held : ∀ id u, c.values.find? id = some u → again.graph.tensors.find? u.id = some u) :
    converted.ReadsBack again := by
  have perm := Export.opsIn_perm recorded.ordered
  exact {
    tensors := by
      intro id known
      obtain ⟨t, found⟩ := recorded.exists_tensor known
      obtain ⟨u, bound, echoes⟩ := retells.echoed recorded found
      refine ⟨t, u, found, values ▸ bound, held id u bound, echoes.toLikens, fun stored => ?_⟩
      exact echoes.data.resolve_right fun computed => stored computed.2
    ops := by
      rw [values, ops]
      exact ⟨Export.opsIn converted.graph order, perm, retells.ops⟩
    once := by
      intro op member filled
      rw [values, ops]
      exact retells.existsUnique (perm.mem_iff.mpr member) filled
    passed := by
      intro op member empty
      rw [values]
      exact retells.passed op (perm.mem_iff.mpr member) empty }

end Conversion.Retells

/-- What a strict conversion made of reductions alone is written, at every opset of a file, as a
    model that a strict conversion takes back: all ids stand for tensors of the same element types
    and shapes, and each reduction over some axes comes back as one operator on what its operands
    stand for, in an order of the graph. A reduction over no axes stands for its data. -/
theorem written_reductions_read_back (codec : Codec) (laws : codec.Lawful) (m : Model)
    (storable : m.graph.Storable codec) (unclashing : m.graph.Unclashing) (sourceName : String)
    (converted : Converted) (warnings : List String)
    (done : m.convert codec .standard true sourceName = (.ok converted, warnings))
    (plain : converted.graph.OnlyReduces) (opset : Int) (least : 18 ≤ opset) (greatest : opset ≤ 28)
    (name : String) :
    ∃ written again noted, converted.graph.toModel codec opset true = .ok written ∧
      written.convert codec .standard true name = (.ok again, noted) ∧
      converted.ReadsBack again := by
  obtain ⟨c, graph, _, readable⟩ := Model.convert_readable laws unclashing storable done
  rw [graph] at plain
  obtain ⟨written, order, ordered, form, exported⟩ :=
    Export.toModel_eq laws readable.wired readable.writable least greatest
  have recorded : c.graph.Recorded codec order written.graph := {
    wired := readable.wired
    writable := readable.writable
    whole := readable.whole
    reductions := readable.reductions plain
    ordered
    written := form }
  have imported := Graph.defaultOpset_of_toModel (exported true)
  -- the stages of the second conversion: initializers, inputs, and nodes in their order
  obtain ⟨c₁, first⟩ : ∃ c₁, written.graph.initializers.zipIdx.forM
      (fun init => Conversion.addInitializer codec init.1 init.2) (written.startOf name) =
        .ok () c₁ := by
    refine Conversion.exists_initializers_iff.mpr fun init member => ?_
    obtain ⟨_, data, _, _, read⟩ := recorded.array_eq member
    exact ⟨data, read⟩
  have second := Conversion.forM_modify (fun value => Conversion.addInput value.1 value.2)
    (written.graph.inputs.zipIdx written.graph.initializers.length) c₁
  have entered := Conversion.Retells.of_stages recorded rfl rfl first second
  obtain ⟨c₃, third, retells⟩ := entered.loop recorded least (List.append_nil order).symm
  rw [← Export.nodes_eq readable.wired ordered laws readable.writable form] at third
  have converts : written.convert codec .standard true name = _ :=
    Model.convert_of_stages written.graph.nodes written.graph.outputs imported first second third
  refine ⟨written, _, _, graph ▸ exported true, converts, ?_⟩
  rw [← graph] at recorded retells
  have apart := recorded.unclashing (graph ▸ readable.sourced) unclashing
  have values := (Conversion.kept_of_outputs written.graph.outputs c₃).1
  have operators := congrArg Table.values (Conversion.ops_addOutputs written.graph.outputs c₃)
  refine retells.readsBack recorded values operators fun id u bound => ?_
  exact Model.find?_of_bound apart converts (values ▸ bound)

/-! Reductions of all sorts -/

/-- Fixed axes of an open shape, axes that are stored and axes that are fed for an open rank, and a
    scalar that has none. -/
def fourReductions : Model :=
  { opsetImports := [("", 13)]
    graph :=
      { name := "m"
        inputs := [⟨"x", .tensor 1 (.ranked [.named "n", .known 3])⟩,
          ⟨"y", .tensor 1 .unknownRank⟩, ⟨"s", .tensor 1 .scalar⟩, ⟨"r", .tensor 7 (.static [1])⟩]
        outputs := [⟨"v", .tensor 1 .unknownRank⟩, ⟨"w", .tensor 1 .unknownRank⟩,
          ⟨"t", .tensor 1 .unknownRank⟩]
        initializers := [⟨"a", 7, [1], [.int 0], true⟩]
        nodes :=
          [{ opType := "ReduceMax", inputs := ["x"], outputs := ["u"]
             attributes := [{ name := "axes", data := .ints [-1] },
               { name := "keepdims", data := .int 0 }] },
           { opType := "ReduceSum", inputs := ["u", "a"], outputs := ["v"] },
           { opType := "ReduceSum", inputs := ["y", "r"], outputs := ["w"] },
           { opType := "ReduceMean", inputs := ["s"], outputs := ["t"] }] } }

/-- Three of its reductions come back, and the one of the scalar stands for it. -/
theorem four_reductions_read_back : ∃ converted warnings written again noted,
    fourReductions.convert .current .standard true "m" = (.ok converted, warnings) ∧
    converted.graph.ops.values.map converted.graph.hasEmptyAxes = [false, false, false, true] ∧
    converted.graph.toModel .current 18 true = .ok written ∧
    written.convert .current .standard true "again" = (.ok again, noted) ∧
    converted.ReadsBack again := by
  have storable : fourReductions.graph.Storable .current := by
    constructor
    · intro value member dims shape
      simp only [fourReductions, List.mem_cons, List.not_mem_nil, or_false] at member
      rcases member with rfl | rfl | rfl | rfl <;> cases shape <;> decide
    · intro init member data read
      obtain rfl := List.mem_singleton.mp member
      cases read
      intro dims shape
      cases shape
      decide
  obtain ⟨converted, warnings, done⟩ : ∃ converted warnings,
      fourReductions.convert .current .standard true "m" = (.ok converted, warnings) :=
    Model.exists_converted (by decide +kernel)
  have facts : (fourReductions.convert .current .standard true "m").1.toOption.map (fun converted =>
      (decide converted.graph.OnlyReduces,
        converted.graph.ops.values.map converted.graph.hasEmptyAxes)) =
      some (true, [false, false, false, true]) := by
    decide +kernel
  rw [done] at facts
  obtain ⟨plain, empty⟩ : decide converted.graph.OnlyReduces = true ∧
      converted.graph.ops.values.map converted.graph.hasEmptyAxes =
        [false, false, false, true] := by
    simpa using Option.some.inj facts
  obtain ⟨written, again, noted, exported, converts, back⟩ := written_reductions_read_back
    .current Codec.current_lawful fourReductions storable
    (Model.Graph.unclashing_of_plain (by decide +kernel)) "m" converted warnings done
    (of_decide_eq_true plain) 18 (by decide) (by decide) "again"
  exact ⟨converted, warnings, written, again, noted, done, empty, exported, converts, back⟩

end ReductionIR
