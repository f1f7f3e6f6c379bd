import Mathlib.Data.List.Perm.Subperm
import ReductionIR.Proofs.Agreement
import ReductionIR.Proofs.ModelRuns
/-
The outputs of a strict conversion. Every node is lowered, so every name that is defined stands
for a tensor. Tensors become outputs in the order of the model, and one that is an output already
does not come again, so two names of one tensor make one output.
-/
namespace ReductionIR

open Stepwise

variable {codec : Codec}

/-- The names a model defines: given ones, and first outputs of nodes. -/
def Model.Graph.definedNames (m : Model.Graph) : List String :=
  m.givenNames ++ (m.nodes.filterMap fun node => node.outputs.head?).filter (· ≠ "")

namespace Graph

theorem listed_eraseDups (id : String) (ids : List String) :
    listed id ids.eraseDups = (ids ++ [id]).eraseDups := by
  rw [List.eraseDups_append]
  unfold listed
  by_cases there : id ∈ ids
  · simp [there, List.removeAll]
  · simp [there, List.removeAll, List.eraseDups_cons]

theorem eraseDups_of_nodup {ids : List String} (once : ids.Nodup) : ids.eraseDups = ids := by
  induction ids using List.reverseRecOn with
  | nil => rfl
  | append_singleton ids id ih =>
    obtain ⟨earlier, _, apart⟩ := List.nodup_append.mp once
    have new : id ∉ ids := fun there => apart id there id (List.mem_singleton_self id) rfl
    rw [← listed_eraseDups, ih earlier, listed, if_neg new]

theorem nodup_eraseDups (ids : List String) : ids.eraseDups.Nodup := by
  induction ids using List.reverseRecOn with
  | nil => exact List.nodup_nil
  | append_singleton ids id ih =>
    rw [← listed_eraseDups]
    exact nodup_listed ih id

theorem outputs_foldl_addOutput {g : Graph} (none_yet : g.outputs = []) (ts : List Tensor) :
    (ts.foldl addOutput g).outputs = (ts.map Tensor.id).eraseDups := by
  induction ts using List.reverseRecOn with
  | nil =>
    rw [List.foldl_nil, none_yet]
    rfl
  | append_singleton ts t ih =>
    rw [List.foldl_append, List.foldl_cons, List.foldl_nil, List.map_append, List.map_singleton,
      ← listed_eraseDups, ← ih]
    rfl

theorem find?_foldl_addOutput {ts : List Tensor} (apart : (ts.map Tensor.id).Nodup) (g : Graph)
    {t : Tensor} (member : t ∈ ts) : (ts.foldl addOutput g).tensors.find? t.id = some t := by
  induction ts using List.reverseRecOn with
  | nil => contradiction
  | append_singleton ts u ih =>
    rw [List.foldl_append, List.foldl_cons, List.foldl_nil]
    change ((ts.foldl addOutput g).tensors.insert u.id u).find? t.id = some t
    rw [List.map_append, List.map_singleton] at apart
    obtain ⟨earlier, _, other⟩ := List.nodup_append.mp apart
    rcases List.mem_append.mp member with early | last
    · rw [Table.find?_insert_of_ne
        (other t.id (List.mem_map_of_mem early) u.id (List.mem_singleton_self _))]
      exact ih earlier early
    · obtain rfl := List.mem_singleton.mp last
      exact Table.find?_insert_self ..

section Own

variable {g : Graph} {ts : List Tensor}

theorem tensorsOf_map (own : ∀ t ∈ ts, g.tensors.find? t.id = some t) :
    g.tensorsOf (ts.map Tensor.id) = ts := by
  unfold tensorsOf
  rw [List.filterMap_map]
  calc ts.filterMap (g.tensors.find? ∘ Tensor.id)
      = ts.filterMap some := List.filterMap_congr own
    _ = ts := List.filterMap_some

theorem tensorsOf_eraseDups (own : ∀ t ∈ ts, g.tensors.find? t.id = some t) :
    g.tensorsOf (ts.map Tensor.id).eraseDups = ts.eraseDupsBy fun t u => t.id == u.id := by
  -- by the length: what comes next is the rest without the ids that are done
  induction count : ts.length using Nat.strongRecOn generalizing ts with
  | ind n ih =>
    cases ts with
    | nil => rfl
    | cons t rest =>
      let later := rest.filter fun u => decide ((u.id == t.id) = false)
      have fewer : later.length < n := by
        have bound : later.length ≤ rest.length := List.length_filter_le ..
        rw [List.length_cons] at count
        omega
      have also : ∀ u ∈ later, g.tensors.find? u.id = some u := by
        intro u member
        exact own u (List.mem_cons_of_mem t (List.mem_filter.mp member).1)
      have ids : (rest.map Tensor.id).filter (fun id => !id == t.id) = later.map Tensor.id := by
        rw [List.filter_map]
        congr 1
        apply List.filter_congr
        intro u _
        by_cases same : u.id = t.id <;> simp [same]
      rw [List.eraseDupsBy_cons, List.map_cons, List.eraseDups_cons, ids]
      have here := own t List.mem_cons_self
      rw [tensorsOf, List.filterMap_cons, here]
      exact congrArg (t :: ·) (ih later.length fewer also rfl)

end Own

theorem tensorsOf_foldl_addOutput {g : Graph} (none_yet : g.outputs = []) {ts : List Tensor}
    (apart : (ts.map Tensor.id).Nodup) :
    (ts.foldl addOutput g).tensorsOf (ts.foldl addOutput g).outputs = ts := by
  rw [outputs_foldl_addOutput none_yet, eraseDups_of_nodup apart]
  exact tensorsOf_map fun t member => find?_foldl_addOutput apart g member

theorem nodup_of_length_tensorsOf {g : Graph} {ts : List Tensor}
    (count : (g.tensorsOf (ts.map Tensor.id).eraseDups).length = ts.length) :
    (ts.map Tensor.id).Nodup := by
  have found : (g.tensorsOf (ts.map Tensor.id).eraseDups).length ≤
      (ts.map Tensor.id).eraseDups.length := List.length_filterMap_le ..
  have distinct := nodup_eraseDups (ts.map Tensor.id)
  have known : (ts.map Tensor.id).eraseDups ⊆ ts.map Tensor.id :=
    fun id member => List.mem_eraseDups.mp member
  have same := (distinct.subperm known).perm_of_length_le (by rw [List.length_map]; omega)
  exact same.nodup distinct

end Graph

namespace Conversion

variable {opset : Int} {start c : Conversion} {nodes : List Model.Node}

theorem keptNodes_of_lowered {fates : List (Option NodeFailure)}
    (count : fates.length = nodes.length) (lowered : ∀ fate ∈ fates, fate = none) :
    keptNodes nodes fates = nodes := by
  have all : ∀ entry ∈ nodes.zip fates, entry.2.isNone = true := by
    rintro ⟨node, fate⟩ member
    rw [lowered fate (List.of_mem_zip member).2]
    rfl
  rw [keptNodes, List.filter_eq_self.mpr all, List.map_fst_zip (Nat.le_of_eq count.symm)]

theorem bound_of_strict (done : nodesStep true opset nodes start = .ok () c) (name : String) :
    c.values.contains name = true ↔ start.values.contains name = true ∨
      name ≠ "" ∧ ∃ node ∈ nodes, node.outputs.head? = some name := by
  rcases in_step_or_fails opset start nodes with ⟨same, clean⟩ | ⟨i, failure, c', first⟩
  · obtain ⟨fates, collected⟩ := nodesStep_eq_ok_iff.mp (same ▸ done)
    have grown := collected.failures_eq
    rw [clean c done, List.self_eq_append_right, List.filterMap_eq_nil_iff] at grown
    rw [collected.bound_iff, keptNodes_of_lowered collected.length_eq grown]
  · cases (nodesStep_of_take (i + 1) first.strictly).symm.trans done

theorem graph_addOutputs {outputs : List Model.ValueInfo} {ts : List Tensor}
    {values : Table String Tensor} (same : c.values = values)
    (bound : List.Forall₂ (fun value t => values.find? value.name = some t) outputs ts) :
    (addOutputs outputs c).graph = ts.foldl Graph.addOutput c.graph := by
  induction bound generalizing c with
  | nil => rfl
  | @cons value t rest ts here later ih =>
    have one : c.addOutput value = { c with graph := c.graph.addOutput t } := by
      unfold addOutput
      rw [same, here]
    change (addOutputs rest (c.addOutput value)).graph = _
    rw [one]
    exact ih same

theorem exists_name {outputs : List Model.ValueInfo} {ts : List Tensor}
    {values : Table String Tensor}
    (bound : List.Forall₂ (fun value t => values.find? value.name = some t) outputs ts)
    {t : Tensor} (member : t ∈ ts) : ∃ name, values.find? name = some t := by
  obtain ⟨value, _, found⟩ := exists_of_forall₂ bound.flip member
  exact ⟨value.name, found⟩

theorem exists_bound {outputs : List Model.ValueInfo}
    (bound : ∀ value ∈ outputs, c.values.contains value.name = true) :
    ∃ ts, List.Forall₂ (fun value t => c.values.find? value.name = some t) outputs ts := by
  induction outputs with
  | nil => exact ⟨[], .nil⟩
  | cons value rest ih =>
    rw [List.forall_mem_cons] at bound
    obtain ⟨t, here⟩ := Option.isSome_iff_exists.mp bound.1
    obtain ⟨ts, later⟩ := ih bound.2
    exact ⟨t :: ts, .cons here later⟩

end Conversion

open Conversion

theorem Model.Enters.no_outputs {m : Model} {sourceName : String} {opset : Int}
    {start c : Conversion} {strict : Bool} {nodes : List Model.Node}
    (enters : m.Enters codec sourceName opset start)
    (third : nodesStep strict opset nodes start = .ok () c) : c.graph.outputs = [] := by
  obtain ⟨_, c₁, first, second⟩ := enters
  have initialized : c₁.graph.outputs = [] :=
    initializers_induction (P := fun _ c => c.graph.outputs = [])
      (fun _ _ _ _ _ _ same => same) rfl first
  have entered : start.graph.outputs = [] := by
    refine inputs_induction (P := fun _ c => c.graph.outputs = []) ?_ initialized second
    intro i value c _ same
    unfold addInput
    split <;> exact same
  refine nodes_induction (P := fun _ c => c.graph.outputs = []) ?_ entered third
  intro i node c c' _ same turn
  obtain ⟨source, _, ⟨_, outputs, g', lowered, rfl⟩ | ⟨_, graph, _⟩⟩ := nodeStep_eq_ok turn
  · obtain ⟨t, d, rfl, _, _, rfl⟩ := lowerNode_sound lowered
    rw [graph_bindOutputs, Draft.attach_eq, Graph.rest_foldl_addNode, Draft.rest_seated]
    exact same
  · rw [graph]
    exact same

theorem Model.Enters.exists_outputs {m : Model} {sourceName : String} {opset : Int}
    {start c : Conversion} (enters : m.Enters codec sourceName opset start)
    (third : nodesStep true opset m.graph.nodes start = .ok () c)
    (defined : ∀ value ∈ m.graph.outputs, value.name ∈ m.graph.definedNames) :
    ∃ ts, List.Forall₂ (fun value t => c.values.find? value.name = some t) m.graph.outputs ts := by
  refine exists_bound fun value member => ?_
  rw [bound_of_strict third, enters.bound_iff]
  rcases List.mem_append.mp (defined value member) with given | made
  · exact Or.inl given
  · rw [List.mem_filter, List.mem_filterMap] at made
    right
    exact ⟨by simpa using made.2, made.1⟩

theorem Model.find?_of_bound {m : Model} (unclashing : m.graph.Unclashing) {strict : Bool}
    {sourceName : String} {converted : Converted} {warnings : List String}
    (done : m.convert codec .standard strict sourceName = (.ok converted, warnings)) {name : String}
    {t : Tensor} (bound : converted.valueNames.find? name = some t) :
    converted.graph.tensors.find? t.id = some t := by
  obtain ⟨c, graph, stands, named⟩ := Model.convert_named unclashing done
  rw [graph]
  exact named.own name t (stands ▸ bound)

/-- A strict conversion has the tensors that the names of the model's outputs stand for as its
    outputs, in order and each id at its first place: as many as the model has just when their ids
    are different, and then all of them. -/
theorem outputs_are_the_bound_tensors (m : Model) (sourceName : String) (converted : Converted)
    (warnings : List String)
    (done : m.convert codec .standard true sourceName = (.ok converted, warnings))
    (defined : ∀ value ∈ m.graph.outputs, value.name ∈ m.graph.definedNames) :
    ∃ ts : List Tensor,
      List.Forall₂ (fun value t => converted.valueNames.find? value.name = some t)
        m.graph.outputs ts ∧
      converted.graph.outputs = (ts.map Tensor.id).eraseDups ∧
      ((converted.graph.tensorsOf converted.graph.outputs).length = m.graph.outputs.length ↔
        (ts.map Tensor.id).Nodup) ∧
      ((ts.map Tensor.id).Nodup →
        converted.graph.tensorsOf converted.graph.outputs = ts) ∧
      (m.graph.Unclashing →
        converted.graph.tensorsOf converted.graph.outputs =
          ts.eraseDupsBy (fun t u => t.id == u.id) ∧
        ∀ t ∈ ts, ∀ u ∈ ts, t.id = u.id → t = u) := by
  obtain ⟨opset, start, c, enters, third, rfl⟩ := Model.enters_of_convert done
  obtain ⟨ts, names⟩ := enters.exists_outputs third defined
  have none_yet := enters.no_outputs third
  have graph := graph_addOutputs rfl names
  have listed : (addOutputs m.graph.outputs c).graph.outputs = (ts.map Tensor.id).eraseDups := by
    rw [graph, Graph.outputs_foldl_addOutput none_yet]
  have all : (ts.map Tensor.id).Nodup → (addOutputs m.graph.outputs c).graph.tensorsOf
      (addOutputs m.graph.outputs c).graph.outputs = ts := by
    intro apart
    rw [graph]
    exact Graph.tensorsOf_foldl_addOutput none_yet apart
  have stand : List.Forall₂ (fun value t =>
      (addOutputs m.graph.outputs c).values.find? value.name = some t) m.graph.outputs ts := by
    rw [(kept_of_outputs m.graph.outputs c).1]
    exact names
  -- all that is left is about the ids, of which each comes once
  dsimp only [Model.handOut]
  refine ⟨ts, stand, listed, ⟨?_, ?_⟩, all, ?_⟩
  · intro count
    rw [listed, names.length_eq] at count
    exact Graph.nodup_of_length_tensorsOf count
  · intro apart
    rw [names.length_eq, all apart]
  · intro unclashing
    have own : ∀ t ∈ ts, (addOutputs m.graph.outputs c).graph.tensors.find? t.id = some t := by
      intro t member
      obtain ⟨name, bound⟩ := exists_name stand member
      exact Model.find?_of_bound unclashing done bound
    constructor
    · rw [listed]
      exact Graph.tensorsOf_eraseDups own
    · intro t first u second same
      exact Option.some.inj ((own t first).symm.trans (same ▸ own u second))

/-- A reduction of an input. If the flag is set it is over no axes, and hands out the input. -/
def passedOnModel (noop : Int) : Model :=
  { opsetImports := [("", 13)]
    graph :=
      { name := "m"
        inputs := [⟨"x", .tensor 1 (.ranked [.known 2])⟩]
        outputs := [⟨"x", .tensor 1 .unknownRank⟩, ⟨"y", .tensor 1 .unknownRank⟩]
        nodes :=
          [{ opType := "ReduceSum", inputs := ["x"], outputs := ["y"]
             attributes := [{ name := "noop_with_empty_axes", data := .int noop }] }] } }

/-- The input and the sum are two outputs. -/
theorem sum_and_input_are_outputs : ∃ converted warnings ts,
    (passedOnModel 0).convert .current .standard true "m" = (.ok converted, warnings) ∧
    List.Forall₂ (fun value t => converted.valueNames.find? value.name = some t)
      (passedOnModel 0).graph.outputs ts ∧
    converted.graph.tensorsOf converted.graph.outputs = ts := by
  obtain ⟨converted, warnings, done⟩ : ∃ converted warnings,
      (passedOnModel 0).convert .current .standard true "m" = (.ok converted, warnings) :=
    Model.exists_converted (by decide +kernel)
  have count : ((passedOnModel 0).convert .current .standard true "m").1.toOption.map
      (fun converted => (converted.graph.tensorsOf converted.graph.outputs).length) = some 2 := by
    decide +kernel
  rw [done] at count
  obtain ⟨ts, stand, _, apart, all, _⟩ :=
    outputs_are_the_bound_tensors (passedOnModel 0) "m" converted warnings done (by decide)
  exact ⟨converted, warnings, ts, done, stand, all (apart.mp (Option.some.inj count))⟩

/-- Two names are defined once and are outputs of the model, and there is one output. -/
theorem passed_on_output_is_listed_once :
    (passedOnModel 1).graph.SingleAssignment ∧
      ((passedOnModel 1).graph.outputs.map Model.ValueInfo.name).Nodup ∧
      (∀ value ∈ (passedOnModel 1).graph.outputs,
        value.name ∈ (passedOnModel 1).graph.definedNames) ∧
      ∃ converted warnings,
        (passedOnModel 1).convert .current .standard true "m" = (.ok converted, warnings) ∧
        (passedOnModel 1).graph.outputs.length = 2 ∧
        (converted.graph.tensorsOf converted.graph.outputs).map Tensor.id = ["x"] := by
  refine ⟨⟨by decide, by decide, by decide, by decide⟩, by decide, by decide, ?_⟩
  obtain ⟨converted, warnings, done⟩ : ∃ converted warnings,
      (passedOnModel 1).convert .current .standard true "m" = (.ok converted, warnings) :=
    Model.exists_converted (by decide +kernel)
  have ids : ((passedOnModel 1).convert .current .standard true "m").1.toOption.map
      (fun converted => (converted.graph.tensorsOf converted.graph.outputs).map Tensor.id) =
      some ["x"] := by
    decide +kernel
  rw [done] at ids
  exact ⟨converted, warnings, done, rfl, Option.some.inj ids⟩

end ReductionIR
