import ReductionIR.Proofs.Congruence
import ReductionIR.Proofs.ModelRuns
import ReductionIR.Proofs.Stages
/-
The order of nodes. What a conversion binds solves its nodes as equations between the facts of
names, whichever order they come in. Where each node stands behind those it reads from, the
equations have one solution, so that another such order gives the same fates and facts.
-/
namespace ReductionIR

open Conversion

variable {codec : Codec}

namespace Model

/-- The name that stands for what a node hands out. -/
def Node.result? (node : Node) : Option String := node.outputs.head?.filter (· ≠ "")

/-- The names that stand for what nodes hand out. -/
def resultsOf (nodes : List Node) : List String := nodes.filterMap Node.result?

/-- A node reads what another one makes. -/
def Node.Reads (node other : Node) : Prop :=
  ∃ name ∈ node.inputs, name ≠ "" ∧ name ∈ other.outputs

instance (node other : Node) : Decidable (node.Reads other) :=
  inferInstanceAs (Decidable (∃ name ∈ node.inputs, _))

/-- Each node comes after those it reads from. -/
structure Ordered (nodes : List Node) : Prop where
  itself : ∀ node ∈ nodes, ¬ node.Reads node
  later : nodes.Pairwise fun node later => ¬ node.Reads later

variable {nodes : List Node} {node other : Node} {name : String}

theorem Node.result?_eq_some_iff :
    node.result? = some name ↔ node.outputs.head? = some name ∧ name ≠ "" := by
  simp [result?, Option.filter_eq_some_iff]

theorem Node.result?_ne_of_unread (unread : ¬ node.Reads other) (input : name ∈ node.inputs) :
    other.result? ≠ some name := by
  intro result
  obtain ⟨first, named⟩ := result?_eq_some_iff.mp result
  exact unread ⟨name, input, named, List.mem_of_mem_head? first⟩

theorem resultsOf_append (nodes more : List Node) :
    resultsOf (nodes ++ more) = resultsOf nodes ++ resultsOf more := List.filterMap_append

theorem mem_resultsOf_iff : name ∈ resultsOf nodes ↔ ∃ node ∈ nodes, node.result? = some name :=
  List.mem_filterMap

theorem mem_resultsOf_cons :
    name ∈ resultsOf (node :: nodes) ↔ node.result? = some name ∨ name ∈ resultsOf nodes := by
  simp [mem_resultsOf_iff]

theorem mem_resultsOf_singleton : name ∈ resultsOf [node] ↔ node.result? = some name := by
  simp [mem_resultsOf_iff]

theorem Ordered.left {more : List Node} (ordered : Ordered (nodes ++ more)) : Ordered nodes where
  itself node member := ordered.itself node (List.mem_append_left _ member)
  later := (List.pairwise_append.mp ordered.later).1

theorem sublist_resultsOf (nodes : List Node) :
    (resultsOf nodes).Sublist ((nodes.flatMap Node.outputs).filter (· ≠ "")) := by
  induction nodes with
  | nil => exact List.Sublist.slnil
  | cons node rest ih =>
    have here : node.result?.toList.Sublist (node.outputs.filter (· ≠ "")) := by
      unfold Node.result?
      cases node.outputs with
      | nil => exact List.Sublist.slnil
      | cons first others => by_cases empty : first = "" <;> simp [Option.filter, empty]
    have split : resultsOf (node :: rest) = node.result?.toList ++ resultsOf rest := by
      unfold resultsOf
      cases result : node.result? <;> simp [result]
    rw [split, List.flatMap_cons, List.filter_append]
    exact here.append ih

end Model

open Model

namespace Conversion

variable {opset : Int} {start c c' : Conversion} {nodes : List Model.Node} {node : Model.Node}
  {source source' : SourceNode} {fates : List (Option NodeFailure)}
  {fate fate' : Option NodeFailure} {made made' : Option Facts}

/-- The facts of what a name stands for. -/
def facts? (c : Conversion) (name : String) : Option Facts :=
  (c.values.find? name).map Tensor.toFacts

/-- What comes of a node in a state: an obstacle is a failure without a lowering. -/
def attempt (c : Conversion) (node : Model.Node) (source : SourceNode) :
    Except Fault (List Tensor) :=
  match c.obstacle? node with
  | some cause =>
    .error (.node { cause, operator := node.opType, location := some source.location })
  | none => (lowerNode .standard source (c.operandsOf node) c.graph).1

theorem Lowers.attempt_eq {outputs : List Tensor} {g : Graph}
    (lowers : c.Lowers node source outputs g) : c.attempt node source = .ok outputs := by
  obtain ⟨clear, lowered⟩ := lowers
  rw [attempt, clear, lowered]

theorem Fails.attempt_eq {failure : NodeFailure} {added : List String}
    (fails : c.Fails node source failure added) :
    c.attempt node source = .error (.node failure) := by
  cases fails with
  | untried obstacle => rw [attempt, obstacle]
  | refused clear lowered => rw [attempt, clear, lowered]

theorem lowers_of_attempt {outputs : List Tensor} (done : c.attempt node source = .ok outputs) :
    ∃ g, c.Lowers node source outputs g := by
  unfold attempt at done
  split at done
  · contradiction
  · rename_i clear
    exact ⟨_, clear, Prod.ext done rfl⟩

theorem ends_of_attempt {fault : Fault} (ended : c.attempt node source = .error fault) :
    (∃ failure added, fault = .node failure ∧ c.Fails node source failure added) ∨
      ∃ g, c.Breaks node source fault g := by
  rcases lowers_or_fails_or_breaks c node source with
    ⟨outputs, g, lowers⟩ | ⟨failure, added, fails⟩ | ⟨other, g, breaks⟩
  · cases ended.symm.trans lowers.attempt_eq
  · cases ended.symm.trans fails.attempt_eq
    exact Or.inl ⟨failure, added, rfl, fails⟩
  · obtain ⟨clear, lowered, blameless⟩ := breaks
    rw [attempt, clear] at ended
    simp only [lowered, Except.error.injEq] at ended
    subst ended
    exact Or.inr ⟨g, clear, lowered, blameless⟩

theorem obstacle?_congr
    (bound : ∀ name ∈ node.inputs, c.values.contains name = c'.values.contains name) :
    c.obstacle? node = c'.obstacle? node := by
  have missing : c.unlowered node = c'.unlowered node := by
    refine List.filter_congr fun name input => ?_
    rw [bound name input]
  unfold obstacle?
  rw [missing]

/-- The fate of a node in a state, and the facts of what it hands out. -/
inductive Yields (opset : Int) (c : Conversion) (node : Model.Node) :
    Option NodeFailure → Option Facts → Prop
  | lowered {position : Option Int} {source : SourceNode} {t : Tensor}
      (read : SourceNode.ofModel node opset position = .ok source)
      (done : c.attempt node source = .ok [t]) : Yields opset c node none (some t.toFacts)
  | failed {position : Option Int} {source : SourceNode} {failure : NodeFailure}
      (read : SourceNode.ofModel node opset position = .ok source)
      (ended : c.attempt node source = .error (.node failure)) :
      Yields opset c node (some failure) none

section Agreeing

variable (agree : ∀ name ∈ node.inputs, c.facts? name = c'.facts? name)

include agree

theorem operandsOf_congr : (c.operandsOf node).map (Option.map Tensor.toFacts) =
    (c'.operandsOf node).map (Option.map Tensor.toFacts) := by
  unfold operandsOf
  rw [List.map_map, List.map_map]
  refine List.map_congr_left fun name input => ?_
  by_cases left_out : name = ""
  · simp [left_out]
  · have same := agree name input
    simpa [left_out, facts?] using same

theorem attempt_congr {position position' : Option Int}
    (read : SourceNode.ofModel node opset position = .ok source)
    (read' : SourceNode.ofModel node opset position' = .ok source') :
    (∃ t t', c.attempt node source = .ok [t] ∧ c'.attempt node source' = .ok [t'] ∧
      t.Resembles t') ∨
    ∃ fault fault', c.attempt node source = .error fault ∧
      c'.attempt node source' = .error fault' ∧ fault.unlocated = fault'.unlocated := by
  obtain ⟨opType, opset_eq, stored⟩ := SourceNode.ofModel_eq_ok read
  obtain ⟨opType', opset_eq', stored'⟩ := SourceNode.ofModel_eq_ok read'
  have bound : ∀ name ∈ node.inputs, c.values.contains name = c'.values.contains name := by
    intro name input
    simpa [facts?, Table.contains] using congrArg Option.isSome (agree name input)
  unfold attempt
  rw [← obstacle?_congr bound]
  cases c.obstacle? node with
  | some cause => exact Or.inr ⟨_, _, rfl, rfl, rfl⟩
  | none =>
    exact lowerNode_matches (opType.trans opType'.symm) (opset_eq.trans opset_eq'.symm)
      (Except.ok.inj (stored.symm.trans stored')) (operandsOf_congr agree) c.graph c'.graph

theorem Yields.unique (first : Yields opset c node fate made)
    (second : Yields opset c' node fate' made') :
    fate.map NodeFailure.cause = fate'.map NodeFailure.cause ∧ made = made' := by
  -- what is tried on the same facts ends the same way, so the mixed cases cannot be
  cases first with
  | lowered read done =>
    cases second with
    | lowered read' done' =>
      rcases attempt_congr agree read read' with ⟨_, _, first, second, same⟩ | ⟨_, _, ended, _⟩
      · cases done.symm.trans first
        cases done'.symm.trans second
        exact ⟨rfl, congrArg some same⟩
      · cases done.symm.trans ended
    | failed read' ended =>
      rcases attempt_congr agree read read' with ⟨_, _, _, second, _⟩ | ⟨_, _, first, _⟩
      · cases ended.symm.trans second
      · cases done.symm.trans first
  | failed read ended =>
    cases second with
    | lowered read' done =>
      rcases attempt_congr agree read read' with ⟨_, _, first, _⟩ | ⟨_, _, _, second, _⟩
      · cases ended.symm.trans first
      · cases done.symm.trans second
    | failed read' ended' =>
      rcases attempt_congr agree read read' with ⟨_, _, done, _⟩ | ⟨_, _, first, second, same⟩
      · cases ended.symm.trans done
      · cases ended.symm.trans first
        cases ended'.symm.trans second
        simp only [Fault.unlocated, Fault.node.injEq, NodeFailure.mk.injEq] at same
        exact ⟨congrArg some same.1, rfl⟩

end Agreeing

/-- The facts of names solve a node: they are what it yields on them. -/
def Solves (opset : Int) (c : Conversion) (node : Model.Node) (fate : Option NodeFailure) : Prop :=
  ∃ before made, Yields opset before node fate made ∧
    (∀ name ∈ node.inputs, before.facts? name = c.facts? name) ∧
    ∀ name, node.result? = some name → c.facts? name = made

theorem Solves.congr (solves : Solves opset c node fate)
    (kept : ∀ name, name ∈ node.inputs ∨ node.result? = some name →
      c'.facts? name = c.facts? name) : Solves opset c' node fate := by
  obtain ⟨before, made, yields, inputs, result⟩ := solves
  refine ⟨before, made, yields, ?_, ?_⟩
  · intro name input
    rw [inputs name input, kept name (Or.inl input)]
  · intro name named
    rw [kept name (Or.inr named), result name named]

theorem Solves.unique (first : Solves opset c node fate) (second : Solves opset c' node fate')
    (agree : ∀ name ∈ node.inputs, c.facts? name = c'.facts? name) :
    fate.map NodeFailure.cause = fate'.map NodeFailure.cause ∧
      ∀ name, node.result? = some name → c.facts? name = c'.facts? name := by
  obtain ⟨before, made, yields, inputs, result⟩ := first
  obtain ⟨before', made', yields', inputs', result'⟩ := second
  have middle : ∀ name ∈ node.inputs, before.facts? name = before'.facts? name := by
    intro name input
    rw [inputs name input, agree name input, inputs' name input]
  obtain ⟨causes, same⟩ := yields.unique middle yields'
  refine ⟨causes, fun name named => ?_⟩
  rw [result name named, result' name named, same]

theorem exists_fate (solves : List.Forall₂ (Solves opset c) nodes fates) (member : node ∈ nodes) :
    ∃ fate, Solves opset c node fate := by
  obtain ⟨fate, _, solved⟩ := exists_of_forall₂ solves member
  exact ⟨fate, solved⟩

theorem facts?_unique (ordered : Ordered nodes)
    (solved : ∀ node ∈ nodes, ∃ fate, Solves opset c node fate)
    (solved' : ∀ node ∈ nodes, ∃ fate, Solves opset c' node fate)
    (outside : ∀ name, name ∉ resultsOf nodes → c.facts? name = c'.facts? name) (name : String) :
    c.facts? name = c'.facts? name := by
  induction nodes with
  | nil => exact outside name (List.not_mem_nil)
  | cons node rest ih =>
    -- the first node reads no result of these nodes, so it hands out the same facts in both
    -- solutions, and its name joins those that are outside
    obtain ⟨itself, later⟩ := ordered
    rw [List.forall_mem_cons] at itself solved solved'
    rw [List.pairwise_cons] at later
    have inputs : ∀ name ∈ node.inputs, c.facts? name = c'.facts? name := by
      intro name input
      refine outside name fun result => ?_
      rcases mem_resultsOf_cons.mp result with here | beyond
      · exact Node.result?_ne_of_unread itself.1 input here
      · obtain ⟨maker, member, named⟩ := mem_resultsOf_iff.mp beyond
        exact Node.result?_ne_of_unread (later.1 maker member) input named
    obtain ⟨fate, first⟩ := solved.1
    obtain ⟨fate', second⟩ := solved'.1
    refine ih ⟨itself.2, later.2⟩ solved.2 solved'.2 ?_
    intro name other
    by_cases here : node.result? = some name
    · exact (first.unique second inputs).2 name here
    · refine outside name fun result => ?_
      rcases mem_resultsOf_cons.mp result with same | beyond
      · exact here same
      · exact other beyond

theorem facts?_bindOutputs (c : Conversion) (node : Model.Node) (t : Tensor) (name : String) :
    (c.bindOutputs node.outputs [t]).facts? name =
      if node.result? = some name then some t.toFacts else c.facts? name := by
  unfold facts?
  rw [find?_bindOutputs]
  simp only [Node.result?_eq_some_iff]
  split <;> rfl

/-- One more node, whose result nothing before it reads or makes. -/
theorem solves_concat (earlier : List.Forall₂ (Solves opset c) nodes fates)
    (once : (resultsOf (nodes ++ [node])).Nodup) (ordered : Ordered (nodes ++ [node]))
    (yields : Yields opset c node fate made)
    (kept : ∀ name, node.result? ≠ some name → c'.facts? name = c.facts? name)
    (result : ∀ name, node.result? = some name → c'.facts? name = made) :
    List.Forall₂ (Solves opset c') (nodes ++ [node]) (fates ++ [fate]) := by
  obtain ⟨itself, later⟩ := ordered
  have apart := (List.pairwise_append.mp later).2.2
  refine List.rel_append ?_ (.cons ?_ .nil)
  -- a node before it reads the new result as little as it makes it
  · obtain ⟨length, each⟩ := List.forall₂_iff_zip.mp earlier
    refine List.forall₂_iff_zip.mpr ⟨length, fun {other _} member => ?_⟩
    have before : other ∈ nodes := (List.of_mem_zip member).1
    refine (each member).congr fun name used => kept name fun same => ?_
    rcases used with input | named
    · exact Node.result?_ne_of_unread (apart other before node (List.mem_singleton_self node))
        input same
    · rw [resultsOf_append, List.nodup_append] at once
      refine once.2.2 name ?_ name ?_ rfl
      · exact mem_resultsOf_iff.mpr ⟨other, before, named⟩
      · exact mem_resultsOf_singleton.mpr same
  · refine ⟨c, made, yields, fun name input => (kept name ?_).symm, result⟩
    exact Node.result?_ne_of_unread (itself node (by simp)) input

theorem Collected.facts?_of_other (collected : Collected opset start nodes fates c) {name : String}
    (other : name ∉ resultsOf nodes) : c.facts? name = start.facts? name := by
  induction collected with
  | nil => rfl
  | @lowered nodes fates c node source outputs g earlier read lowers ih =>
    obtain ⟨_, t, _, _, _, rfl, _⟩ := lowerNode_eq_ok lowers.2
    rw [resultsOf_append, List.mem_append, not_or] at other
    have here : node.result? ≠ some name := by
      intro same
      exact other.2 (mem_resultsOf_singleton.mpr same)
    rw [facts?_bindOutputs, if_neg here]
    exact ih other.1
  | failed earlier read fails ih =>
    rw [resultsOf_append, List.mem_append, not_or] at other
    exact ih other.1

/-- The facts that a loop ends with solve all nodes. -/
theorem Collected.solves (collected : Collected opset start nodes fates c)
    (once : (resultsOf nodes).Nodup) (ordered : Ordered nodes)
    (new : ∀ name ∈ resultsOf nodes, start.facts? name = none) :
    List.Forall₂ (Solves opset c) nodes fates := by
  induction collected with
  | nil => exact .nil
  | @lowered nodes fates c node source outputs g earlier read lowers ih =>
    obtain ⟨_, t, _, _, _, rfl, _⟩ := lowerNode_eq_ok lowers.2
    have both := once
    rw [resultsOf_append] at both new
    have solved := ih both.of_append_left ordered.left
      fun name result => new name (List.mem_append_left _ result)
    refine solves_concat solved once ordered (.lowered read lowers.attempt_eq) ?_ ?_
    · intro name other
      rw [facts?_bindOutputs, if_neg other]
      rfl
    · intro name named
      rw [facts?_bindOutputs, if_pos named]
  | @failed nodes fates c node source failure added earlier read fails ih =>
    have both := once
    rw [resultsOf_append] at both new
    have solved := ih both.of_append_left ordered.left
      fun name result => new name (List.mem_append_left _ result)
    refine solves_concat solved once ordered (.failed read fails.attempt_eq) (fun _ _ => rfl) ?_
    intro name named
    have result : name ∈ resultsOf [node] := mem_resultsOf_singleton.mpr named
    have other : name ∉ resultsOf nodes := fun earlier =>
      (List.nodup_append.mp both).2.2 name earlier name result rfl
    -- a failed node adds no name, and the names so far are those of other results
    change c.facts? name = none
    rw [earlier.facts?_of_other other, new name (List.mem_append_right _ result)]

end Conversion

/-- The fates of the nodes of a model in a conversion that collects failures, each one decided by
    the conversion of the nodes before it. -/
structure Model.HasFates (codec : Codec) (m : Model) (sourceName : String) (opset : Int)
    (fates : List (Option NodeFailure)) (converted : Converted) : Prop where
  imported : m.defaultOpset = .ok opset
  each : fates.length = m.graph.nodes.length
  failures_eq : converted.failures = fates.filterMap id
  decided : ∀ i node, m.graph.nodes[i]? = some node → ∃ before earlier fate,
    (m.upTo i).convert codec .standard false sourceName = (.ok before, earlier) ∧
      fates[i]? = some fate ∧ before.Decides node opset i fate

section Collecting

variable {m : Model} {sourceName : String} {opset opset' : Int} {start start' c : Conversion}
  {fates : List (Option NodeFailure)}

theorem Model.collected_of_convert {converted : Converted} {warnings : List String}
    (done : m.convert codec .standard false sourceName = (.ok converted, warnings)) :
    ∃ opset start fates c, m.Enters codec sourceName opset start ∧
      Collected opset start m.graph.nodes fates c ∧
      converted = m.handOut false sourceName (addOutputs m.graph.outputs c) := by
  obtain ⟨opset, start, c, enters, third, rfl⟩ := Model.enters_of_convert done
  obtain ⟨fates, collected⟩ := nodesStep_eq_ok_iff.mp third
  exact ⟨opset, start, fates, c, enters, collected, rfl⟩

namespace Model.Enters

theorem unique (enters : m.Enters codec sourceName opset start)
    (again : m.Enters codec sourceName opset' start') : opset = opset' ∧ start = start' := by
  obtain ⟨imported, c₁, first, second⟩ := enters
  obtain ⟨imported', c₁', first', second'⟩ := again
  cases imported.symm.trans imported'
  cases first.symm.trans first'
  cases second.symm.trans second'
  exact ⟨rfl, rfl⟩

theorem hasFates (enters : m.Enters codec sourceName opset start)
    (collected : Collected opset start m.graph.nodes fates c) {strict : Bool} :
    m.HasFates codec sourceName opset fates
      (m.handOut strict sourceName (addOutputs m.graph.outputs c)) where
  imported := enters.imported
  each := collected.length_eq
  failures_eq := by
    have failures := collected.failures_eq
    rw [enters.failures_eq] at failures
    exact (kept_of_outputs _ _).2.trans failures
  decided i node found := by
    obtain ⟨before, fate, earlier, fated, meets⟩ := collected.at_node found
    have converts := enters.convert_eq false (m.graph.nodes.take i) []
    rw [nodesStep_eq_ok_iff.mpr ⟨_, earlier⟩] at converts
    exact ⟨_, _, fate, converts, fated, meets.decides m false sourceName⟩

theorem facts?_of_result (enters : m.Enters codec sourceName opset start)
    (once : m.graph.SingleAssignment) {name : String}
    (result : name ∈ resultsOf m.graph.nodes) : start.facts? name = none := by
  obtain ⟨made, named⟩ := List.mem_filter.mp ((sublist_resultsOf _).subset result)
  have unbound : start.values.contains name ≠ true := by
    rw [Ne, enters.bound_iff]
    exact once.new name made (of_decide_eq_true named)
  rw [facts?, Table.contains_eq_false_iff.mp (Bool.eq_false_iff.mpr unbound), Option.map_none]

theorem solves (enters : m.Enters codec sourceName opset start) (once : m.graph.SingleAssignment)
    {nodes : List Model.Node} (perm : nodes.Perm m.graph.nodes) (ordered : Ordered nodes)
    (collected : Collected opset start nodes fates c) :
    List.Forall₂ (Solves opset c) nodes fates := by
  have same : (resultsOf nodes).Perm (resultsOf m.graph.nodes) := perm.filterMap _
  refine collected.solves ?_ ordered fun name result => ?_
  · exact same.nodup_iff.mpr (once.made.sublist (sublist_resultsOf _))
  · exact enters.facts?_of_result once (same.subset result)

end Model.Enters

end Collecting

/-- The order of nodes does not matter. A lowering can tell operands apart by their facts only,
    and no graphs; so a collecting conversion of the same nodes in another order, in which each
    one still comes after those it reads from, lowers the same nodes, has the same causes of
    failures, and binds the same names to tensors of the same facts. -/
theorem node_order_is_irrelevant :
    (∀ (node : SourceNode) (operands operands' : List (Option Tensor)) (g g' : Graph),
      operands.map (Option.map Tensor.toFacts) = operands'.map (Option.map Tensor.toFacts) →
      (∃ t t', (lowerNode .standard node operands g).1 = .ok [t] ∧
        (lowerNode .standard node operands' g').1 = .ok [t'] ∧ t.toFacts = t'.toFacts) ∨
      ∃ fault fault', (lowerNode .standard node operands g).1 = .error fault ∧
        (lowerNode .standard node operands' g').1 = .error fault' ∧
        fault.unlocated = fault'.unlocated) ∧
    ∀ (codec : Codec) (m : Model) (sourceName : String) (nodes : List Model.Node)
      (converted reordered : Converted) (warnings warnings' : List String),
      nodes.Perm m.graph.nodes → m.graph.SingleAssignment →
      Model.Ordered m.graph.nodes → Model.Ordered nodes →
      m.convert codec .standard false sourceName = (.ok converted, warnings) →
      (m.withNodes nodes).convert codec .standard false sourceName = (.ok reordered, warnings') →
      ∃ opset fates fates', m.HasFates codec sourceName opset fates converted ∧
        (m.withNodes nodes).HasFates codec sourceName opset fates' reordered ∧
        (∀ node fate fate', (node, fate) ∈ m.graph.nodes.zip fates →
          (node, fate') ∈ nodes.zip fates' →
          fate.map NodeFailure.cause = fate'.map NodeFailure.cause) ∧
        ∀ name, (converted.valueNames.find? name).map Tensor.toFacts =
          (reordered.valueNames.find? name).map Tensor.toFacts := by
  constructor
  · intro node operands operands' g g' facts
    exact lowerNode_matches rfl rfl rfl facts g g'
  · intro codec m sourceName nodes converted reordered warnings warnings' perm once ordered ordered'
      done done'
    obtain ⟨opset, start, fates, c, enters, collected, rfl⟩ := Model.collected_of_convert done
    obtain ⟨_, _, fates', c', enters', collected', rfl⟩ := Model.collected_of_convert done'
    have shared : m.Enters codec sourceName _ _ := ⟨enters'.imported, enters'.stages⟩
    obtain ⟨rfl, rfl⟩ := enters.unique shared
    have solves := enters.solves once (List.Perm.refl _) ordered collected
    have solves' := enters.solves once perm ordered' collected'
    have agree : ∀ name, c.facts? name = c'.facts? name := by
      refine facts?_unique ordered (fun _ => exists_fate solves) ?_ ?_
      · intro node member
        exact exists_fate solves' (perm.mem_iff.mpr member)
      · intro name other
        have other' : name ∉ resultsOf nodes := fun result =>
          other ((perm.filterMap _).subset result)
        rw [collected.facts?_of_other other, collected'.facts?_of_other other']
    refine ⟨opset, fates, fates', enters.hasFates collected, enters'.hasFates collected', ?_, ?_⟩
    · intro node fate fate' member member'
      have first := List.forall₂_zip solves member
      have second := List.forall₂_zip solves' member'
      exact (first.unique second fun name _ => agree name).1
    · intro name
      have same := agree name
      unfold facts? at same
      dsimp only [Model.handOut]
      rw [(kept_of_outputs _ _).1, (kept_of_outputs _ _).1]
      exact same

/-- Two branches from one input; each has a node that is lowered and one that fails. -/
def branchedModel : Model :=
  { opsetImports := [("", 13)]
    graph :=
      { name := "m"
        inputs := [⟨"x", .tensor 1 (.ranked [.known 2, .named "n"])⟩]
        nodes :=
          [{ opType := "ReduceLogSumExp", inputs := ["x"], outputs := ["a"] },
           { opType := "Softmax", inputs := ["a"], outputs := ["b"] },
           { opType := "ReduceSum", inputs := ["b"], outputs := ["c"] },
           { opType := "ReduceMean", inputs := ["x"], outputs := ["d"]
             attributes := [{ name := "axes", data := .ints [0] }] },
           { opType := "ReduceMax", inputs := ["d"], outputs := ["e"]
             attributes := [{ name := "axes", data := .ints [1, 2] }] }] } }

/-- The input of both branches, under some id. -/
def fedMatrix (id : String) : Tensor :=
  { dtype := .float32, shape := .ranked [.known 2, .named "n"], data := none, origin := .given 0,
    id, name := id }

/-- A sum has the facts it has of an operand of another id in a graph of another counter. With the
    second branch first, failures and ids come in another order. -/
theorem branchedModel_in_two_orders :
    (∃ t t', (lowerNode .standard { opType := "ReduceSum", opset := 13 } [some (fedMatrix "x")]
        { name := "g" }).1 = .ok [t] ∧
      (lowerNode .standard { opType := "ReduceSum", opset := 13 } [some (fedMatrix "y")]
        { name := "g", counter := 7 }).1 = .ok [t'] ∧ t.toFacts = t'.toFacts) ∧
    ∃ converted reordered warnings warnings',
      branchedModel.convert .current .standard false "m" = (.ok converted, warnings) ∧
      (branchedModel.withNodes (branchedModel.graph.nodes.rotate 3)).convert .current .standard
        false "m" = (.ok reordered, warnings') ∧
      converted.failures.map NodeFailure.kind =
        [.unsupportedOperator, .missingInput, .axisOutOfRange] ∧
      reordered.failures.map NodeFailure.kind =
        [.axisOutOfRange, .unsupportedOperator, .missingInput] ∧
      (converted.valueNames.find? "d").map Tensor.id = some "ReduceMean_6:0" ∧
      (reordered.valueNames.find? "d").map Tensor.id = some "ReduceMean_2:0" ∧
      ∀ name, (converted.valueNames.find? name).map Tensor.toFacts =
        (reordered.valueNames.find? name).map Tensor.toFacts := by
  constructor
  · have fine : (lowerNode .standard { opType := "ReduceSum", opset := 13 } [some (fedMatrix "x")]
        { name := "g" }).1.toBool = true := by decide +kernel
    rcases node_order_is_irrelevant.1 { opType := "ReduceSum", opset := 13 }
      [some (fedMatrix "x")] [some (fedMatrix "y")] { name := "g" } { name := "g", counter := 7 }
      rfl with done | ⟨fault, _, failed, _⟩
    · exact done
    · rw [failed] at fine
      contradiction
  · obtain ⟨converted, warnings, done⟩ : ∃ converted warnings,
        branchedModel.convert .current .standard false "m" = (.ok converted, warnings) :=
      Model.exists_converted (by decide +kernel)
    obtain ⟨reordered, warnings', done'⟩ : ∃ reordered warnings',
        (branchedModel.withNodes (branchedModel.graph.nodes.rotate 3)).convert .current .standard
          false "m" = (.ok reordered, warnings') :=
      Model.exists_converted (by decide +kernel)
    have first : (branchedModel.convert .current .standard false "m").1.toOption.map
        (fun converted => (converted.failures.map NodeFailure.kind,
          (converted.valueNames.find? "d").map Tensor.id)) =
        some ([.unsupportedOperator, .missingInput, .axisOutOfRange], some "ReduceMean_6:0") := by
      decide +kernel
    have second : ((branchedModel.withNodes (branchedModel.graph.nodes.rotate 3)).convert .current
        .standard false "m").1.toOption.map (fun converted =>
          (converted.failures.map NodeFailure.kind,
            (converted.valueNames.find? "d").map Tensor.id)) =
        some ([.axisOutOfRange, .unsupportedOperator, .missingInput], some "ReduceMean_2:0") := by
      decide +kernel
    rw [done] at first
    rw [done'] at second
    obtain ⟨kinds, id⟩ := Prod.mk.inj (Option.some.inj first)
    obtain ⟨kinds', id'⟩ := Prod.mk.inj (Option.some.inj second)
    obtain ⟨_, _, _, _, _, _, same⟩ := node_order_is_irrelevant.2 .current branchedModel "m"
      (branchedModel.graph.nodes.rotate 3) converted reordered warnings warnings'
      (List.rotate_perm _ 3) ⟨by decide, by decide, by decide, by decide⟩
      ⟨by decide, by decide⟩ ⟨by decide, by decide⟩ done done'
    exact ⟨converted, reordered, warnings, warnings', done, done', kinds, kinds', id, id', same⟩

end ReductionIR
