import Mathlib.Data.List.Induction
import ReductionIR.Proofs.Conversions
import ReductionIR.Proofs.Unsourced
/-
Conversions that collect failures. The loop over nodes gives each node a fate: it is lowered, or
it adds one failure and nothing else changes. A strict conversion without the nodes that fail
goes the same way.
-/
namespace ReductionIR

open Stepwise

namespace Conversion

variable {strict : Bool} {opset : Int} {start c c' : Conversion} {nodes : List Model.Node}
  {fates : List (Option NodeFailure)} {node : Model.Node} {source : SourceNode}

/-- The loop over nodes. -/
def nodesStep (strict : Bool) (opset : Int) (nodes : List Model.Node) : Step Unit :=
  nodes.zipIdx.forM fun node => nodeStep .standard strict opset node.1 node.2

theorem forM_append {β : Type} (l more : List β) (f : β → Step Unit) :
    (l ++ more).forM f = l.forM f >>= fun _ => more.forM f := by
  simp only [List.forM_eq_forM, List.forM_append]

theorem forM_append_eq_ok_iff {β : Type} {l more : List β} {f : β → Step Unit} :
    (l ++ more).forM f start = .ok () c' ↔
      ∃ c, l.forM f start = .ok () c ∧ more.forM f c = .ok () c' := by
  rw [forM_append, bind_eq_ok_iff]
  constructor
  · rintro ⟨_, c, first, later⟩
    exact ⟨c, first, later⟩
  · rintro ⟨c, first, later⟩
    exact ⟨(), c, first, later⟩

theorem nodesStep_concat_eq_ok_iff :
    nodesStep strict opset (nodes ++ [node]) start = .ok () c' ↔
      ∃ c, nodesStep strict opset nodes start = .ok () c ∧
        nodeStep .standard strict opset node nodes.length c = .ok () c' := by
  unfold nodesStep
  rw [List.zipIdx_append, Nat.zero_add, forM_append_eq_ok_iff]
  have single : ∀ c, ([node].zipIdx nodes.length).forM
      (fun node => nodeStep .standard strict opset node.1 node.2) c = .ok () c' ↔
        nodeStep .standard strict opset node nodes.length c = .ok () c' := by
    intro c
    change (nodeStep .standard strict opset node nodes.length >>= fun _ => pure ()) c = _ ↔ _
    rw [bind_eq_ok_iff]
    constructor
    · rintro ⟨_, middle, done, same⟩
      cases same
      exact done
    · intro done
      exact ⟨(), c', done, rfl⟩
  simp only [single]

/-- The fates of nodes, in order: `none` for a node that is lowered, and the failure of one that
    is not. -/
inductive Collected (opset : Int) (start : Conversion) :
    List Model.Node → List (Option NodeFailure) → Conversion → Prop
  | nil : Collected opset start [] [] start
  | lowered {nodes : List Model.Node} {fates : List (Option NodeFailure)} {c : Conversion}
      {node : Model.Node} {source : SourceNode} {outputs : List Tensor} {g : Graph}
      (earlier : Collected opset start nodes fates c)
      (read : SourceNode.ofModel node opset (some (nodes.length : Int)) = .ok source)
      (lowers : c.Lowers node source outputs g) :
      Collected opset start (nodes ++ [node]) (fates ++ [none])
        ({ c with graph := g }.bindOutputs node.outputs outputs)
  | failed {nodes : List Model.Node} {fates : List (Option NodeFailure)} {c : Conversion}
      {node : Model.Node} {source : SourceNode} {failure : NodeFailure} {added : List String}
      (earlier : Collected opset start nodes fates c)
      (read : SourceNode.ofModel node opset (some (nodes.length : Int)) = .ok source)
      (fails : c.Fails node source failure added) :
      Collected opset start (nodes ++ [node]) (fates ++ [some failure])
        { c with failures := c.failures ++ [failure], warnings := c.warnings ++ added }

/-- A collecting loop comes to an end when every node has a fate. -/
theorem nodesStep_eq_ok_iff :
    nodesStep false opset nodes start = .ok () c ↔ ∃ fates, Collected opset start nodes fates c := by
  constructor
  · intro done
    induction nodes using List.reverseRecOn generalizing c with
    | nil =>
      cases done
      exact ⟨[], .nil⟩
    | append_singleton nodes node ih =>
      obtain ⟨middle, early, late⟩ := nodesStep_concat_eq_ok_iff.mp done
      obtain ⟨fates, collected⟩ := ih early
      obtain ⟨source, read, ⟨outputs, g, lowers, rfl⟩ | ⟨_, failure, added, fails, rfl⟩⟩ :=
        nodeStep_eq_ok_iff.mp late
      · exact ⟨_, collected.lowered read lowers⟩
      · exact ⟨_, collected.failed read fails⟩
  · rintro ⟨fates, collected⟩
    induction collected with
    | nil => rfl
    | lowered _ read lowers ih =>
      exact nodesStep_concat_eq_ok_iff.mpr ⟨_, ih, nodeStep_of_lowers read lowers⟩
    | failed _ read fails ih =>
      exact nodesStep_concat_eq_ok_iff.mpr ⟨_, ih, nodeStep_of_fails read fails⟩

/-- What a node meets with in the state that the nodes before it lead to. -/
def Meets (opset : Int) (before : Conversion) (i : Nat) (node : Model.Node) (fate : Option NodeFailure) :
    Prop :=
  ∃ source, SourceNode.ofModel node opset (some (i : Int)) = .ok source ∧
    match fate with
    | none => ∃ outputs g, before.Lowers node source outputs g
    | some failure => ∃ added, before.Fails node source failure added

theorem Meets.turn {before : Conversion} {i : Nat} {fate : Option NodeFailure}
    (meets : Meets opset before i node fate) :
    ∃ after, nodeStep .standard false opset node i before = .ok () after := by
  obtain ⟨source, read, met⟩ := meets
  cases fate with
  | none =>
    obtain ⟨outputs, g, lowers⟩ := met
    exact ⟨_, nodeStep_of_lowers read lowers⟩
  | some failure =>
    obtain ⟨added, fails⟩ := met
    exact ⟨_, nodeStep_of_fails read fails⟩

namespace Collected

theorem length_eq (collected : Collected opset start nodes fates c) :
    fates.length = nodes.length := by
  induction collected with
  | nil => rfl
  | lowered _ _ _ ih => simp [ih]
  | failed _ _ _ ih => simp [ih]

theorem failures_eq (collected : Collected opset start nodes fates c) :
    c.failures = start.failures ++ fates.filterMap id := by
  induction collected with
  | nil => simp
  | lowered _ _ _ ih => simp [ih]
  | failed _ _ _ ih => simp [ih]

theorem concat_cases {last : Model.Node} {fate : Option NodeFailure}
    (earlier : Collected opset start nodes fates c)
    (met : Meets opset c nodes.length last fate)
    (each : ∀ i node, nodes[i]? = some node → ∃ before fate,
      Collected opset start (nodes.take i) (fates.take i) before ∧ fates[i]? = some fate ∧
        Meets opset before i node fate) {i : Nat} (found : (nodes ++ [last])[i]? = some node) :
    ∃ before fate', Collected opset start ((nodes ++ [last]).take i) ((fates ++ [fate]).take i) before ∧
      (fates ++ [fate])[i]? = some fate' ∧ Meets opset before i node fate' := by
  have same := earlier.length_eq
  rcases Nat.lt_or_ge i nodes.length with inside | beyond
  · rw [List.getElem?_append_left inside] at found
    rw [List.getElem?_append_left (same ▸ inside), List.take_append_of_le_length (by omega),
      List.take_append_of_le_length (by omega)]
    exact each i node found
  · obtain rfl : i = nodes.length := by
      have below := (List.getElem?_eq_some_iff.mp found).1
      simp only [List.length_append, List.length_singleton] at below
      omega
    rw [List.getElem?_concat_length] at found
    cases found
    refine ⟨c, fate, ?_, ?_, met⟩
    · rw [List.take_left, ← same, List.take_left]
      exact earlier
    · rw [← same, List.getElem?_concat_length]

theorem at_node (collected : Collected opset start nodes fates c) {i : Nat}
    (found : nodes[i]? = some node) :
    ∃ before fate, Collected opset start (nodes.take i) (fates.take i) before ∧
      fates[i]? = some fate ∧ Meets opset before i node fate := by
  induction collected generalizing i node with
  | nil => simp at found
  | lowered earlier read lowers ih =>
    have met : Meets opset _ _ _ none := ⟨_, read, _, _, lowers⟩
    exact earlier.concat_cases met (fun _ _ found => ih found) found
  | failed earlier read fails ih =>
    have met : Meets opset _ _ _ (some _) := ⟨_, read, _, fails⟩
    exact earlier.concat_cases met (fun _ _ found => ih found) found

end Collected

/-- The nodes that are lowered. -/
def keptNodes (nodes : List Model.Node) (fates : List (Option NodeFailure)) : List Model.Node :=
  ((nodes.zip fates).filter fun entry => entry.2.isNone).map Prod.fst

theorem keptNodes_concat (same : fates.length = nodes.length) (node : Model.Node)
    (fate : Option NodeFailure) : keptNodes (nodes ++ [node]) (fates ++ [fate]) =
      keptNodes nodes fates ++ if fate.isNone then [node] else [] := by
  unfold keptNodes
  rw [List.zip_append same.symm]
  cases fate <;> simp

/-- The names that are bound are those of the start and the first outputs of lowered nodes, which
    hand out one tensor each. -/
theorem Collected.bound_iff (collected : Collected opset start nodes fates c) {name : String} :
    c.values.contains name = true ↔ start.values.contains name = true ∨
      name ≠ "" ∧ ∃ node ∈ keptNodes nodes fates, node.outputs.head? = some name := by
  induction collected with
  | nil => simp [keptNodes]
  | @lowered nodes fates c node source outputs g earlier read lowers ih =>
    obtain ⟨_, t, _, _, _, rfl, _⟩ := lowerNode_eq_ok lowers.2
    rw [keptNodes_concat earlier.length_eq, Table.contains, find?_bindOutputs]
    have old : ({ c with graph := g } : Conversion).values.find? name = c.values.find? name := rfl
    rw [old]
    by_cases bound : node.outputs.head? = some name ∧ name ≠ ""
    · rw [if_pos bound]
      refine iff_of_true rfl (Or.inr ⟨bound.2, node, ?_, bound.1⟩)
      simp
    · rw [if_neg bound]
      refine ih.trans (or_congr_right (and_congr_right fun named => ?_))
      have other : node.outputs.head? ≠ some name := fun first => bound ⟨first, named⟩
      simp [or_and_right, exists_or, other]
  | failed earlier read fails ih =>
    rw [keptNodes_concat earlier.length_eq]
    simpa using ih

/-- States that differ in the sources of operators and in what was collected. -/
structure Twin (c c' : Conversion) : Prop where
  graph : c.graph.unsourced = c'.graph.unsourced
  values : c.values = c'.values

namespace Twin

theorem obstacle?_eq (twin : Twin c c') (node : Model.Node) :
    c'.obstacle? node = c.obstacle? node := by
  unfold obstacle? unlowered
  rw [twin.values]

theorem lowers (twin : Twin c c') {source' : SourceNode} {outputs : List Tensor} {g : Graph}
    {position position' : Option Int}
    (read : SourceNode.ofModel node opset position = .ok source)
    (read' : SourceNode.ofModel node opset position' = .ok source')
    (lowers : c.Lowers node source outputs g) :
    ∃ g', c'.Lowers node source' outputs g' ∧ g.unsourced = g'.unsourced := by
  obtain ⟨clear, lowered⟩ := lowers
  obtain ⟨opType, opset_eq, stored⟩ := SourceNode.ofModel_eq_ok read
  obtain ⟨opType', opset_eq', stored'⟩ := SourceNode.ofModel_eq_ok read'
  have operands : c'.operandsOf node = c.operandsOf node := by
    unfold operandsOf
    rw [twin.values]
  obtain ⟨g', lowered', same⟩ := lowerNode_unsourced (opType.trans opType'.symm)
    (opset_eq.trans opset_eq'.symm) (Except.ok.inj (stored.symm.trans stored')) twin.graph lowered
  exact ⟨g', ⟨(twin.obstacle?_eq node).trans clear, operands ▸ lowered'⟩, same⟩

theorem bindOutputs (twin : Twin c c') (names : List String) (outputs : List Tensor) :
    Twin (c.bindOutputs names outputs) (c'.bindOutputs names outputs) := by
  rw [bindOutputs_eq, bindOutputs_eq, twin.values]
  exact ⟨twin.graph, rfl⟩

theorem addOutput (twin : Twin c c') (value : Model.ValueInfo) :
    Twin (c.addOutput value) (c'.addOutput value) := by
  unfold Conversion.addOutput
  rw [twin.values]
  cases c'.values.find? value.name with
  | none => exact ⟨twin.graph, twin.values⟩
  | some t =>
    refine ⟨?_, rfl⟩
    have added : ∀ g : Graph, (g.addOutput t).unsourced = g.unsourced.addOutput t := fun _ => rfl
    change (c.graph.addOutput t).unsourced = (c'.graph.addOutput t).unsourced
    rw [added, added, twin.graph]

end Twin

/-- A strict loop over the nodes that are lowered goes the same way. -/
theorem Collected.replayed (collected : Collected opset start nodes fates c) :
    ∃ c', nodesStep true opset (keptNodes nodes fates) start = .ok () c' ∧ Twin c c' := by
  induction collected with
  | nil => exact ⟨start, rfl, rfl, rfl⟩
  | @lowered nodes fates c node source outputs g earlier read lowers ih =>
    obtain ⟨c', done, twin⟩ := ih
    have read' : ∃ source', SourceNode.ofModel node opset
        (some ((keptNodes nodes fates).length : Int)) = .ok source' := by
      obtain ⟨_, _, stored⟩ := SourceNode.ofModel_eq_ok read
      unfold SourceNode.ofModel
      rw [stored]
      exact ⟨_, rfl⟩
    obtain ⟨source', read'⟩ := read'
    obtain ⟨g', lowers', same⟩ := twin.lowers read read' lowers
    have reached : Twin { c with graph := g } { c' with graph := g' } := ⟨same, twin.values⟩
    refine ⟨_, ?_, reached.bindOutputs node.outputs outputs⟩
    rw [keptNodes_concat earlier.length_eq]
    exact nodesStep_concat_eq_ok_iff.mpr ⟨c', done, nodeStep_of_lowers read' lowers'⟩
  | failed earlier read fails ih =>
    obtain ⟨c', done, twin⟩ := ih
    refine ⟨c', ?_, twin.graph, twin.values⟩
    rw [keptNodes_concat earlier.length_eq]
    simpa using done

end Conversion

end ReductionIR
