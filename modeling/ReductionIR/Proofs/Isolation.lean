import ReductionIR.Proofs.Collecting
import ReductionIR.Proofs.Freshness
/-
A node that fails leaves no trace. What becomes of a node depends on the conversion of the nodes
before it, and the nodes that are lowered make a model of their own, with the same graph.
-/
namespace ReductionIR

open Stepwise

variable {codec : Codec}

namespace Conversion

variable {c : Conversion} {node : Model.Node}

theorem unlowered_eq_nil_iff : c.unlowered node = [] ↔
    ∀ name ∈ node.inputs, name = "" ∨ c.values.contains name = true := by
  unfold unlowered
  rw [List.filter_eq_nil_iff]
  refine forall₂_congr fun name _ => ?_
  by_cases left_out : name = "" <;> simp [left_out]

theorem obstacle?_eq_none_iff : c.obstacle? node = none ↔
    (∀ name ∈ node.inputs, name = "" ∨ c.values.contains name = true) ∧
      node.domain ∈ ["", "ai.onnx"] := by
  rw [← unlowered_eq_nil_iff]
  unfold obstacle?
  cases missing : c.unlowered node with
  | nil => simp [Model.defaultDomains, or_iff_not_imp_left]
  | cons name rest => simp

theorem bound_of_forM {β : Type} {l : List β} {f : β → Step Unit} (nameOf : β → String)
    (each : ∀ b c c', f b c = .ok () c' → ∀ name,
      c'.values.contains name = true ↔ c.values.contains name = true ∨ name = nameOf b)
    {c c' : Conversion} (done : l.forM f c = .ok () c') (name : String) :
    c'.values.contains name = true ↔ c.values.contains name = true ∨ name ∈ l.map nameOf := by
  induction l generalizing c with
  | nil =>
    cases done
    simp
  | cons b rest ih =>
    obtain ⟨_, middle, first, later⟩ := bind_eq_ok_iff.mp done
    rw [ih later, each b c middle first, List.map_cons, List.mem_cons, or_assoc]

theorem contains_insert {κ α : Type} [DecidableEq κ] (table : Table κ α) (key x : κ) (value : α) :
    (table.insert key value).contains x = true ↔ table.contains x = true ∨ x = key := by
  rw [Table.contains, Table.find?_insert]
  by_cases same : x = key <;> simp [same, Table.contains]

theorem bound_of_initializers {inits : List Model.Initializer} {i : Nat} {start c : Conversion}
    (done : (inits.zipIdx i).forM (fun init => addInitializer codec init.1 init.2) start = .ok () c)
    (name : String) : c.values.contains name = true ↔
      start.values.contains name = true ∨ name ∈ inits.map Model.Initializer.name := by
  have bound := bound_of_forM (Model.Initializer.name ∘ Prod.fst) (by
    intro init c c' done name
    obtain ⟨data, _, rfl⟩ := addInitializer_eq_ok.mp done
    exact contains_insert ..) done name
  rwa [← List.map_map, List.zipIdx_map_fst] at bound

theorem bound_of_stages {m : Model.Graph} {start c₁ c₂ : Conversion}
    (first : m.initializers.zipIdx.forM (fun init => addInitializer codec init.1 init.2) start =
      .ok () c₁)
    (second : (m.inputs.zipIdx m.initializers.length).forM
      (fun value => (modify (addInput value.1 value.2) : Step Unit)) c₁ = .ok () c₂)
    (name : String) : c₂.values.contains name = true ↔
      start.values.contains name = true ∨ name ∈ m.givenNames := by
  have inputs := bound_of_forM (Model.ValueInfo.name ∘ Prod.fst) (by
    intro value c c' done name
    obtain rfl := modify_eq_ok.mp done
    unfold addInput
    split
    · rename_i known
      refine (or_iff_left_of_imp ?_).symm
      rintro rfl
      exact known
    · exact contains_insert ..) second name
  rw [← List.map_map, List.zipIdx_map_fst] at inputs
  rw [inputs, bound_of_initializers first, Model.Graph.givenNames, List.mem_append, or_assoc]

theorem failures_of_stages {m : Model.Graph} {start c₁ c₂ : Conversion}
    (first : m.initializers.zipIdx.forM (fun init => addInitializer codec init.1 init.2) start =
      .ok () c₁)
    (second : (m.inputs.zipIdx m.initializers.length).forM
      (fun value => (modify (addInput value.1 value.2) : Step Unit)) c₁ = .ok () c₂) :
    c₂.failures = start.failures := by
  have initialized : c₁.failures = start.failures :=
    initializers_induction (P := fun _ c => c.failures = start.failures)
      (fun _ _ _ _ _ _ same => same) rfl first
  refine inputs_induction (P := fun _ c => c.failures = start.failures) ?_ initialized second
  intro i value c _ same
  unfold addInput
  split <;> exact same

end Conversion

namespace Model

/-- A model with other nodes. -/
def withNodes (m : Model) (nodes : List Node) : Model :=
  { m with graph := { m.graph with nodes } }

/-- The first nodes of a model, with no outputs. -/
def upTo (m : Model) (count : Nat) : Model :=
  { m with graph := { m.graph with nodes := m.graph.nodes.take count, outputs := [] } }

end Model

namespace Converted

variable (before : Converted) (node : Model.Node)

/-- The operands of a node; an empty name leaves one out. -/
def operandsOf : List (Option Tensor) :=
  node.inputs.map fun name => if name = "" then none else before.valueNames.find? name

/-- Every name a node reads stands for a tensor. -/
def Binds : Prop := ∀ name ∈ node.inputs, name = "" ∨ before.valueNames.contains name = true

/-- The fate of a node after a conversion of the nodes before it: it is lowered if its inputs are
    bound, its domain is the standard one, and the lowering succeeds; unbound inputs are missing. -/
structure Decides (opset : Int) (position : Nat) (fate : Option NodeFailure) : Prop where
  lowered_iff : fate = none ↔ before.Binds node ∧ node.domain ∈ ["", "ai.onnx"] ∧
    ∃ source outputs g, SourceNode.ofModel node opset (some (position : Int)) = .ok source ∧
      lowerNode .standard source (before.operandsOf node) before.graph = (.ok outputs, g)
  unbound : ¬ before.Binds node → ∃ failure, fate = some failure ∧ failure.kind = .missingInput

end Converted

namespace Conversion

theorem Meets.decides {opset : Int} {before : Conversion} {i : Nat} {node : Model.Node}
    {fate : Option NodeFailure} (meets : Meets opset before i node fate) (m : Model)
    (strict : Bool) (sourceName : String) :
    (m.handOut strict sourceName before).Decides node opset i fate := by
  obtain ⟨source, read, met⟩ := meets
  constructor
  · constructor
    · rintro rfl
      obtain ⟨outputs, g, clear, lowered⟩ := met
      obtain ⟨binds, domain⟩ := obstacle?_eq_none_iff.mp clear
      exact ⟨binds, domain, source, outputs, g, read, lowered⟩
    · rintro ⟨binds, domain, source', outputs, g, read', lowered⟩
      -- a node that is bound and in the domain is tried, so its fate is that of its lowering
      obtain rfl : source = source' := Except.ok.inj (read.symm.trans read')
      have clear : before.obstacle? node = none := obstacle?_eq_none_iff.mpr ⟨binds, domain⟩
      cases fate with
      | none => rfl
      | some failure =>
        obtain ⟨added, fails⟩ := met
        cases fails with
        | untried obstacle =>
          rw [clear] at obstacle
          contradiction
        | refused _ refused =>
          cases refused.symm.trans lowered
  · intro unbound
    have missing : before.unlowered node ≠ [] := fun none_missing =>
      unbound (unlowered_eq_nil_iff.mp none_missing)
    have obstacle : before.obstacle? node = some (.unloweredInputs (before.unlowered node)) := by
      unfold obstacle?
      simp [missing]
    cases fate with
    | none =>
      obtain ⟨outputs, g, clear, _⟩ := met
      rw [obstacle] at clear
      contradiction
    | some failure =>
      obtain ⟨added, fails⟩ := met
      cases fails with
      | untried other =>
        cases obstacle.symm.trans other
        exact ⟨_, rfl, rfl⟩
      | refused clear _ =>
        rw [obstacle] at clear
        contradiction

theorem forM_modify {β : Type} (f : β → Conversion → Conversion) (l : List β) (c : Conversion) :
    l.forM (fun b => (modify (f b) : Step Unit)) c = .ok () (l.foldl (fun c b => f b c) c) := by
  induction l generalizing c with
  | nil => rfl
  | cons b rest ih => exact ih (f b c)

/-- The last stage of a conversion. -/
def addOutputs (outputs : List Model.ValueInfo) (c : Conversion) : Conversion :=
  outputs.foldl (fun c value => addOutput value c) c

theorem kept_of_outputs (outputs : List Model.ValueInfo) (c : Conversion) :
    (addOutputs outputs c).values = c.values ∧
      (addOutputs outputs c).failures = c.failures := by
  induction outputs generalizing c with
  | nil => exact ⟨rfl, rfl⟩
  | cons value rest ih =>
    have one : (c.addOutput value).values = c.values ∧
        (c.addOutput value).failures = c.failures := by
      unfold addOutput
      split <;> exact ⟨rfl, rfl⟩
    exact ⟨(ih _).1.trans one.1, (ih _).2.trans one.2⟩

theorem Twin.outputs {c c' : Conversion} (twin : Twin c c') (outputs : List Model.ValueInfo) :
    Twin (addOutputs outputs c) (addOutputs outputs c') := by
  induction outputs generalizing c c' with
  | nil => exact twin
  | cons value rest ih => exact ih (twin.addOutput value)

end Conversion

section Stages

open Conversion

variable {m : Model} {sourceName : String} {strict : Bool} {opset : Int} {c₁ c₂ c₃ : Conversion}

/-- A conversion of the same initializers and inputs that goes on with other nodes. -/
theorem Model.convert_of_stages (nodes : List Model.Node) (outputs : List Model.ValueInfo)
    (imported : m.defaultOpset = .ok opset)
    (first : m.graph.initializers.zipIdx.forM (fun init => addInitializer codec init.1 init.2)
      (m.startOf sourceName) = .ok () c₁)
    (second : (m.graph.inputs.zipIdx m.graph.initializers.length).forM
      (fun value => (modify (addInput value.1 value.2) : Step Unit)) c₁ = .ok () c₂)
    (third : nodesStep strict opset nodes c₂ = .ok () c₃) :
    ({ m with graph := { m.graph with nodes, outputs } } : Model).convert codec .standard strict
        sourceName =
      (.ok (m.handOut strict sourceName (addOutputs outputs c₃)),
        (addOutputs outputs c₃).warnings) :=
  Model.convert_eq_ok_iff.mpr ⟨opset, _, imported,
    steps_of_stages first second third (forM_modify _ _ _), rfl, rfl⟩

end Stages

/-- Failures are isolated: each node is lowered or has one failure, whichever the conversion of the
    nodes before it decides, and without the failed nodes a strict conversion gives the same graph,
    but for the sources of its operators. -/
theorem failures_are_isolated (m : Model) (sourceName : String) (converted : Converted)
    (warnings : List String)
    (done : m.convert codec .standard false sourceName = (.ok converted, warnings)) :
    ∃ opset fates, m.defaultOpset = .ok opset ∧ fates.length = m.graph.nodes.length ∧
      converted.failures = fates.filterMap id ∧
      (∀ i node, m.graph.nodes[i]? = some node → ∃ before earlier fate,
        (m.upTo i).convert codec .standard false sourceName = (.ok before, earlier) ∧
        fates[i]? = some fate ∧ before.Decides node opset i fate ∧
        ∀ name, before.valueNames.contains name = true ↔ name ∈ m.graph.givenNames ∨
          name ≠ "" ∧ ∃ node ∈ Conversion.keptNodes (m.graph.nodes.take i) (fates.take i),
            node.outputs.head? = some name) ∧
      ∃ kept silent,
        (m.withNodes (Conversion.keptNodes m.graph.nodes fates)).convert codec .standard true
          sourceName = (.ok kept, silent) ∧
        kept.graph.unsourced = converted.graph.unsourced ∧
        kept.valueNames = converted.valueNames := by
  obtain ⟨opset, c, imported, steps, rfl, _⟩ := Model.convert_eq_ok_iff.mp done
  obtain ⟨c₁, c₂, c₃, first, second, third, fourth⟩ := Conversion.steps_eq_ok steps
  obtain ⟨fates, collected⟩ := Conversion.nodesStep_eq_ok_iff.mp third
  rw [Conversion.forM_modify] at fourth
  cases fourth
  refine ⟨opset, fates, imported, collected.length_eq, ?_, ?_, ?_⟩
  · have failures := collected.failures_eq
    rw [Conversion.failures_of_stages first second] at failures
    exact (Conversion.kept_of_outputs _ _).2.trans failures
  · intro i node found
    obtain ⟨before, fate, earlier, fated, meets⟩ := collected.at_node found
    have converts := Model.convert_of_stages _ [] imported first second
      (Conversion.nodesStep_eq_ok_iff.mpr ⟨_, earlier⟩)
    refine ⟨_, _, fate, converts, fated, meets.decides m false sourceName, ?_⟩
    intro name
    have bound := Conversion.bound_of_stages first second name
    refine earlier.bound_iff.trans (or_congr_left (bound.trans (or_iff_right ?_)))
    exact Bool.false_ne_true
  · obtain ⟨c', replayed, twin⟩ := collected.replayed
    have ends := twin.outputs m.graph.outputs
    have converts := Model.convert_of_stages _ m.graph.outputs imported first second replayed
    exact ⟨_, _, converts, ends.graph.symm, ends.values.symm⟩

/-- Nodes that fail for four reasons, with two reductions between them. -/
def mixedModel : Model :=
  { opsetImports := [("", 13)]
    graph :=
      { name := "m"
        inputs := [⟨"x", .tensor 1 (.ranked [.known 2, .anonymous])⟩]
        outputs := [⟨"y", .tensor 1 .unknownRank⟩, ⟨"b", .tensor 1 .unknownRank⟩]
        nodes :=
          [{ opType := "Softmax", inputs := ["x"], outputs := ["a"] },
           { opType := "ReduceSum", inputs := ["a"], outputs := ["b"] },
           { opType := "ReduceLogSumExp", inputs := ["x"], outputs := ["d"] },
           { opType := "ReduceMax", inputs := ["d"], outputs := ["e"]
             attributes := [{ name := "axes", data := .ints [1, 2] }] },
           { opType := "ReduceSum", domain := "local", inputs := ["d"], outputs := ["f"] },
           { opType := "ReduceMean", inputs := ["d"], outputs := ["y"] }] } }

/-- Four failures, and the same graph without them. -/
theorem mixedModel_is_isolated : ∃ converted warnings,
    mixedModel.convert .current .standard false "m" = (.ok converted, warnings) ∧
    converted.failures.map NodeFailure.kind =
      [.unsupportedOperator, .missingInput, .axisOutOfRange, .unsupportedOperator] ∧
    ∃ fates kept silent, converted.failures = fates.filterMap id ∧
      (mixedModel.withNodes (Conversion.keptNodes mixedModel.graph.nodes fates)).convert .current
        .standard true "m" = (.ok kept, silent) ∧
      kept.graph.unsourced = converted.graph.unsourced := by
  obtain ⟨converted, warnings, done⟩ : ∃ converted warnings,
      mixedModel.convert .current .standard false "m" = (.ok converted, warnings) :=
    Model.exists_converted (by decide +kernel)
  have kinds : (mixedModel.convert .current .standard false "m").1.toOption.map
      (fun converted => converted.failures.map NodeFailure.kind) =
        some [.unsupportedOperator, .missingInput, .axisOutOfRange, .unsupportedOperator] := by
    decide +kernel
  rw [done] at kinds
  obtain ⟨opset, fates, _, _, failures, _, kept, silent, strict, same, _⟩ :=
    failures_are_isolated mixedModel "m" converted warnings done
  exact ⟨converted, warnings, done, Option.some.inj kinds, fates, kept, silent, failures, strict,
    same⟩

end ReductionIR
