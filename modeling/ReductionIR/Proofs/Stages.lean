import ReductionIR.Proofs.Isolation
/-
Where a conversion ends. What is given comes in whatever the nodes are, and only the loop over
nodes knows whether the conversion is strict; a loop that ends with a fault has passed all nodes
before the one that ended it.
-/
namespace ReductionIR

open Stepwise

variable {codec : Codec}

theorem Stepwise.bind_of_ok {σ α β : Type} {x : EStateM Fault σ α} {f : α → EStateM Fault σ β}
    {d middle : σ} {a : α} (first : x d = .ok a middle) : (x >>= f) d = f a middle := by
  change EStateM.bind x f d = _
  unfold EStateM.bind
  rw [first]

theorem Stepwise.bind_of_error {σ α β : Type} {x : EStateM Fault σ α} {f : α → EStateM Fault σ β}
    {d d' : σ} {fault : Fault} (ended : x d = .error fault d') :
    (x >>= f) d = .error fault d' :=
  bind_eq_error_iff.mpr (Or.inl ended)

namespace Conversion

variable {strict : Bool} {opset : Int} {start c c' : Conversion} {nodes : List Model.Node}
  {fault : Fault}

theorem nodesStep_concat (node : Model.Node) :
    nodesStep strict opset (nodes ++ [node]) =
      nodesStep strict opset nodes >>= fun _ =>
        nodeStep .standard strict opset node nodes.length := by
  unfold nodesStep
  rw [List.zipIdx_append, Nat.zero_add]
  simp only [List.zipIdx_cons, List.zipIdx_nil, List.forM_eq_forM, List.forM_append,
    List.forM_cons, List.forM_nil, bind_pure_unit]

/-- A loop that ends with a fault passed the nodes before the one that ended it. -/
theorem nodesStep_eq_error (ended : nodesStep strict opset nodes start = .error fault c') :
    ∃ i node c, nodes[i]? = some node ∧ nodesStep strict opset (nodes.take i) start = .ok () c ∧
      nodeStep .standard strict opset node i c = .error fault c' := by
  induction nodes using List.reverseRecOn with
  | nil => contradiction
  | append_singleton nodes node ih =>
    rw [nodesStep_concat] at ended
    -- a turn among the first nodes ended the loop, or the last turn did
    rcases bind_eq_error_iff.mp ended with early | ⟨_, c, passed, turn⟩
    · obtain ⟨i, met, before, found, passed, turn⟩ := ih early
      have inside : i < nodes.length := (List.getElem?_eq_some_iff.mp found).1
      refine ⟨i, met, before, ?_, ?_, turn⟩
      · rw [List.getElem?_append_left inside, found]
      · rw [List.take_append_of_le_length (Nat.le_of_lt inside), passed]
    · refine ⟨nodes.length, node, c, List.getElem?_concat_length, ?_, turn⟩
      rw [List.take_left, passed]

theorem nodesStep_take_succ {i : Nat} {node : Model.Node} (found : nodes[i]? = some node)
    (passed : nodesStep strict opset (nodes.take i) start = .ok () c) :
    nodesStep strict opset (nodes.take (i + 1)) start =
      nodeStep .standard strict opset node i c := by
  have inside : i < nodes.length := (List.getElem?_eq_some_iff.mp found).1
  have length : (nodes.take i).length = i := by
    rw [List.length_take]
    omega
  rw [List.take_add_one, found, Option.toList_some, nodesStep_concat, length]
  exact bind_of_ok passed

theorem failures_prefix_of_nodeStep {node : Model.Node} {position : Nat}
    (done : nodeStep .standard strict opset node position c = .ok () c') :
    c.failures <+: c'.failures := by
  obtain ⟨source, _, ⟨outputs, g, _, rfl⟩ | ⟨_, failure, added, _, rfl⟩⟩ :=
    nodeStep_eq_ok_iff.mp done
  · rw [failures_bindOutputs]
  · exact List.prefix_append _ _

/-- A loop that comes to an end passed the first nodes, with some of its failures. -/
theorem passed_of_nodesStep (done : nodesStep strict opset nodes start = .ok () c) (k : Nat) :
    ∃ before, nodesStep strict opset (nodes.take k) start = .ok () before ∧
      before.failures <+: c.failures := by
  induction nodes using List.reverseRecOn generalizing c with
  | nil => exact ⟨c, by rwa [List.take_nil], List.prefix_rfl⟩
  | append_singleton nodes node ih =>
    obtain ⟨middle, early, late⟩ := nodesStep_concat_eq_ok_iff.mp done
    rcases Nat.lt_or_ge nodes.length k with beyond | inside
    · refine ⟨c, ?_, List.prefix_rfl⟩
      rw [List.take_of_length_le (by simpa using beyond), done]
    · obtain ⟨before, passed, fewer⟩ := ih early
      refine ⟨before, ?_, fewer.trans (failures_prefix_of_nodeStep late)⟩
      rw [List.take_append_of_le_length inside, passed]

theorem forM_eq_error {β : Type} {l : List β} {f : β → Step Unit}
    (ended : l.forM f start = .error fault c') : ∃ b c, f b c = .error fault c' := by
  induction l generalizing start with
  | nil => contradiction
  | cons b rest ih =>
    rcases bind_eq_error_iff.mp ended with here | ⟨_, middle, _, later⟩
    · exact ⟨b, start, here⟩
    · exact ih later

theorem addInitializer_eq_error {init : Model.Initializer} {index : Nat}
    (ended : addInitializer codec init index c = .error fault c') :
    ∃ failure, fault = .bare failure := by
  unfold addInitializer at ended
  rcases bind_eq_error_iff.mp ended with unread | ⟨_, _, _, entered⟩
  · rw [ofExcept_apply] at unread
    cases read : init.tensor codec (.given index) with
    | error failure =>
      rw [read] at unread
      cases unread
      exact ⟨failure, rfl⟩
    | ok t =>
      rw [read] at unread
      contradiction
  · contradiction

end Conversion

open Conversion

/-- What a conversion has reached when everything given has come in. -/
structure Model.Enters (codec : Codec) (m : Model) (sourceName : String) (opset : Int)
    (c : Conversion) : Prop where
  imported : m.defaultOpset = .ok opset
  stages : ∃ c₁,
    m.graph.initializers.zipIdx.forM (fun init => addInitializer codec init.1 init.2)
      (m.startOf sourceName) = .ok () c₁ ∧
    (m.graph.inputs.zipIdx m.graph.initializers.length).forM
      (fun value => (modify (addInput value.1 value.2) : Step Unit)) c₁ = .ok () c

/-- A model with other nodes and outputs. -/
def Model.withParts (m : Model) (nodes : List Model.Node) (outputs : List Model.ValueInfo) : Model :=
  { m with graph := { m.graph with nodes, outputs } }

section Entering

variable {m : Model} {sourceName : String} {opset : Int} {c : Conversion}

theorem Model.Enters.failures_eq (enters : m.Enters codec sourceName opset c) :
    c.failures = [] := by
  obtain ⟨_, c₁, first, second⟩ := enters
  exact failures_of_stages first second

theorem Model.Enters.bound_iff (enters : m.Enters codec sourceName opset c) (name : String) :
    c.values.contains name = true ↔ name ∈ m.graph.givenNames := by
  obtain ⟨_, c₁, first, second⟩ := enters
  rw [bound_of_stages first second]
  exact or_iff_right Bool.false_ne_true

theorem Model.enters_of_convert {strict : Bool} {converted : Converted} {warnings : List String}
    (done : m.convert codec .standard strict sourceName = (.ok converted, warnings)) :
    ∃ opset start c, m.Enters codec sourceName opset start ∧
      nodesStep strict opset m.graph.nodes start = .ok () c ∧
      converted = m.handOut strict sourceName (addOutputs m.graph.outputs c) := by
  obtain ⟨opset, _, imported, steps, rfl, _⟩ := Model.convert_eq_ok_iff.mp done
  obtain ⟨c₁, start, c, first, second, third, fourth⟩ := Conversion.steps_eq_ok steps
  rw [forM_modify] at fourth
  cases fourth
  exact ⟨opset, start, c, ⟨imported, c₁, first, second⟩, third, rfl⟩

theorem Model.convert_of_ended {strict : Bool} {fault : Fault} (imported : m.defaultOpset = .ok opset)
    (ended : Conversion.steps codec .standard strict opset m.graph (m.startOf sourceName) =
      .error fault c) :
    m.convert codec .standard strict sourceName = (.error fault, c.warnings) := by
  rw [Model.startOf] at ended
  simp only [Model.convert, imported, EStateM.run, ended]

/-- The rest of a conversion is the loop over nodes; outputs cannot end it. -/
theorem Model.Enters.convert_eq (enters : m.Enters codec sourceName opset c) (strict : Bool)
    (nodes : List Model.Node) (outputs : List Model.ValueInfo) :
    (m.withParts nodes outputs).convert codec .standard strict sourceName =
      match nodesStep strict opset nodes c with
      | .ok () c => (.ok (m.handOut strict sourceName (addOutputs outputs c)),
          (addOutputs outputs c).warnings)
      | .error fault c => (.error fault, c.warnings) := by
  obtain ⟨imported, c₁, first, second⟩ := enters
  cases third : nodesStep strict opset nodes c with
  | ok u c₃ => exact Model.convert_of_stages nodes outputs imported first second third
  | error fault c₃ =>
    refine Model.convert_of_ended (m := m.withParts nodes outputs) imported ?_
    unfold Conversion.steps
    apply bind_eq_error_iff.mpr
    refine Or.inr ⟨(), c₁, first, bind_eq_error_iff.mpr (Or.inr ⟨(), c, second, ?_⟩)⟩
    exact bind_eq_error_iff.mpr (Or.inl third)

/-- What is given comes in, or the conversion ends before the first node, whatever the nodes are. -/
theorem Model.enters_or_ends (m : Model) (codec : Codec) (sourceName : String) :
    (∃ opset c, m.Enters codec sourceName opset c) ∨
      ∃ fault warnings, (∀ failure, fault ≠ .node failure) ∧ ∀ strict nodes outputs,
        (m.withParts nodes outputs).convert codec .standard strict sourceName =
          (.error fault, warnings) := by
  cases imported : m.defaultOpset with
  | error failure =>
    refine Or.inr ⟨.model failure, [], ?_, ?_⟩
    · intro _ same
      cases same
    · intro strict nodes outputs
      have same : (m.withParts nodes outputs).defaultOpset = .error failure := imported
      simp only [Model.convert, same]
  | ok opset =>
    cases first : m.graph.initializers.zipIdx.forM
        (fun init => addInitializer codec init.1 init.2) (m.startOf sourceName) with
    | ok u c₁ =>
      exact Or.inl ⟨opset, _, imported, c₁, first, forM_modify (fun value c =>
        addInput value.1 value.2 c) (m.graph.inputs.zipIdx m.graph.initializers.length) c₁⟩
    | error fault c₁ =>
      obtain ⟨init, before, turn⟩ := forM_eq_error first
      obtain ⟨failure, rfl⟩ := addInitializer_eq_error turn
      refine Or.inr ⟨.bare failure, c₁.warnings, ?_, ?_⟩
      · intro _ same
        cases same
      · intro strict nodes outputs
        exact Model.convert_of_ended (m := m.withParts nodes outputs) imported
          (bind_eq_error_iff.mpr (Or.inl first))

end Entering

end ReductionIR
