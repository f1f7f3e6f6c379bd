import ReductionIR.Proofs.Acceptance
import ReductionIR.Proofs.Isolation
/-
When a conversion that collects failures gives a result. Attributes and initializers that cannot
be read end it, and so do axes that cannot be handled; there is no other way to end it.
-/
namespace ReductionIR

open Stepwise

variable {codec : Codec}

theorem Conversion.breaks_iff {c : Conversion} {node : Model.Node} {source : SourceNode} :
    (∃ fault g, c.Breaks node source fault g) ↔ c.obstacle? node = none ∧
      firstReason (source.endings (c.operandsOf node)) = some .broken := by
  have decided := lowerNode_decided source (c.operandsOf node) c.graph
  cases first : firstReason (source.endings (c.operandsOf node)) with
  | none =>
    rw [first] at decided
    obtain ⟨t, g, lowered⟩ := decided
    simp [Breaks, lowered]
  | some ending =>
    rw [first] at decided
    cases ending with
    | rejected kind =>
      obtain ⟨failure, refused, _⟩ := decided
      simp [Breaks, refused, Fault.Blamed]
    | broken =>
      obtain ⟨failure, g, broken⟩ := decided
      simp [Breaks, broken, Fault.Blamed]

/-- A node is tried after the conversion of the nodes before it, and its axes cannot be handled:
    a constant of axes does not hold integers, or axes are no integers of 64 bits. -/
def Converted.Stalls (before : Converted) (node : Model.Node) (opset : Int) (position : Nat) :
    Prop :=
  before.Binds node ∧ node.domain ∈ ["", "ai.onnx"] ∧ ∃ source,
    SourceNode.ofModel node opset (some (position : Int)) = .ok source ∧
      firstReason (source.endings (before.operandsOf node)) = some .broken

namespace Conversion

/-- A collecting turn comes to an end unless the attributes cannot be read or the node stalls. -/
theorem exists_nodeStep_iff {c : Conversion} {node : Model.Node} {opset : Int} {position : Nat}
    (m : Model) (strict : Bool) (sourceName : String) :
    (∃ c', nodeStep .standard false opset node position c = .ok () c') ↔
      (∃ store, Model.storeOf node.attributes = .ok store) ∧
        ¬ (m.handOut strict sourceName c).Stalls node opset position := by
  constructor
  · rintro ⟨c', done⟩
    obtain ⟨source, read, _⟩ := nodeStep_eq_ok_iff.mp done
    refine ⟨⟨_, (SourceNode.ofModel_eq_ok read).2.2⟩, ?_⟩
    rintro ⟨binds, domain, source', read', broken⟩
    obtain rfl : source = source' := Except.ok.inj (read.symm.trans read')
    obtain ⟨fault, g, breaks⟩ :=
      breaks_iff.mpr ⟨obstacle?_eq_none_iff.mpr ⟨binds, domain⟩, broken⟩
    rw [nodeStep_of_breaks read breaks] at done
    contradiction
  · rintro ⟨⟨store, stored⟩, fine⟩
    obtain ⟨source, read⟩ : ∃ source,
        SourceNode.ofModel node opset (some (position : Int)) = .ok source := by
      unfold SourceNode.ofModel
      rw [stored]
      exact ⟨_, rfl⟩
    rcases lowers_or_fails_or_breaks c node source with
      ⟨outputs, g, lowers⟩ | ⟨failure, added, fails⟩ | ⟨fault, g, breaks⟩
    · exact ⟨_, nodeStep_of_lowers read lowers⟩
    · exact ⟨_, nodeStep_of_fails read fails⟩
    · obtain ⟨clear, broken⟩ := breaks_iff.mp ⟨fault, g, breaks⟩
      obtain ⟨binds, domain⟩ := obstacle?_eq_none_iff.mp clear
      exact absurd ⟨binds, domain, source, read, broken⟩ fine

theorem exists_forM_iff {β : Type} (P : β → Prop) {f : β → Step Unit}
    (each : ∀ b c, (∃ c', f b c = .ok () c') ↔ P b) (l : List β) (c : Conversion) :
    (∃ c', l.forM f c = .ok () c') ↔ ∀ b ∈ l, P b := by
  induction l generalizing c with
  | nil => exact iff_of_true ⟨c, rfl⟩ fun _ member => nomatch member
  | cons b rest ih =>
    rw [List.forall_mem_cons]
    constructor
    · rintro ⟨c', done⟩
      obtain ⟨_, middle, first, later⟩ := bind_eq_ok_iff.mp done
      exact ⟨(each b c).mp ⟨middle, first⟩, (ih middle).mp ⟨c', later⟩⟩
    · rintro ⟨here, others⟩
      obtain ⟨middle, first⟩ := (each b c).mpr here
      obtain ⟨c', later⟩ := (ih middle).mpr others
      exact ⟨c', bind_eq_ok_iff.mpr ⟨(), middle, first, later⟩⟩

theorem exists_addInitializer_iff {init : Model.Initializer} {index : Nat} {c : Conversion} :
    (∃ c', addInitializer codec init index c = .ok () c') ↔
      ∃ data, codec.array init = .ok data := by
  constructor
  · rintro ⟨c', done⟩
    obtain ⟨data, stored, _⟩ := addInitializer_eq_ok.mp done
    exact ⟨data, stored⟩
  · rintro ⟨data, stored⟩
    exact ⟨_, addInitializer_eq_ok.mpr ⟨data, stored, rfl⟩⟩

theorem exists_initializers_iff {inits : List Model.Initializer} {c : Conversion} :
    (∃ c', inits.zipIdx.forM (fun init => addInitializer codec init.1 init.2) c = .ok () c') ↔
      ∀ init ∈ inits, ∃ data, codec.array init = .ok data := by
  rw [exists_forM_iff (fun init => ∃ data, codec.array init.1 = .ok data)
    fun _ _ => exists_addInitializer_iff]
  constructor
  · intro all init member
    obtain ⟨i, found⟩ := List.getElem?_of_mem member
    exact all (init, i) (List.mem_zipIdx_iff_getElem?.mpr found)
  · exact fun all init member => all init.1 (List.fst_mem_of_mem_zipIdx member)

/-- The loop over nodes comes to an end when no node ends it before. -/
theorem exists_nodesStep {opset : Int} {nodes : List Model.Node} {start : Conversion}
    (each : ∀ i node c, nodes[i]? = some node →
      nodesStep false opset (nodes.take i) start = .ok () c →
        ∃ c', nodeStep .standard false opset node i c = .ok () c') :
    ∃ c, nodesStep false opset nodes start = .ok () c := by
  have upTo : ∀ k ≤ nodes.length, ∃ c, nodesStep false opset (nodes.take k) start = .ok () c := by
    intro k
    induction k with
    | zero => exact fun _ => ⟨start, rfl⟩
    | succ k ih =>
      intro below
      obtain ⟨c, early⟩ := ih (Nat.le_of_succ_le below)
      have found : nodes[k]? = some nodes[k] := List.getElem?_eq_getElem below
      obtain ⟨c', late⟩ := each k nodes[k] c found early
      rw [List.take_add_one, found]
      have length : (nodes.take k).length = k := by
        rw [List.length_take]
        omega
      exact ⟨c', nodesStep_concat_eq_ok_iff.mpr ⟨c, early, length.symm ▸ late⟩⟩
  obtain ⟨c, done⟩ := upTo nodes.length (Nat.le_refl _)
  rw [List.take_length] at done
  exact ⟨c, done⟩

end Conversion

/-- A conversion that collects failures gives a result just when the standard domain is imported,
    the initializers and attributes can be read, and no node stalls. -/
theorem collecting_conversion_returns_iff (codec : Codec) (m : Model) (sourceName : String) :
    (∃ converted warnings,
      m.convert codec .standard false sourceName = (.ok converted, warnings)) ↔
      ∃ opset, m.defaultOpset = .ok opset ∧
        (∀ init ∈ m.graph.initializers, ∃ data, codec.array init = .ok data) ∧
        ∀ i node, m.graph.nodes[i]? = some node →
          (∃ store, Model.storeOf node.attributes = .ok store) ∧
          ∀ before earlier,
            (m.upTo i).convert codec .standard false sourceName = (.ok before, earlier) →
              ¬ before.Stalls node opset i := by
  constructor
  · rintro ⟨converted, warnings, done⟩
    obtain ⟨opset, c, imported, steps, _, _⟩ := Model.convert_eq_ok_iff.mp done
    obtain ⟨c₁, c₂, c₃, first, second, third, _⟩ := Conversion.steps_eq_ok steps
    obtain ⟨fates, collected⟩ := Conversion.nodesStep_eq_ok_iff.mp third
    refine ⟨opset, imported, ?_, ?_⟩
    · exact Conversion.exists_initializers_iff.mp ⟨c₁, first⟩
    · intro i node found
      obtain ⟨state, fate, early, _, meets⟩ := collected.at_node found
      have turn := meets.turn
      have fine := (Conversion.exists_nodeStep_iff m false sourceName).mp turn
      refine ⟨fine.1, ?_⟩
      -- the state at the node is what the conversion of the nodes before it hands out
      intro before earlier converts
      have same := Model.convert_of_stages _ [] imported first second
        (Conversion.nodesStep_eq_ok_iff.mpr ⟨_, early⟩)
      cases same.symm.trans converts
      exact fine.2
  · rintro ⟨opset, imported, arrays, nodes⟩
    obtain ⟨c₁, first⟩ :=
      (Conversion.exists_initializers_iff (c := m.startOf sourceName)).mpr arrays
    have second := Conversion.forM_modify (fun value => Conversion.addInput value.1 value.2)
      (m.graph.inputs.zipIdx m.graph.initializers.length) c₁
    obtain ⟨c₃, third⟩ := Conversion.exists_nodesStep fun i node c found early => by
      obtain ⟨store, fine⟩ := nodes i node found
      have before := Model.convert_of_stages (m.graph.nodes.take i) [] imported first second early
      exact (Conversion.exists_nodeStep_iff m false sourceName).mpr ⟨store, fine _ _ before⟩
    exact ⟨_, _, Model.convert_of_stages m.graph.nodes m.graph.outputs imported first second third⟩

/-- A model with one node of an operator that is not supported, tagged with bytes. -/
def taggedModel (tag : List UInt8) : Model :=
  { opsetImports := [("", 18)]
    graph :=
      { name := "m"
        inputs := [⟨"x", .tensor 1 (.ranked [.known 2])⟩]
        nodes :=
          [{ opType := "Foo", inputs := ["x"], outputs := ["y"]
             attributes := [{ name := "tag", data := .text tag }] }] } }

/-- A byte that is no text ends the conversion of a model whose node could be reported. -/
theorem unreadable_tag_ends_a_conversion :
    (taggedModel [255]).defaultOpset = .ok 18 ∧
      (taggedModel [255]).convert .current .standard false "m" = (.error (.bare .notUtf8), []) ∧
      ((taggedModel [65]).convert .current .standard false "m").1.toOption.map
        (fun converted => converted.failures.map NodeFailure.kind) = some [.unsupportedOperator] := by
  refine ⟨rfl, ?_, ?_⟩
  · rfl
  · decide +kernel

end ReductionIR
