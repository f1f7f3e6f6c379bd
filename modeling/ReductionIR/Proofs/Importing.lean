import ReductionIR.Proofs.Isolation
/-
The opset that a conversion uses and the one that it reports. Both come from the versions of the
default domain among the imports: every node is lowered at the first of them, and the last one is
reported. So the two agree just when these versions do.
-/
namespace ReductionIR

open Stepwise

variable {codec : Codec}

namespace Model

/-- The versions of the default domain that a model imports, under either of its names. -/
def defaultVersions (m : Model) : List Int :=
  (m.opsetImports.filter fun entry => defaultDomains.contains entry.1).map Prod.snd

/-- A model with no other import than a version of the default domain. -/
def withOpset (m : Model) (opset : Int) : Model := { m with opsetImports := [("", opset)] }

variable {m : Model} {opset : Int}

theorem defaultOpset_eq_ok_iff :
    m.defaultOpset = .ok opset ↔ m.defaultVersions.head? = some opset := by
  rw [defaultOpset, defaultVersions, List.head?_map, List.head?_filter]
  cases m.opsetImports.find? fun entry => defaultDomains.contains entry.1 with
  | none => simp
  | some entry => simp

/-- Both names of the default domain become one key, which the last version is written under. -/
theorem find?_opsets (m : Model) : m.opsets.find? "ai.onnx" = m.defaultVersions.getLast? := by
  unfold opsets defaultVersions
  rw [Table.find?_ofList, Table.lastValue?, List.filter_map, List.map_map]
  have same : ((fun pair : String × Int => decide (pair.1 = "ai.onnx")) ∘ fun entry : String × Int =>
      (if entry.1 = "" then "ai.onnx" else entry.1, entry.2)) =
        fun entry => defaultDomains.contains entry.1 := by
    funext entry
    by_cases unnamed : entry.1 = "" <;> simp [defaultDomains, unnamed]
  rw [same]
  rfl

end Model

namespace Conversion

variable {registry : Registry} {strict : Bool} {opset : Int} {node : Model.Node} {position : Nat}
  {c c' : Conversion}

theorem failed_of_note {failure : NodeFailure} (done : note strict failure c = .ok () c') :
    strict = false ∧ c'.failures = c.failures ++ [failure] := by
  cases strict with
  | true => contradiction
  | false =>
    cases done
    exact ⟨rfl, rfl⟩

/-- Whatever the registry is, a turn that comes to an end lowers its node at the opset or, unless
    the conversion is strict, adds one failure. -/
theorem lowered_or_failed_of_nodeStep
    (done : nodeStep registry strict opset node position c = .ok () c') :
    (∃ source outputs g, SourceNode.ofModel node opset (some (position : Int)) = .ok source ∧
        lowerNode registry source (c.operandsOf node) c.graph = (.ok outputs, g) ∧
        c' = { c with graph := g }.bindOutputs node.outputs outputs) ∨
      strict = false ∧ ∃ failure, c'.failures = c.failures ++ [failure] := by
  unfold nodeStep at done
  obtain ⟨source, _, read, done⟩ := bind_eq_ok_iff.mp done
  rw [ofExcept_apply] at read
  cases stored : SourceNode.ofModel node opset (some (position : Int)) with
  | error failure =>
    rw [stored] at read
    contradiction
  | ok source =>
    rw [stored] at read
    cases read
    obtain ⟨_, _, here, done⟩ := bind_eq_ok_iff.mp done
    cases here
    -- an obstacle is noted without a lowering; a failed lowering is noted after it
    cases obstacle : c.obstacle? node with
    | some cause =>
      rw [obstacle] at done
      obtain ⟨lenient, added⟩ := failed_of_note done
      exact Or.inr ⟨lenient, _, added⟩
    | none =>
      rw [obstacle] at done
      unfold lowerStep at done
      obtain ⟨_, _, here, done⟩ := bind_eq_ok_iff.mp done
      cases here
      cases lowered : lowerNode registry source (c.operandsOf node) c.graph with
      | mk result g =>
        rw [lowered] at done
        cases result with
        | ok outputs =>
          cases done
          exact Or.inl ⟨source, outputs, g, rfl, lowered, rfl⟩
        | error fault =>
          cases fault with
          | node failure =>
            obtain ⟨_, _, kept, done⟩ := bind_eq_ok_iff.mp done
            cases kept
            cases strict with
            | true => contradiction
            | false =>
              cases done
              exact Or.inr ⟨rfl, failure, rfl⟩
          | _ => contradiction

/-- A loop that comes to an end passed each of its turns. -/
theorem turn_of_forM {β : Type} {l : List β} {f : β → Step Unit} {i : Nat} {b : β}
    (found : l[i]? = some b) (done : l.forM f c = .ok () c') :
    ∃ before after, (l.take i).forM f c = .ok () before ∧ f b before = .ok () after ∧
      (l.take (i + 1)).forM f c = .ok () after := by
  have next : l.take (i + 1) = l.take i ++ [b] := by
    rw [List.take_add_one, found, Option.toList_some]
  rw [← List.take_append_drop (i + 1) l] at done
  obtain ⟨after, passed, _⟩ := forM_append_eq_ok_iff.mp done
  obtain ⟨before, earlier, turn⟩ := forM_append_eq_ok_iff.mp (next ▸ passed)
  obtain ⟨_, middle, turn, same⟩ := bind_eq_ok_iff.mp turn
  cases same
  exact ⟨before, after, earlier, turn, passed⟩

end Conversion

open Conversion

/-- From one conversion to the next a node is lowered, with the entry that its operator has at an
    opset. -/
def Model.Node.LoweredAt (node : Node) (registry : Registry) (opset : Int) (position : Nat)
    (before after : Converted) : Prop :=
  ∃ source entry outputs, SourceNode.ofModel node opset (some (position : Int)) = .ok source ∧
    registry.resolve node.opType opset = .ok entry ∧
    Lowering.runEntry entry
        { node := source, operands := before.operandsOf node, graph := before.graph } =
      (.ok outputs, after.graph) ∧
    after.failures = before.failures

section Import

variable {m : Model} {registry : Registry} {strict : Bool} {sourceName : String}
  {converted : Converted} {warnings : List String} {opset : Int}

theorem take_zipIdx {β : Type} (l : List β) (count : Nat) :
    l.zipIdx.take count = (l.take count).zipIdx := by
  refine List.ext_getElem? ?_
  intro i
  simp only [List.getElem?_take, List.getElem?_zipIdx]
  split <;> rfl

theorem lowerNode_eq_ok_of_any {source : SourceNode} {operands : List (Option Tensor)}
    {g g' : Graph} {outputs : List Tensor}
    (lowered : lowerNode registry source operands g = (.ok outputs, g')) :
    ∃ entry, registry.resolve source.opType source.opset = .ok entry ∧
      Lowering.runEntry entry { node := source, operands, graph := g } = (.ok outputs, g') := by
  unfold lowerNode at lowered
  split at lowered
  · cases lowered
  · rename_i entry found
    exact ⟨entry, found, lowered⟩

theorem Model.lowered_or_failed_of_convert
    (done : m.convert codec registry strict sourceName = (.ok converted, warnings))
    (imported : m.defaultOpset = .ok opset) {position : Nat} {node : Model.Node}
    (found : m.graph.nodes[position]? = some node) :
    ∃ before after earlier later,
      (m.upTo position).convert codec registry strict sourceName = (.ok before, earlier) ∧
      (m.upTo (position + 1)).convert codec registry strict sourceName = (.ok after, later) ∧
      (node.LoweredAt registry opset position before after ∨
        strict = false ∧ ∃ failure, after.failures = before.failures ++ [failure]) := by
  obtain ⟨_, _, same, steps, rfl, _⟩ := convert_eq_ok_iff.mp done
  cases imported.symm.trans same
  obtain ⟨c₁, c₂, c₃, first, second, third, _⟩ := steps_eq_ok steps
  have numbered : m.graph.nodes.zipIdx[position]? = some (node, position) := by
    simp [found]
  obtain ⟨c, c', earlier, turn, later⟩ := turn_of_forM numbered third
  rw [take_zipIdx] at earlier later
  have reach {count : Nat} {state : Conversion}
      (passed : (m.graph.nodes.take count).zipIdx.forM
        (fun node => nodeStep registry strict opset node.1 node.2) c₂ = .ok () state) :
      (m.upTo count).convert codec registry strict sourceName =
        (.ok (m.handOut strict sourceName state), state.warnings) :=
    convert_eq_ok_iff.mpr ⟨opset, state, imported,
      steps_of_stages (m := (m.upTo count).graph) first second passed rfl, rfl, rfl⟩
  refine ⟨_, _, _, _, reach earlier, reach later, ?_⟩
  rcases lowered_or_failed_of_nodeStep turn with ⟨source, outputs, g, read, lowered, rfl⟩ | failed
  · obtain ⟨entry, resolved, ran⟩ := lowerNode_eq_ok_of_any lowered
    obtain ⟨opType, opset_eq, _⟩ := SourceNode.ofModel_eq_ok read
    rw [opType, opset_eq] at resolved
    left
    refine ⟨source, entry, outputs, read, resolved, ?_, failures_bindOutputs ..⟩
    change _ = (_, (Conversion.bindOutputs ..).graph)
    rw [graph_bindOutputs]
    exact ran
  · exact Or.inr failed

/-- All other imports only show in the report: with the one version that is used the conversion
    goes the same way. -/
theorem Model.convert_withOpset
    (done : m.convert codec registry strict sourceName = (.ok converted, warnings))
    (imported : m.defaultOpset = .ok opset) :
    (m.withOpset opset).convert codec registry strict sourceName =
      (.ok { converted with opsets := Table.ofList [("ai.onnx", opset)] }, warnings) := by
  obtain ⟨_, c, same, steps, rfl, rfl⟩ := convert_eq_ok_iff.mp done
  cases imported.symm.trans same
  exact convert_eq_ok_iff.mpr ⟨opset, c, rfl, steps, rfl, rfl⟩

/-- A conversion uses the first version of the default domain and reports the last one. Each node
    is lowered at the version in use, or it fails; and the reported version is this one just when
    the first and the last version are the same. -/
theorem opsets_used_and_reported
    (done : m.convert codec registry strict sourceName = (.ok converted, warnings)) :
    ∃ used reported, m.defaultOpset = .ok used ∧ converted.opsets.find? "ai.onnx" = some reported ∧
      m.defaultVersions.head? = some used ∧ m.defaultVersions.getLast? = some reported ∧
      (reported = used ↔ m.defaultVersions.getLast? = m.defaultVersions.head?) ∧
      (m.withOpset used).convert codec registry strict sourceName =
        (.ok { converted with opsets := Table.ofList [("ai.onnx", used)] }, warnings) ∧
      ∀ position node, m.graph.nodes[position]? = some node → ∃ before after earlier later,
        (m.upTo position).convert codec registry strict sourceName = (.ok before, earlier) ∧
        (m.upTo (position + 1)).convert codec registry strict sourceName = (.ok after, later) ∧
        (node.LoweredAt registry used position before after ∨
          strict = false ∧ ∃ failure, after.failures = before.failures ++ [failure]) := by
  obtain ⟨used, _, imported, _, rfl, _⟩ := Model.convert_eq_ok_iff.mp done
  have first := Model.defaultOpset_eq_ok_iff.mp imported
  -- there is a first version, so there is a last one
  obtain ⟨reported, last⟩ : ∃ reported, m.defaultVersions.getLast? = some reported := by
    cases versions : m.defaultVersions with
    | nil =>
      rw [versions] at first
      contradiction
    | cons version more => exact ⟨_, List.getLast?_cons⟩
  refine ⟨used, reported, imported, m.find?_opsets.trans last, first, last, ?_,
    Model.convert_withOpset done imported, ?_⟩
  · rw [first, last, Option.some.injEq]
  · intro position node found
    exact Model.lowered_or_failed_of_convert done imported found

end Import

/-- A reduction under two versions: an operand gives the axes from 13 on, an attribute before. -/
def sumUnder (imports : List (String × Int)) : Model :=
  { opsetImports := imports
    graph :=
      { name := "m"
        inputs := [⟨"x", .tensor 1 (.ranked [.known 2, .known 3])⟩]
        outputs := [⟨"y", .tensor 1 .unknownRank⟩]
        nodes :=
          [{ opType := "ReduceSum", inputs := ["x"], outputs := ["y"]
             attributes := [{ name := "axes", data := .ints [1] }] }] } }

/-- Version 13 is used, so the axes of the attribute are not read; but version 1 is reported. -/
theorem other_version_is_reported : ∃ converted warnings,
    (sumUnder [("", 13), ("ai.onnx", 1)]).convert .current .standard true "m" =
      (.ok converted, warnings) ∧
    (sumUnder [("", 13), ("ai.onnx", 1)]).defaultOpset = .ok 13 ∧
    converted.opsets.find? "ai.onnx" = some 1 := by
  obtain ⟨converted, warnings, done⟩ : ∃ converted warnings,
      (sumUnder [("", 13), ("ai.onnx", 1)]).convert .current .standard true "m" =
        (.ok converted, warnings) := Model.exists_converted (by decide +kernel)
  have shown :
      ((sumUnder [("", 13), ("ai.onnx", 1)]).convert .current .standard true "m").1.toOption.map
      (fun converted => converted.opsets.find? "ai.onnx") = some (some 1) := by decide +kernel
  rw [done] at shown
  exact ⟨converted, warnings, done, Model.defaultOpset_eq_ok_iff.mpr (by decide +kernel),
    Option.some.inj shown⟩

/-- Two names for one version, after an import of another domain. -/
theorem one_version_is_used_and_reported : ∃ converted warnings,
    (sumUnder [("local", 3), ("ai.onnx", 1), ("", 1)]).convert .current .standard true "m" =
      (.ok converted, warnings) ∧
    converted.opsets.find? "ai.onnx" = some 1 ∧
    ∃ node before after, (sumUnder []).graph.nodes = [node] ∧
      node.LoweredAt .standard 1 0 before after := by
  obtain ⟨converted, warnings, done⟩ : ∃ converted warnings,
      (sumUnder [("local", 3), ("ai.onnx", 1), ("", 1)]).convert .current .standard true "m" =
        (.ok converted, warnings) := Model.exists_converted (by decide +kernel)
  obtain ⟨used, reported, _, shown, first, _, same, _, turns⟩ := opsets_used_and_reported done
  have versions : (sumUnder [("local", 3), ("ai.onnx", 1), ("", 1)]).defaultVersions = [1, 1] := by
    decide +kernel
  rw [versions] at first same
  cases first
  cases same.mpr rfl
  obtain ⟨before, after, _, _, _, _, lowered | ⟨lenient, _⟩⟩ := turns 0 _ rfl
  · exact ⟨converted, warnings, done, shown, _, before, after, rfl, lowered⟩
  · contradiction

end ReductionIR
