import ReductionIR.Proofs.Spelling
import ReductionIR.Proofs.Stages
/-
Fingerprints of nodes that cannot be lowered. The text they are taken of is the code, the stage,
the operator and the kind with nothing escaped. Still the operator and the kind can be read off
it: the kind is what follows the last colon, it settles the code, and the operator is what is left
in the middle. Two reports that differ in either share a fingerprint only where digests collide.
-/
namespace ReductionIR

variable {codec : Codec}

theorem eq_and_eq_of_last {α : Type} {separator : α} {l l' m m' : List α} (clear : separator ∉ m)
    (clear' : separator ∉ m') (same : l ++ separator :: m = l' ++ separator :: m') :
    l = l' ∧ m = m' := by
  rcases List.append_eq_append_iff.mp same with ⟨between, rfl, rest⟩ | ⟨between, rfl, rest⟩
  · cases between with
    | nil => exact ⟨(List.append_nil l).symm, (List.cons.inj rest).2⟩
    | cons _ between =>
      refine absurd ?_ clear
      rw [(List.cons.inj rest).2]
      simp
  · cases between with
    | nil => exact ⟨List.append_nil l', (List.cons.inj rest).2.symm⟩
    | cons _ between =>
      refine absurd ?_ clear'
      rw [(List.cons.inj rest).2]
      simp

namespace FailureKind

theorem label_injective {kind kind' : FailureKind} (same : kind.label = kind'.label) :
    kind = kind' := by
  cases kind <;> cases kind' <;> first | rfl | exact absurd same (by decide)

theorem colon_notMem_label (kind : FailureKind) : ':' ∉ kind.label.toList := by
  cases kind <;> decide

end FailureKind

namespace Report

/-- The text that the fingerprint of a report is taken of. -/
def fingerprinted (r : Report) : String := fingerprintText r.code r.stage r.signature

/-- The bytes of the digest that a fingerprint shows. -/
def shownDigest (r : Report) : List UInt8 := (Sha256.digest r.fingerprinted.toUTF8.toList).take 8

/-- The digests of two different texts agree as far as fingerprints show them. -/
def Collide (r r' : Report) : Prop :=
  r.fingerprinted.toUTF8.toList ≠ r'.fingerprinted.toUTF8.toList ∧ r.shownDigest = r'.shownDigest

theorem fingerprint_eq_iff {r r' : Report} :
    r.fingerprint = r'.fingerprint ↔ r.shownDigest = r'.shownDigest := by
  have shown (r : Report) : r.fingerprint =
      String.ofList (r.shownDigest.flatMap fun b => Text.hexDigits 2 b.toNat) := rfl
  rw [shown, shown, String.ofList_inj]
  constructor
  · exact Text.bytes_eq_of_hexDigits_eq
  · intro same
    rw [same]

/-- Reports of one text have one fingerprint, and reports of different texts share one only where
    their digests collide. -/
theorem fingerprint_eq_iff_or_collide {r r' : Report} :
    r.fingerprint = r'.fingerprint ↔ r.fingerprinted = r'.fingerprinted ∨ Collide r r' := by
  rw [fingerprint_eq_iff]
  constructor
  · intro shown
    by_cases same : r.fingerprinted = r'.fingerprinted
    · exact Or.inl same
    · exact Or.inr ⟨fun bytes => same (Text.eq_of_bytes_eq bytes), shown⟩
  · rintro (same | ⟨_, shown⟩)
    · rw [shownDigest, same, shownDigest]
    · exact shown

section Nodes

variable {message message' operator operator' : String} {kind kind' : FailureKind}
  {location location' : Option String} {details details' : Fields}

theorem toList_fingerprinted :
    (conversion message kind (some operator) location details).fingerprinted.toList =
      ((kind.code.label ++ "|lowering|").toList ++ operator.toList) ++ ':' :: kind.label.toList := by
  simp [fingerprinted, fingerprintText, conversion, String.toList_append]

/-- The kind is what follows the last colon; it settles the code, and with it where the operator
    begins. -/
theorem fingerprinted_conversion_eq_iff :
    (conversion message kind (some operator) location details).fingerprinted =
        (conversion message' kind' (some operator') location' details').fingerprinted ↔
      operator = operator' ∧ kind = kind' := by
  constructor
  · intro same
    have lists := congrArg String.toList same
    rw [toList_fingerprinted, toList_fingerprinted] at lists
    obtain ⟨front, back⟩ :=
      eq_and_eq_of_last kind.colon_notMem_label kind'.colon_notMem_label lists
    obtain rfl := FailureKind.label_injective (String.toList_inj.mp back)
    exact ⟨String.toList_inj.mp (List.append_cancel_left front), rfl⟩
  · rintro ⟨rfl, rfl⟩
    rfl

/-- Equal operators and kinds always give one fingerprint, and others only by a collision. -/
theorem fingerprint_conversion_eq_iff :
    (conversion message kind (some operator) location details).fingerprint =
        (conversion message' kind' (some operator') location' details').fingerprint ↔
      (operator = operator' ∧ kind = kind') ∨
        Collide (conversion message kind (some operator) location details)
          (conversion message' kind' (some operator') location' details') := by
  rw [fingerprint_eq_iff_or_collide, fingerprinted_conversion_eq_iff]

end Nodes

end Report

/-! Raised failures -/

/-- The report of a failure is one for an operator. -/
def NodeFailure.ReportedFor (failure : NodeFailure) (operator : String) : Prop :=
  failure.report =
    Report.conversion failure.message failure.kind (some operator) failure.location []

section Raised

open Conversion

variable {failure : NodeFailure} {source : SourceNode} {strict : Bool}

theorem reportedFor_of_lowerNode {operands : List (Option Tensor)} {g after : Graph}
    (failed : lowerNode .standard source operands g = (.error (.node failure), after)) :
    failure.ReportedFor source.opType := by
  rcases (lowerNode_eq_error failed).2 with ⟨_, cause, same⟩ | other
  · cases same
    rfl
  · exact absurd trivial other

theorem Conversion.Fails.reportedFor {c : Conversion} {node : Model.Node} {added : List String}
    {opset : Int} {position : Option Int}
    (read : SourceNode.ofModel node opset position = .ok source)
    (fails : c.Fails node source failure added) : failure.ReportedFor node.opType := by
  cases fails with
  | untried _ => rfl
  | refused _ failed =>
    rw [← (SourceNode.ofModel_eq_ok read).1]
    exact reportedFor_of_lowerNode failed

/-- A turn that ends with the failure of a node is the turn of a node of that operator. -/
theorem reportedFor_of_nodeStep {opset : Int} {node : Model.Node} {position : Nat}
    {c c' : Conversion} (ended : nodeStep .standard strict opset node position c =
      .error (.node failure) c') : failure.ReportedFor node.opType := by
  cases read : SourceNode.ofModel node opset (some (position : Int)) with
  | error unread =>
    rw [nodeStep_of_unread read] at ended
    cases ended
  | ok source =>
    rcases lowers_or_fails_or_breaks c node source with
      ⟨outputs, g, lowers⟩ | ⟨other, added, fails⟩ | ⟨fault, g, breaks⟩
    · rw [nodeStep_of_lowers read lowers] at ended
      cases ended
    · rw [nodeStep_of_fails read fails] at ended
      cases strict <;> cases ended
      exact fails.reportedFor read
    · rw [nodeStep_of_breaks read breaks] at ended
      cases ended
      exact absurd trivial breaks.2.2

variable {m : Model} {sourceName : String} {warnings : List String}

theorem Model.reportedFor_of_error
    (ended : m.convert codec .standard strict sourceName = (.error (.node failure), warnings)) :
    ∃ node ∈ m.graph.nodes, failure.ReportedFor node.opType := by
  rcases m.enters_or_ends codec sourceName with
    ⟨opset, start, enters⟩ | ⟨fault, silent, other, ends⟩
  · have whole : m.convert codec .standard strict sourceName = _ :=
      enters.convert_eq strict m.graph.nodes m.graph.outputs
    rw [ended] at whole
    cases looped : nodesStep strict opset m.graph.nodes start with
    | ok _ c =>
      rw [looped] at whole
      cases whole
    | error fault c =>
      rw [looped] at whole
      cases whole
      obtain ⟨i, node, before, found, _, turn⟩ := nodesStep_eq_error looped
      exact ⟨node, List.mem_of_getElem? found, reportedFor_of_nodeStep turn⟩
  · cases (ends strict m.graph.nodes m.graph.outputs).symm.trans ended
    exact absurd rfl (other failure)

/-- Each failure that a conversion collects is the failure of a node of the model. -/
theorem Model.reportedFor_of_failures {converted : Converted}
    (done : m.convert codec .standard strict sourceName = (.ok converted, warnings))
    (collected : failure ∈ converted.failures) :
    ∃ node ∈ m.graph.nodes, failure.ReportedFor node.opType := by
  obtain ⟨opset, start, c, enters, looped, rfl⟩ := enters_of_convert done
  have kept : failure ∈ c.failures := (kept_of_outputs m.graph.outputs c).2 ▸ collected
  refine nodes_induction
    (P := fun _ c => ∀ failure ∈ c.failures, ∃ node ∈ m.graph.nodes,
      failure.ReportedFor node.opType) ?_ ?_ looped failure kept
  · intro i node c c' found holds turn other member
    obtain ⟨source, read, ⟨outputs, g, _, rfl⟩ | ⟨_, added, _, fails, rfl⟩⟩ :=
      nodeStep_eq_ok_iff.mp turn
    · rw [failures_bindOutputs] at member
      exact holds other member
    · rcases List.mem_append.mp member with earlier | last
      · exact holds other earlier
      · obtain rfl := List.mem_singleton.mp last
        exact ⟨node, List.mem_of_getElem? found, fails.reportedFor read⟩
  · intro other member
    rw [enters.failures_eq] at member
    contradiction

end Raised

/-- The text a fingerprint is taken of settles the operator and the kind of a node that cannot be
    lowered, whatever the operator is spelled like, and is settled by them; so fingerprints differ
    just when one of the two does, but for collisions. Every failure that a lowering or a conversion
    raises for a node has such a report, under the operator of the node. -/
theorem fingerprints_identify_operator_and_kind :
    (∀ (message message' operator operator' : String) (kind kind' : FailureKind)
        (location location' : Option String) (details details' : Fields),
      let first := Report.conversion message kind (some operator) location details
      let second := Report.conversion message' kind' (some operator') location' details'
      (first.fingerprinted = second.fingerprinted ↔ operator = operator' ∧ kind = kind') ∧
      (operator = operator' → kind = kind' → first.fingerprint = second.fingerprint) ∧
      (first.fingerprint = second.fingerprint →
        (operator = operator' ∧ kind = kind') ∨ first.Collide second)) ∧
    (∀ source operands g failure after,
      lowerNode .standard source operands g = (.error (.node failure), after) →
        failure.ReportedFor source.opType) ∧
    ∀ (codec : Codec) (m : Model) strict sourceName,
      (∀ failure warnings,
        m.convert codec .standard strict sourceName = (.error (.node failure), warnings) →
          ∃ node ∈ m.graph.nodes, failure.ReportedFor node.opType) ∧
      ∀ converted warnings,
        m.convert codec .standard strict sourceName = (.ok converted, warnings) →
        ∀ failure ∈ converted.failures, ∃ node ∈ m.graph.nodes,
          failure.ReportedFor node.opType := by
  refine ⟨?_, ?_, ?_⟩
  · intro message message' operator operator' kind kind' location location' details details'
    refine ⟨Report.fingerprinted_conversion_eq_iff, ?_, Report.fingerprint_conversion_eq_iff.mp⟩
    intro operators kinds
    exact Report.fingerprint_conversion_eq_iff.mpr (Or.inl ⟨operators, kinds⟩)
  · intro source operands g failure after failed
    exact reportedFor_of_lowerNode failed
  · intro codec m strict sourceName
    constructor
    · intro failure warnings ended
      exact Model.reportedFor_of_error ended
    · intro converted warnings done failure collected
      exact Model.reportedFor_of_failures done collected

/-- A node of an unknown operator that is spelled like another one with a kind of failure. -/
def colonModel : Model :=
  { opsetImports := [("", 13)]
    graph :=
      { name := "m"
        inputs := [⟨"x", .tensor 1 .unknownRank⟩]
        nodes :=
          [{ opType := "Softmax:MissingInput|", inputs := ["x"], outputs := ["a"] },
           { opType := "Softmax", inputs := ["a"], outputs := ["b"] }] } }

/-- The strict conversion ends with the first node, the other one collects two failures, and the
    lowering of a second node alone fails too. -/
theorem colonModel_failures_are_told_apart :
    ∃ failure other collected warnings silent,
      colonModel.convert .current .standard true "m" = (.error (.node failure), silent) ∧
      (∃ node ∈ colonModel.graph.nodes, failure.ReportedFor node.opType) ∧
      colonModel.convert .current .standard false "m" = (.ok collected, warnings) ∧
      collected.failures.length = 2 ∧
      (∀ failure ∈ collected.failures, ∃ node ∈ colonModel.graph.nodes,
        failure.ReportedFor node.opType) ∧
      lowerNode .standard { opType := "Softmax", opset := 13 } [] { name := "g" } =
        (.error (.node other), { name := "g" }) ∧
      other.ReportedFor "Softmax" ∧
      failure.report.fingerprinted ≠ other.report.fingerprinted := by
  obtain ⟨reports, lowerings, conversions⟩ := fingerprints_identify_operator_and_kind
  obtain ⟨ends, _⟩ := conversions .current colonModel true "m"
  obtain ⟨_, lenient⟩ := conversions .current colonModel false "m"
  obtain ⟨collected, warnings, done⟩ : ∃ collected warnings,
      colonModel.convert .current .standard false "m" = (.ok collected, warnings) :=
    Model.exists_converted (by decide +kernel)
  have count : (colonModel.convert .current .standard false "m").1.toOption.map
      (fun collected => collected.failures.length) = some 2 := by decide +kernel
  rw [done] at count
  have strictly : colonModel.convert .current .standard true "m" = (.error (.node _), _) := rfl
  have alone : lowerNode .standard { opType := "Softmax", opset := 13 } [] { name := "g" } =
      (.error (.node _), _) := rfl
  refine ⟨_, _, collected, warnings, _, strictly, ends _ _ strictly, done, Option.some.inj count,
    lenient collected warnings done, alone, lowerings _ _ _ _ _ alone, ?_⟩
  intro same
  obtain ⟨operators, _⟩ := (reports _ _ _ _ _ _ _ _ _ _).1.mp same
  exact absurd operators (by decide)

end ReductionIR
