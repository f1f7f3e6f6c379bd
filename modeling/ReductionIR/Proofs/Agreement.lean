import ReductionIR.Proofs.Stages
/-
Strict conversions against conversions that collect failures. Both loops over nodes go in step up
to the first node that fails. The strict one ends there with the failure that the other one keeps
as its first, and the other one can only end later and with a fault of another kind.
-/
namespace ReductionIR

open Stepwise

variable {codec : Codec}

namespace Conversion

variable {strict : Bool} {opset : Int} {start c c' : Conversion} {nodes : List Model.Node}
  {node : Model.Node} {fault : Fault} {failure : NodeFailure} {position i : Nat}

theorem nodesStep_of_take (k : Nat)
    (ended : nodesStep strict opset (nodes.take k) start = .error fault c) :
    nodesStep strict opset nodes start = .error fault c := by
  induction nodes using List.reverseRecOn with
  | nil =>
    rw [List.take_nil] at ended
    exact ended
  | append_singleton nodes node ih =>
    rcases Nat.lt_or_ge nodes.length k with beyond | inside
    · rw [List.take_of_length_le (by simpa using beyond)] at ended
      exact ended
    · rw [List.take_append_of_le_length inside] at ended
      rw [nodesStep_concat]
      exact bind_of_error (ih ended)

/-- A turn of a collecting loop does not end with the failure of its node. -/
theorem ne_node_of_nodeStep (ended : nodeStep .standard false opset node position c =
    .error fault c') : fault ≠ .node failure := by
  rintro rfl
  cases read : SourceNode.ofModel node opset (some (position : Int)) with
  | error unread =>
    rw [nodeStep_of_unread read] at ended
    cases ended
  | ok source =>
    rcases lowers_or_fails_or_breaks c node source with
      ⟨outputs, g, lowers⟩ | ⟨_, added, fails⟩ | ⟨other, g, breaks⟩
    · rw [nodeStep_of_lowers read lowers] at ended
      cases ended
    · rw [nodeStep_of_fails read fails] at ended
      cases ended
    · rw [nodeStep_of_breaks read breaks] at ended
      cases ended
      exact breaks.2.2 trivial

/-- Only a node that fails tells a strict turn from a collecting one, and only such a node adds
    failures. -/
theorem nodeStep_same_or_fails (opset : Int) (node : Model.Node) (position : Nat)
    (c : Conversion) :
    (nodeStep .standard true opset node position c = nodeStep .standard false opset node position c ∧
      ∀ c', nodeStep .standard true opset node position c = .ok () c' →
        c'.failures = c.failures) ∨
    ∃ source failure added, SourceNode.ofModel node opset (some (position : Int)) = .ok source ∧
      c.Fails node source failure added := by
  cases read : SourceNode.ofModel node opset (some (position : Int)) with
  | error unread =>
    left
    rw [nodeStep_of_unread read, nodeStep_of_unread read]
    exact ⟨rfl, fun _ done => nomatch done⟩
  | ok source =>
    rcases lowers_or_fails_or_breaks c node source with
      ⟨outputs, g, lowers⟩ | ⟨failure, added, fails⟩ | ⟨other, g, breaks⟩
    · left
      rw [nodeStep_of_lowers read lowers, nodeStep_of_lowers read lowers]
      constructor
      · rfl
      · intro c' done
        cases done
        exact failures_bindOutputs ..
    · exact Or.inr ⟨source, failure, added, rfl, fails⟩
    · left
      rw [nodeStep_of_breaks read breaks, nodeStep_of_breaks read breaks]
      exact ⟨rfl, fun _ done => nomatch done⟩

/-- Both loops pass the nodes before one in the same way, without failures, and that node fails. -/
structure FailsFirst (opset : Int) (start : Conversion) (nodes : List Model.Node) (i : Nat)
    (failure : NodeFailure) (c : Conversion) : Prop where
  passed : ∀ strict, nodesStep strict opset (nodes.take i) start = .ok () c
  clean : c.failures = start.failures
  fails : ∃ node source added, nodes[i]? = some node ∧
    SourceNode.ofModel node opset (some (i : Int)) = .ok source ∧ c.Fails node source failure added

theorem FailsFirst.append (first : FailsFirst opset start nodes i failure c)
    (more : List Model.Node) :
    FailsFirst opset start (nodes ++ more) i failure c := by
  obtain ⟨node, source, added, found, read, fails⟩ := first.fails
  have inside : i < nodes.length := (List.getElem?_eq_some_iff.mp found).1
  refine ⟨?_, first.clean, node, source, added, ?_, read, fails⟩
  · intro strict
    rw [List.take_append_of_le_length (Nat.le_of_lt inside)]
    exact first.passed strict
  · rw [List.getElem?_append_left inside]
    exact found

/-- Both loops go in step to the end, or up to a node that fails first. -/
theorem in_step_or_fails (opset : Int) (start : Conversion) (nodes : List Model.Node) :
    (nodesStep true opset nodes start = nodesStep false opset nodes start ∧
      ∀ c, nodesStep true opset nodes start = .ok () c → c.failures = start.failures) ∨
    ∃ i failure c, FailsFirst opset start nodes i failure c := by
  induction nodes using List.reverseRecOn with
  | nil =>
    left
    constructor
    · rfl
    · intro c done
      cases done
      rfl
  | append_singleton nodes node ih =>
    -- without a failure so far both loops meet the last node in one state; a failure so far stays
    rcases ih with ⟨same, clean⟩ | ⟨i, failure, c, first⟩
    case inr => exact Or.inr ⟨i, failure, c, first.append [node]⟩
    rw [nodesStep_concat, nodesStep_concat]
    cases early : nodesStep true opset nodes start with
    | error fault c =>
      left
      rw [bind_of_error early, bind_of_error (same.symm.trans early)]
      exact ⟨rfl, fun _ done => nomatch done⟩
    | ok _ c =>
      have lenient := same.symm.trans early
      rcases nodeStep_same_or_fails opset node nodes.length c with
        ⟨turn, kept⟩ | ⟨source, failure, added, read, fails⟩
      · left
        rw [bind_of_ok early, bind_of_ok lenient]
        constructor
        · exact turn
        · intro c' done
          exact (kept c' done).trans (clean c early)
      · right
        refine ⟨nodes.length, failure, c, ?_, clean c early, node, source, added, ?_, read, fails⟩
        · intro strict
          rw [List.take_left]
          cases strict
          · exact lenient
          · exact early
        · exact List.getElem?_concat_length

namespace FailsFirst

theorem strictly (first : FailsFirst opset start nodes i failure c) :
    nodesStep true opset (nodes.take (i + 1)) start = .error (.node failure) c := by
  obtain ⟨node, source, added, found, read, fails⟩ := first.fails
  rw [nodesStep_take_succ found (first.passed true), nodeStep_of_fails read fails]
  rfl

theorem collecting (first : FailsFirst opset start nodes i failure c) :
    ∃ after, nodesStep false opset (nodes.take (i + 1)) start = .ok () after ∧
      after.failures = start.failures ++ [failure] := by
  obtain ⟨node, source, added, found, read, fails⟩ := first.fails
  rw [nodesStep_take_succ found (first.passed false), nodeStep_of_fails read fails]
  rw [← first.clean]
  exact ⟨_, rfl, rfl⟩

theorem failures_of_ok (first : FailsFirst opset start nodes i failure c)
    (done : nodesStep false opset nodes start = .ok () c') :
    ∃ later, c'.failures = start.failures ++ failure :: later := by
  obtain ⟨after, passed, failures⟩ := first.collecting
  obtain ⟨_, same, later, grown⟩ := passed_of_nodesStep done (i + 1)
  cases passed.symm.trans same
  use later
  rw [← grown, failures, List.append_assoc, List.singleton_append]

/-- A collecting loop that ends does so at a later node, for no failure of it. -/
theorem later_of_error (first : FailsFirst opset start nodes i failure c)
    (ended : nodesStep false opset nodes start = .error fault c') :
    (∀ other, fault ≠ .node other) ∧ ∃ j before, i < j ∧
      nodesStep false opset (nodes.take j) start = .ok () before ∧
      nodesStep false opset (nodes.take (j + 1)) start = .error fault c' := by
  obtain ⟨j, node, before, found, passed, turn⟩ := nodesStep_eq_error ended
  have here := (nodesStep_take_succ found passed).trans turn
  constructor
  · intro other
    exact ne_node_of_nodeStep turn
  · refine ⟨j, before, ?_, passed, here⟩
    -- up to the node that fails first the collecting loop passes all nodes
    by_contra early
    obtain ⟨_, beyond, _⟩ := first.collecting
    obtain ⟨_, fine, _⟩ := passed_of_nodesStep beyond (j + 1)
    rw [List.take_take, Nat.min_eq_left (by omega), here] at fine
    cases fine

end FailsFirst

end Conversion

open Conversion

/-- A conversion ends at a node: that of the nodes before it gives a result, and that of the nodes
    up to it ends with the same fault. -/
structure Model.EndsAt codec (m : Model) (strict : Bool) (sourceName : String) (position : Nat)
    (fault : Fault) : Prop where
  before : ∃ converted warnings,
    (m.upTo position).convert codec .standard strict sourceName = (.ok converted, warnings)
  here : ∃ warnings,
    (m.upTo (position + 1)).convert codec .standard strict sourceName = (.error fault, warnings)
  ended : ∃ warnings, m.convert codec .standard strict sourceName = (.error fault, warnings)

namespace Model.Enters

variable {m : Model} {sourceName : String} {opset : Int} {c : Conversion}

theorem endsAt (enters : m.Enters codec sourceName opset c) {strict : Bool} {i : Nat}
    {fault : Fault} {before after : Conversion}
    (passed : nodesStep strict opset (m.graph.nodes.take i) c = .ok () before)
    (ended : nodesStep strict opset (m.graph.nodes.take (i + 1)) c = .error fault after) :
    m.EndsAt codec strict sourceName i fault := by
  have first := enters.convert_eq strict (m.graph.nodes.take i) []
  have second := enters.convert_eq strict (m.graph.nodes.take (i + 1)) []
  have whole := enters.convert_eq strict m.graph.nodes m.graph.outputs
  rw [passed] at first
  rw [ended] at second
  rw [nodesStep_of_take (i + 1) ended] at whole
  exact ⟨⟨_, _, first⟩, ⟨_, second⟩, ⟨_, whole⟩⟩

end Model.Enters

/-- A strict and a collecting conversion go in step to the same end, unless a node fails. -/
theorem Model.in_step_or_fails (m : Model) (codec : Codec) (sourceName : String) :
    (∃ c : Conversion, c.failures = [] ∧ ∀ strict,
      m.convert codec .standard strict sourceName =
        (.ok (m.handOut strict sourceName c), c.warnings)) ∨
    (∃ fault warnings, (∀ failure, fault ≠ .node failure) ∧ ∀ strict,
      m.convert codec .standard strict sourceName = (.error fault, warnings)) ∨
    ∃ i failure, m.EndsAt codec true sourceName i (.node failure) ∧
      ((∃ collected warnings later,
          m.convert codec .standard false sourceName = (.ok collected, warnings) ∧
          collected.failures = failure :: later) ∨
        ∃ j fault, i < j ∧ m.EndsAt codec false sourceName j fault ∧
          ∀ other, fault ≠ .node other) := by
  rcases m.enters_or_ends codec sourceName with
    ⟨opset, start, enters⟩ | ⟨fault, warnings, other, ends⟩
  · have whole := fun strict => enters.convert_eq strict m.graph.nodes m.graph.outputs
    have none_yet := enters.failures_eq
    rcases Conversion.in_step_or_fails opset start m.graph.nodes with
      ⟨same, clean⟩ | ⟨i, failure, c, first⟩
    · have both : ∀ strict, nodesStep strict opset m.graph.nodes start =
          nodesStep false opset m.graph.nodes start := by
        intro strict
        cases strict
        · rfl
        · exact same
      cases collecting : nodesStep false opset m.graph.nodes start with
      | ok _ c =>
        left
        refine ⟨addOutputs m.graph.outputs c, ?_, ?_⟩
        · rw [(kept_of_outputs _ _).2, clean c (same.trans collecting), none_yet]
        · intro strict
          have result := whole strict
          rw [both, collecting] at result
          exact result
      | error fault c =>
        obtain ⟨_, node, _, _, _, turn⟩ := nodesStep_eq_error collecting
        right; left
        refine ⟨fault, c.warnings, fun failure => ne_node_of_nodeStep turn, ?_⟩
        intro strict
        have result := whole strict
        rw [both, collecting] at result
        exact result
    · right; right
      refine ⟨i, failure, enters.endsAt (first.passed true) first.strictly, ?_⟩
      have result := whole false
      cases collecting : nodesStep false opset m.graph.nodes start with
      | ok _ c =>
        rw [collecting] at result
        obtain ⟨later, failures⟩ := first.failures_of_ok collecting
        rw [none_yet, List.nil_append] at failures
        left
        exact ⟨_, _, later, result, ((kept_of_outputs _ _).2).trans failures⟩
      | error fault c =>
        obtain ⟨other, j, before, beyond, passed, ended⟩ := first.later_of_error collecting
        right
        exact ⟨j, fault, beyond, enters.endsAt passed ended, other⟩
  · right; left
    exact ⟨fault, warnings, other, fun strict => ends strict m.graph.nodes m.graph.outputs⟩

section Modes

variable {m : Model} {sourceName : String}

theorem Model.convert_strict_iff {converted : Converted} {warnings : List String} :
    m.convert codec .standard true sourceName = (.ok converted, warnings) ↔
      ∃ collected, m.convert codec .standard false sourceName = (.ok collected, warnings) ∧
        collected.failures = [] ∧ collected.strict = false ∧
        converted = { collected with strict := true } := by
  rcases m.in_step_or_fails codec sourceName with ⟨c, clean, both⟩ | ⟨fault, silent, other, both⟩ |
    ⟨i, failure, strictly, collecting⟩
  · rw [both true, both false]
    constructor
    · intro done
      cases done
      exact ⟨_, rfl, clean, rfl, rfl⟩
    · rintro ⟨collected, done, _, _, rfl⟩
      cases done
      rfl
  · rw [both true, both false]
    constructor
    · intro done
      cases done
    · rintro ⟨collected, done, _⟩
      cases done
  -- where a node fails, what a collecting conversion gives holds a failure
  · obtain ⟨silent, ended⟩ := strictly.ended
    rw [ended]
    constructor
    · intro done
      cases done
    · rintro ⟨collected, done, clean, _⟩
      rcases collecting with ⟨_, _, later, same, failures⟩ | ⟨j, fault, _, later, _⟩
      · cases done.symm.trans same
        cases clean.symm.trans failures
      · obtain ⟨_, other⟩ := later.ended
        cases done.symm.trans other

/-- What a collecting conversion has as its first failure ends the strict one. -/
theorem Model.endsAt_of_failures {collected : Converted} {warnings : List String}
    {failure : NodeFailure} {more : List NodeFailure}
    (done : m.convert codec .standard false sourceName = (.ok collected, warnings))
    (failures : collected.failures = failure :: more) :
    ∃ i, m.EndsAt codec true sourceName i (.node failure) := by
  rcases m.in_step_or_fails codec sourceName with ⟨c, clean, both⟩ | ⟨fault, silent, other, both⟩ |
    ⟨i, first, strictly, collecting⟩
  · cases (both false).symm.trans done
    cases clean.symm.trans failures
  · cases (both false).symm.trans done
  · rcases collecting with ⟨_, _, later, same, failures'⟩ | ⟨j, fault, _, later, _⟩
    · cases done.symm.trans same
      cases failures.symm.trans failures'
      exact ⟨i, strictly⟩
    · obtain ⟨_, other⟩ := later.ended
      cases done.symm.trans other

/-- Where a strict conversion ends, a collecting one has its first failure. -/
theorem Model.failures_of_strict {failure : NodeFailure} {warnings : List String}
    (ended : m.convert codec .standard true sourceName = (.error (.node failure), warnings)) :
    ∃ i, m.EndsAt codec true sourceName i (.node failure) ∧
      ((∃ collected warnings later,
          m.convert codec .standard false sourceName = (.ok collected, warnings) ∧
          collected.failures = failure :: later) ∨
        ∃ j fault, i < j ∧ m.EndsAt codec false sourceName j fault ∧
          ∀ other, fault ≠ .node other) := by
  rcases m.in_step_or_fails codec sourceName with ⟨c, clean, both⟩ | ⟨fault, silent, other, both⟩ |
    ⟨i, first, strictly, collecting⟩
  · cases (both true).symm.trans ended
  · cases (both true).symm.trans ended
    exact absurd rfl (other failure)
  · obtain ⟨_, same⟩ := strictly.ended
    cases same.symm.trans ended
    exact ⟨i, strictly, collecting⟩

end Modes

/-- A strict conversion gives a result just when the collecting one gives it without failures.
    Where the collecting one has failures, the strict one ends with the first of them; and where
    the strict one ends with the failure of a node, the collecting one has it as its first failure,
    or ends at a later node and not with the failure of a node. -/
theorem strict_conversion_agrees_with_collecting (codec : Codec) (m : Model)
    (sourceName : String) :
    (∀ converted warnings,
      m.convert codec .standard true sourceName = (.ok converted, warnings) ↔
        ∃ collected, m.convert codec .standard false sourceName = (.ok collected, warnings) ∧
          collected.failures = [] ∧ collected.strict = false ∧
          converted = { collected with strict := true }) ∧
    (∀ collected warnings failure later,
      m.convert codec .standard false sourceName = (.ok collected, warnings) →
      collected.failures = failure :: later →
        ∃ i, m.EndsAt codec true sourceName i (.node failure)) ∧
    ∀ failure warnings,
      m.convert codec .standard true sourceName = (.error (.node failure), warnings) →
        ∃ i, m.EndsAt codec true sourceName i (.node failure) ∧
          ((∃ collected warnings later,
              m.convert codec .standard false sourceName = (.ok collected, warnings) ∧
              collected.failures = failure :: later) ∨
            ∃ j fault, i < j ∧ m.EndsAt codec false sourceName j fault ∧
              ∀ other, fault ≠ .node other) := by
  refine ⟨?_, ?_, ?_⟩
  · intro converted warnings
    exact Model.convert_strict_iff
  · intro collected warnings failure later done failures
    exact Model.endsAt_of_failures done failures
  · intro failure warnings ended
    exact Model.failures_of_strict ended

/-- A node that is not supported before one with an attribute that is no text. -/
def cutOffModel : Model :=
  { opsetImports := [("", 18)]
    graph :=
      { name := "m"
        inputs := [⟨"x", .tensor 1 (.ranked [.known 2])⟩]
        nodes :=
          [{ opType := "Softmax", inputs := ["x"], outputs := ["a"] },
           { opType := "ReduceSum", inputs := ["x"], outputs := ["y"]
             attributes := [{ name := "tag", data := .text [255] }] }] } }

/-- A strict conversion ends with the first of four failures, and one that collects failures ends
    after the only one. -/
theorem mixedModel_and_cutOffModel_agree :
    (∃ collected warnings failure later,
      mixedModel.convert .current .standard false "m" = (.ok collected, warnings) ∧
      collected.failures = failure :: later ∧ later.length = 3 ∧
      ∃ i, mixedModel.EndsAt .current true "m" i (.node failure)) ∧
    ∃ failure i j, i < j ∧ cutOffModel.EndsAt .current true "m" i (.node failure) ∧
      cutOffModel.EndsAt .current false "m" j (.bare .notUtf8) := by
  constructor
  · obtain ⟨collected, warnings, done⟩ : ∃ collected warnings,
        mixedModel.convert .current .standard false "m" = (.ok collected, warnings) :=
      Model.exists_converted (by decide +kernel)
    have count : (mixedModel.convert .current .standard false "m").1.toOption.map
        (fun collected => collected.failures.length) = some 4 := by decide +kernel
    rw [done] at count
    cases failures : collected.failures with
    | nil =>
      simp [Except.toOption, failures] at count
    | cons failure later =>
      simp only [Except.toOption, Option.map_some, failures, List.length_cons, Option.some.injEq]
        at count
      obtain ⟨_, ends, _⟩ := strict_conversion_agrees_with_collecting .current mixedModel "m"
      exact ⟨collected, warnings, failure, later, done, failures, by omega,
        ends collected warnings failure later done failures⟩
  · obtain ⟨failure, warnings, strictly⟩ : ∃ failure warnings,
        cutOffModel.convert .current .standard true "m" = (.error (.node failure), warnings) :=
      ⟨_, _, rfl⟩
    have collecting : cutOffModel.convert .current .standard false "m" =
        (.error (.bare .notUtf8), [_]) := rfl
    obtain ⟨_, _, ends⟩ := strict_conversion_agrees_with_collecting .current cutOffModel "m"
    obtain ⟨i, first, ⟨_, _, _, done, _⟩ | ⟨j, fault, later, second, _⟩⟩ :=
      ends failure warnings strictly
    · cases collecting.symm.trans done
    · obtain ⟨_, same⟩ := second.ended
      cases collecting.symm.trans same
      exact ⟨failure, i, j, later, first, second⟩

end ReductionIR
