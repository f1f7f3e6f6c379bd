import Mathlib
import ReductionIR.Proofs.Building
import ReductionIR.Proofs.Dispatch
/-
A lowering that fails leaves the graph alone. All causes that are blamed on the node come
before the first step of the draft; what fails later is no fault of the node and has used
up numbers only.
-/
namespace ReductionIR

/-- Is the node to blame, directly or for an attribute that cannot be read? -/
def Fault.Blamed : Fault → Prop
  | .node _ | .lookup _ => True
  | _ => False

open Stepwise

namespace Build

variable {α β : Type} {ctx : Context}

/-- A build that never blames the node. -/
def Quiet (m : Build α) : Prop := ∀ d fault d', m d = .error fault d' → ¬ fault.Blamed

/-- A build that blames the node of a context only, and only before anything is drafted. -/
def Careful (ctx : Context) (m : Build α) : Prop :=
  ∀ d fault d', m d = .error fault d' → fault.Blamed →
    d' = d ∧ ∃ cause, Lowering.blame ctx.node fault = ctx.failure cause

theorem quiet_pure (a : α) : Quiet (pure a) := by
  intro d fault d' failed
  rw [pure_apply] at failed
  contradiction

theorem quiet_internal (cause : InternalCause) :
    Quiet (throw (.internal cause) : Build α) := by
  intro d fault d' failed
  rw [throw_apply] at failed
  cases failed
  exact not_false

theorem Quiet.bind {m : Build α} {f : α → Build β} (first : Quiet m)
    (rest : ∀ a, Quiet (f a)) : Quiet (m >>= f) := by
  intro d fault d' failed
  rcases bind_eq_error_iff.mp failed with early | ⟨a, middle, _, late⟩
  · exact first d fault d' early
  · exact rest a middle fault d' late

theorem Quiet.careful {m : Build α} (quiet : Quiet m) : Careful ctx m :=
  fun d fault d' failed blamed => absurd blamed (quiet d fault d' failed)

theorem Careful.bind_quiet {m : Build α} {f : α → Build β} (first : Careful ctx m)
    (rest : ∀ a, Quiet (f a)) : Careful ctx (m >>= f) := by
  intro d fault d' failed blamed
  rcases bind_eq_error_iff.mp failed with early | ⟨a, middle, _, late⟩
  · exact first d fault d' early blamed
  · exact absurd blamed (rest a middle fault d' late)

/-- A check that changes nothing may come before further checks. -/
theorem Careful.bind {m : Build α} {f : α → Build β} (first : Careful ctx m)
    (readOnly : ReadOnly m) (rest : ∀ a, Careful ctx (f a)) : Careful ctx (m >>= f) := by
  intro d fault d' failed blamed
  rcases bind_eq_error_iff.mp failed with early | ⟨a, middle, done, late⟩
  · exact first d fault d' early blamed
  · obtain rfl := readOnly.draft_eq_of_ok done
    exact rest a middle fault d' late blamed

end Build

open Build

theorem Fault.not_blamed_of_lift {α : Type} {result : Except Breakdown α} {fault : Fault}
    (failed : Fault.lift result = .error fault) : ¬ fault.Blamed := by
  cases result with
  | ok a => simp [Fault.lift, Except.mapError] at failed
  | error failure =>
    simp only [Fault.lift, Except.mapError, Except.error.injEq] at failed
    subst failed
    exact not_false

theorem Inference.not_blamed_of_openReduction {keepDims : Bool} {rank : Nat} {axes : Shape}
    {fault : Fault} (failed : openReduction keepDims rank axes = .error fault) :
    ¬ fault.Blamed := by
  unfold openReduction at failed
  split at failed
  · contradiction
  · split at failed
    · split at failed
      · cases failed
        exact not_false
      · contradiction
    · contradiction

theorem Inference.not_blamed_of_reduced {attributes : Fields} {operands : List Facts}
    {fault : Fault} (failed : reduced attributes operands = .error fault) :
    ¬ fault.Blamed := by
  unfold reduced at failed
  split at failed
  · rename_i data axes
    dsimp only at failed
    -- inference reads the axes and then looks at their number or their values
    split at failed
    · contradiction
    · cases read : Fault.lift (constantValues axes) with
      | error other =>
        rw [read] at failed
        cases failed
        exact Fault.not_blamed_of_lift read
      | ok values =>
        rw [read] at failed
        cases values with
        | none =>
          dsimp only [bind, Except.bind] at failed
          split at failed
          · rename_i early
            cases failed
            exact not_blamed_of_openReduction early
          · contradiction
        | some values =>
          dsimp only [bind, Except.bind] at failed
          split at failed
          · rename_i early
            cases failed
            exact Fault.not_blamed_of_lift early
          · contradiction
  · cases failed
    exact not_false

theorem not_blamed_of_infer {opType : String} {operands : List Facts} {attributes : Fields}
    {fault : Fault} (failed : infer opType operands attributes = .error fault) :
    ¬ fault.Blamed := by
  unfold infer at failed
  split at failed
  · unfold OpKind.infer at failed
    split at failed
    case h_7 => exact Inference.not_blamed_of_reduced failed
    all_goals exact Fault.not_blamed_of_lift failed
  · cases failed
    exact not_false

namespace Draft

theorem quiet_make {g : Graph} {opType : String} {inputs : List Tensor} {attributes : Fields} :
    Quiet (make g opType inputs attributes) := by
  intro d fault d' failed
  rw [make_apply] at failed
  split at failed
  · contradiction
  · rename_i early
    cases failed
    exact not_blamed_of_infer early

theorem quiet_constant {g : Graph} {data : Except Breakdown Dense} {stem : String} :
    Quiet (constant g data stem) := by
  intro d fault d' failed
  rw [constant_apply] at failed
  split at failed
  · contradiction
  · cases failed
    exact not_false

end Draft

namespace Context

variable (ctx : Context)

theorem careful_fail {α : Type} (cause : NodeFailure.Cause) :
    Careful ctx (ctx.fail cause : Build α) := by
  intro d fault d' failed _
  unfold fail at failed
  rw [throw_apply] at failed
  cases failed
  exact ⟨rfl, cause, rfl⟩

theorem careful_operand (index : Nat) : Careful ctx (ctx.operand index) := by
  unfold operand
  split
  · exact (quiet_pure _).careful
  · exact ctx.careful_fail _

theorem careful_read {α : Type} (result : Except LookupFailure α) :
    Careful ctx (ctx.read result) := by
  intro d fault d' failed _
  unfold read at failed
  rw [ofExcept_apply] at failed
  cases result with
  | ok a => contradiction
  | error failure =>
    cases failed
    exact ⟨rfl, .unreadable failure, rfl⟩

end Context

namespace Axes

theorem quiet_allOf (g : Graph) (data : Tensor) : Quiet (allOf g data) := by
  unfold allOf
  refine Draft.quiet_make.bind fun _ => ?_
  refine Draft.quiet_make.bind fun _ => ?_
  refine Draft.quiet_make.bind fun _ => ?_
  refine Draft.quiet_constant.bind fun _ => ?_
  refine Draft.quiet_constant.bind fun _ => ?_
  exact Draft.quiet_make

theorem quiet_operand (g : Graph) (axes : Axes) : Quiet (axes.operand g) := by
  unfold operand
  split
  · exact Draft.quiet_constant
  · exact quiet_pure _
  · exact quiet_pure _
  · exact quiet_internal _

variable (ctx : Context) (data : Tensor)

theorem careful_checkFixed (values : List Int) (rank : Nat) :
    Careful ctx (checkFixed ctx values rank) := by
  unfold checkFixed
  split
  · exact ctx.careful_fail _
  · exact (quiet_pure _).careful

theorem careful_checkOperand (axes : Tensor) (rank : Nat) :
    Careful ctx (checkOperand ctx axes rank) := by
  unfold checkOperand
  refine Careful.bind ?_ (readOnly_checkCount ctx axes rank) fun _ => ?_
  · unfold checkCount
    split
    · split
      · exact ctx.careful_fail _
      · exact (quiet_pure _).careful
    · exact (quiet_pure _).careful
  · unfold checkValues
    split
    · refine Careful.bind ?_ (readOnly_ofExcept _) fun _ => careful_checkFixed ctx _ _
      apply Quiet.careful
      intro d fault d' failed
      rw [ofExcept_apply] at failed
      split at failed
      · contradiction
      · rename_i early
        cases failed
        exact Fault.not_blamed_of_lift early
    · exact (quiet_pure _).careful

theorem careful_whenRanked {check : Nat → Build Unit}
    (careful : ∀ rank, Careful ctx (check rank)) : Careful ctx (whenRanked data check) := by
  unfold whenRanked
  split
  · exact careful _
  · exact (quiet_pure _).careful

theorem quiet_every : Quiet (every ctx data) := by
  unfold every
  split
  · exact quiet_pure _
  · exact (quiet_allOf _ _).bind fun _ => quiet_pure _

theorem quiet_whenAbsent (noop : Int) : Quiet (whenAbsent ctx data noop) := by
  unfold whenAbsent
  split
  · exact quiet_pure _
  · exact (quiet_allOf _ _).bind fun _ => quiet_pure _

theorem careful_fromAttribute : Careful ctx (fromAttribute ctx data) := by
  unfold fromAttribute
  refine (ctx.careful_read _).bind (ctx.readOnly_read _) fun values => ?_
  dsimp only
  split
  · exact (quiet_every ctx data).careful
  · refine Careful.bind_quiet ?_ fun _ => quiet_pure _
    exact careful_whenRanked ctx data fun _ => careful_checkFixed ctx _ _

theorem careful_fromInput : Careful ctx (fromInput ctx data) := by
  unfold fromInput
  refine (ctx.careful_read _).bind (ctx.readOnly_read _) fun noop => ?_
  split
  · exact (quiet_whenAbsent ctx data noop).careful
  · split
    · exact ctx.careful_fail _
    · split
      · exact (quiet_whenAbsent ctx data noop).careful
      · refine Careful.bind_quiet ?_ fun _ => quiet_pure _
        exact careful_whenRanked ctx data fun _ => careful_checkOperand ctx _ _

theorem careful_resolve (policy : Option AxesPolicy) :
    Careful ctx (resolve ctx data policy) := by
  unfold resolve
  split
  · exact careful_fromAttribute ctx data
  · exact careful_fromInput ctx data
  · exact (quiet_internal _).careful

end Axes

namespace Reduction

variable (r : Reduction) (ctx : Context)

theorem quiet_prepare (x : Tensor) : Quiet (r.prepare ctx x) := by
  unfold prepare
  split
  · exact Draft.quiet_make
  · exact Draft.quiet_make
  · exact quiet_pure _

theorem quiet_finish (x : Tensor) : Quiet (r.finish ctx x) := by
  unfold finish
  split
  · exact Draft.quiet_make
  · exact Draft.quiet_make
  · exact quiet_pure _

theorem quiet_reduce (keepDims : Bool) (axes : Axes) (x : Tensor) :
    Quiet (r.reduce ctx keepDims axes x) := by
  unfold reduce
  split
  · exact quiet_pure _
  · exact (Axes.quiet_operand _ _).bind fun _ => Draft.quiet_make

theorem careful_lower (regime : Regime) : Careful ctx (r.lower regime ctx) := by
  unfold lower
  refine (ctx.careful_operand 0).bind (ctx.readOnly_operand 0) fun data => ?_
  refine Careful.bind ?_ (readOnly_checkType regime ctx data) fun _ => ?_
  · unfold checkType
    split
    · exact (quiet_pure _).careful
    · exact ctx.careful_fail _
  refine (ctx.careful_read _).bind (ctx.readOnly_read _) fun keepDims => ?_
  refine (Axes.careful_resolve ctx data regime.policy).bind_quiet fun axes => ?_
  refine (quiet_prepare r ctx data).bind fun prepared => ?_
  exact (quiet_reduce r ctx _ axes prepared).bind fun reduced => quiet_finish r ctx reduced

end Reduction

namespace Lowering

variable {ctx : Context} {entry : Entry} {r : Reduction}

theorem lower_of_draftWith_error (routine : entry.routine = r.routine) {d d' : Draft}
    {fault : Fault} (failed : draftWith entry ctx d = .error fault d') :
    r.lower entry.toRegime ctx d = .error fault d' := by
  rw [draftWith_routine routine] at failed
  rcases bind_eq_error_iff.mp failed with early | ⟨t, middle, _, late⟩
  · exact early
  · rw [pure_apply] at late
    contradiction

theorem blame_of_not_blamed {node : SourceNode} {fault : Fault} (other : ¬ fault.Blamed) :
    blame node fault = fault := by
  cases fault <;> simp [Fault.Blamed, blame] at other ⊢

theorem runEntry_error (routine : entry.routine = r.routine) {fault : Fault} {g' : Graph}
    (failed : runEntry entry ctx = (.error fault, g')) :
    (∃ n, ctx.graph.counter ≤ n ∧ g' = { ctx.graph with counter := n }) ∧
      ((g' = ctx.graph ∧ ∃ cause, fault = ctx.failure cause) ∨ ¬ fault.Blamed) := by
  unfold runEntry Draft.run at failed
  dsimp only [EStateM.run] at failed
  cases run : draftWith entry ctx
      { counter := ctx.graph.counter, source? := some ctx.node.location } with
  | ok outputs d' =>
    rw [run] at failed
    simp at failed
  | error raw d' =>
    rw [run] at failed
    simp only [Prod.mk.injEq, Except.error.injEq] at failed
    obtain ⟨rfl, rfl⟩ := failed
    have lowered := lower_of_draftWith_error routine run
    have grown := (r.lower_grows entry.toRegime ctx _).of_error lowered
    have sound := grown.sound (Draft.sound_blank _ _ _ _)
    refine ⟨⟨d'.counter, sound.start_le, rfl⟩, ?_⟩
    by_cases blamed : raw.Blamed
    · obtain ⟨rfl, cause, reworded⟩ := r.careful_lower ctx entry.toRegime _ raw d' lowered blamed
      exact Or.inl ⟨rfl, cause, reworded⟩
    · rw [blame_of_not_blamed blamed]
      exact Or.inr blamed

end Lowering

/-- A failed lowering uses up numbers at most, and none when the node is to blame. -/
theorem lowerNode_eq_error {node : SourceNode} {operands : List (Option Tensor)} {g g' : Graph}
    {fault : Fault} (failed : lowerNode .standard node operands g = (.error fault, g')) :
    (∃ n, g.counter ≤ n ∧ g' = { g with counter := n }) ∧
      ((g' = g ∧ ∃ cause, fault =
        .node { cause, operator := node.opType, location := some node.location }) ∨
        ¬ fault.Blamed) := by
  unfold lowerNode at failed
  split at failed
  · rename_i cause _
    simp only [Prod.mk.injEq, Except.error.injEq] at failed
    obtain ⟨rfl, rfl⟩ := failed
    exact ⟨⟨g.counter, Nat.le_refl _, rfl⟩, Or.inl ⟨rfl, cause, rfl⟩⟩
  · rename_i entry found
    obtain ⟨r, _, _, rfl⟩ := Registry.standard_resolve_eq_ok_iff.mp found
    exact Lowering.runEntry_error (r.routine_entryAt node.opset) failed

/-- A failed lowering is atomic: when the node is to blame the graph is exactly as before,
    and whatever else fails uses up numbers only. -/
theorem failed_lowering_is_atomic {node : SourceNode} {operands : List (Option Tensor)}
    {g g' : Graph} {fault : Fault}
    (failed : lowerNode .standard node operands g = (.error fault, g')) :
    (∀ failure, fault = .node failure →
      g' = g ∧ failure.operator = node.opType ∧ failure.location = some node.location) ∧
    ((∀ failure, fault ≠ .node failure) →
      g' = { g with counter := g'.counter } ∧ g.counter ≤ g'.counter) ∧
    (∀ t, some t ∈ operands → g'.placement t = g.placement t) ∧
    ∀ failure, fault ≠ .lookup failure := by
  obtain ⟨⟨n, above, rfl⟩, blamed⟩ := lowerNode_eq_error failed
  refine ⟨?_, fun _ => ⟨rfl, above⟩, fun _ _ => rfl, ?_⟩
  · rintro failure rfl
    rcases blamed with ⟨same, cause, failure⟩ | other
    · cases failure
      exact ⟨same, rfl, rfl⟩
    · exact absurd trivial other
  · rintro failure rfl
    rcases blamed with ⟨_, cause, failure⟩ | other
    · cases failure
    · exact other trivial

/-- A log-sum-exp over an axis that no array of integers holds. -/
def overflowingNode : SourceNode :=
  { opType := "ReduceLogSumExp", opset := 1, attributes := Table.ofList [("axes", .ints [2 ^ 70])] }

/-- Data of which the rank is open. -/
def unrankedData : Tensor :=
  { dtype := .float32, shape := .unknownRank, data := none, origin := .given 0, id := "x",
    name := "x" }

/-- Encoding the axes fails after a number went to the exponential. -/
theorem overflowing_axes_leave_no_trace : ∃ g',
    lowerNode .standard overflowingNode [some unrankedData] { name := "g" } =
      (.error (.bare .tooLarge), g') ∧ g'.counter = 1 ∧
    g' = { name := "g", counter := g'.counter } ∧
    g'.placement unrankedData = unrankedData.initial := by
  have failed : lowerNode .standard overflowingNode [some unrankedData] { name := "g" } =
      (.error (.bare .tooLarge), { name := "g", counter := 1 }) := rfl
  have atomic := failed_lowering_is_atomic failed
  exact ⟨_, failed, rfl, (atomic.2.1 (by simp)).1, atomic.2.2.1 unrankedData (by simp)⟩

/-- An axis outside the rank is the fault of the node. -/
example : (lowerNode .standard overflowingNode
    [some { unrankedData with shape := .scalar }] { name := "g" }) =
      (.error (.node { cause := .tooManyAxes 1 0, operator := "ReduceLogSumExp",
                       location := some "<unknown>" }), { name := "g" }) := rfl

end ReductionIR
