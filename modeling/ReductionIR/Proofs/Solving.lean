import ReductionIR.Proofs.Meaning
import ReductionIR.Proofs.Wiring
/-
Environments that solve a graph: every tensor has the value that its operator computes, so
the order of operators does not matter any more. A lowering extends a solution of the graph
it starts from.
-/
namespace ReductionIR

section Run

variable {α : Type} {I : Interpretation α} {env env' : Env α}

/-- The one output of an operator has the value that the operator computes. -/
def Op.Solved (I : Interpretation α) (env : Env α) (op : Op) : Prop :=
  ∃ id x, op.outputs = [id] ∧ env id = some x ∧ op.value? I env = some x

/-- No operator writes what it reads, or what one before it reads or writes. -/
structure Op.Stacked (ops : List Op) : Prop where
  loopFree : ∀ op ∈ ops, ∀ id ∈ op.outputs, id ∉ op.inputs
  later : ops.Pairwise fun a b => ∀ id ∈ b.outputs, id ∉ a.inputs ∧ id ∉ a.outputs

theorem mapM_congr {β γ : Type} {f h : β → Option γ} {l : List β} (same : ∀ b ∈ l, f b = h b) :
    l.mapM f = l.mapM h := by
  induction l with
  | nil => rfl
  | cons b rest ih =>
    rw [List.mapM_cons, List.mapM_cons, same b (List.mem_cons_self ..),
      ih fun c later => same c (List.mem_cons_of_mem _ later)]

namespace Op

theorem value?_congr {op : Op} (same : ∀ id ∈ op.inputs, env id = env' id) :
    op.value? I env = op.value? I env' := by
  unfold value?
  rw [mapM_congr same]

theorem Solved.congr {op : Op} (solved : op.Solved I env)
    (inputs : ∀ id ∈ op.inputs, env' id = env id)
    (outputs : ∀ id ∈ op.outputs, env' id = env id) : op.Solved I env' := by
  obtain ⟨id, x, written, there, value⟩ := solved
  refine ⟨id, x, written, ?_, ?_⟩
  · rw [outputs id (by simp [written]), there]
  · rw [value?_congr inputs, value]

theorem solved_of_run {ops : List Op} (stacked : Stacked ops)
    (done : run I env ops = some env') : ∀ op ∈ ops, op.Solved I env' := by
  induction ops generalizing env with
  | nil => simp
  | cons first rest ih =>
    obtain ⟨behind, others⟩ := List.pairwise_cons.mp stacked.later
    have stacked' : Stacked rest :=
      ⟨fun op member => stacked.loopFree op (List.mem_cons_of_mem _ member), others⟩
    unfold run at done
    split at done
    · rename_i out written
      obtain ⟨x, value, later⟩ := Option.bind_eq_some_iff.mp done
      have own : out ∈ first.outputs := by simp [written]
      intro op member
      -- no later operator writes what the first one reads or writes
      rcases List.mem_cons.mp member with rfl | inRest
      · have kept : ∀ id, (∀ b ∈ rest, id ∉ b.outputs) →
            env' id = Function.update env out (some x) id :=
          fun id unwritten => run_of_not_written later unwritten
        refine ⟨out, x, written, ?_, ?_⟩
        · rw [kept out fun b there member => (behind b there out member).2 own,
            Function.update_self]
        · rw [← value]
          refine value?_congr fun id input => ?_
          have apart : id ≠ out := by
            rintro rfl
            exact stacked.loopFree op (List.mem_cons_self ..) id own input
          rw [kept id fun b there member => (behind b there id member).1 input,
            Function.update_of_ne apart]
      · exact ih stacked' later op inRest
    · contradiction

end Op

end Run

/-- The tensors of a graph have the values that its operators compute, its constants store and
    its inputs are fed. -/
structure Graph.Solves {α : Type} (I : Interpretation α) (fed : Env α) (g : Graph)
    (env : Env α) : Prop where
  ops : ∀ id op, g.ops.find? id = some op → op.Solved I env
  constants : ∀ id c, g.constant? I id = some c → env id = some c
  inputs : ∀ id ∈ g.inputs, env id = fed id

/-- An environment in which the constants of a graph have their values. -/
def Graph.stocked {α : Type} (I : Interpretation α) (g : Graph) (env : Env α) : Env α :=
  fun id => (g.constant? I id).or (env id)

section Solves

variable {α : Type} {I : Interpretation α} {fed env env' : Env α} {g g' : Graph}

theorem Graph.Solves.congr (solves : g.Solves I fed env) (wired : g.Wired)
    (kept : ∀ id t, g.tensors.find? id = some t → env' id = env id) :
    g.Solves I fed env' where
  ops := by
    intro id op found
    obtain ⟨n, placed⟩ := wired.placed id op found
    refine (solves.ops id op found).congr ?_ ?_
    · intro input member
      obtain ⟨t, there, _⟩ := placed.earlier input member
      exact kept input t there
    · intro out member
      obtain ⟨t, there, outputs, _⟩ := placed.result
      rw [outputs, List.mem_singleton, wired.keyed _ t there] at member
      exact member ▸ kept _ t there
  constants := by
    intro id c stored
    obtain ⟨t, found, _⟩ := Option.bind_eq_some_iff.mp stored
    rw [kept id t found]
    exact solves.constants id c stored
  inputs := by
    intro id member
    obtain ⟨t, found⟩ := wired.inputs_known id member
    rw [kept id t found]
    exact solves.inputs id member

namespace Draft

variable {operands : List (Option Tensor)} {d : Draft}

section Attached

variable (sound : Sound g (operands.filterMap id) g.counter d) (wired : g.Wired)
  (owns : g.Owns operands) (unclashed : d.Unclashed g)

include sound owns unclashed

theorem Sound.stacked : Op.Stacked d.ops where
  loopFree := fun op drafted => sound.loopFree owns unclashed drafted
  later := by
    refine List.Pairwise.imp_of_mem ?_ sound.opNumbers
    intro a b first second smaller id written
    obtain ⟨m, _, _, earlier⟩ := sound.newOps a first
    obtain ⟨n, _, _, new⟩ := sound.newOps b second
    have less := smaller m n earlier.id_eq new.id_eq
    rw [new.outputs_eq, List.mem_singleton] at written
    -- a smaller number is read and written before a larger one comes up
    constructor
    · intro input
      obtain ⟨t, named, known⟩ := earlier.inputs_known id input
      rcases known with given | ⟨_, k, bound, made⟩
      · have there := owned_of_present owns given
        have free := unclashed b second
        rw [named, written, ((Graph.isTaken_eq_false_iff g _).mp free).1] at there
        contradiction
      · rw [written, new.id_eq] at named
        rcases made.id_eq with ⟨stem, constant, _⟩ | ⟨opType, result, _⟩
        · exact Graph.resultId_ne_numbered _ _ _ (named.symm.trans constant)
        · have number := (Graph.resultId_numbered_injective (named.symm.trans result)).2
          omega
    · intro also
      rw [earlier.outputs_eq, List.mem_singleton, written, new.id_eq, earlier.id_eq] at also
      have number := (Graph.resultId_numbered_injective also).2
      omega

omit unclashed in
theorem Sound.constant_unwritten {id : String} {c : Concrete α}
    (stored : (d.attach { g with counter := d.counter }).constant? I id = some c) :
    ∀ op ∈ d.ops, id ∉ op.outputs := by
  intro op drafted written
  obtain ⟨t, member, result, outputs⟩ := sound.find?_result drafted
  rw [outputs, List.mem_singleton] at written
  have there : (d.attach { g with counter := d.counter }).tensors.find? id = some t := by
    rw [written]
    exact sound.find?_attach_of_mem owns member
  obtain ⟨n, _, _, made⟩ := sound.made t member
  rcases made.id_eq with ⟨stem, constant, _⟩ | ⟨_, _, unstored⟩
  · exact Graph.resultId_ne_numbered _ _ _ ((mem_of_drafted? result).2.symm.trans constant)
  · simp [Graph.constant?, there, unstored] at stored

include wired

theorem Sound.stocked_of_found (solves : g.Solves I fed env) {id : String} {t : Tensor}
    (found : g.tensors.find? id = some t) :
    (d.attach { g with counter := d.counter }).stocked I env id = env id := by
  have same : (d.attach { g with counter := d.counter }).constant? I id = g.constant? I id := by
    rw [Graph.constant?, Graph.constant?,
      (sound.frame wired.toNumbered owns unclashed).tensors_kept id t found, found]
  rw [Graph.stocked, same]
  cases stored : g.constant? I id with
  | none => rfl
  | some c => exact (solves.constants id c stored).symm

/-- Running the drafted operators extends a solution. -/
theorem Sound.solves_attach (solves : g.Solves I fed env)
    (run : Op.run I ((d.attach { g with counter := d.counter }).stocked I env) d.ops =
      some env') :
    (d.attach { g with counter := d.counter }).Solves I fed env' ∧
      ∀ id t, g.tensors.find? id = some t → env' id = env id := by
  have frame := sound.frame wired.toNumbered owns unclashed
  have kept : ∀ id t, g.tensors.find? id = some t → env' id = env id := by
    intro id t found
    rw [Op.run_of_not_written run, sound.stocked_of_found wired owns unclashed solves found]
    intro op drafted written
    obtain ⟨n, _, _, new⟩ := sound.newOps op drafted
    rw [new.outputs_eq, List.mem_singleton] at written
    have free := unclashed op drafted
    rw [written, ((Graph.isTaken_eq_false_iff g _).mp free).1] at found
    contradiction
  -- old operators keep their values, and new ones have those of the run
  refine ⟨?_, kept⟩
  have before := solves.congr wired kept
  exact {
    ops := by
      intro id op found
      rcases sound.op_of_attach found with old | ⟨drafted, _⟩
      · exact before.ops id op old
      · exact Op.solved_of_run (sound.stacked owns unclashed) run op drafted
    constants := by
      intro id c stored
      rw [Op.run_of_not_written run (sound.constant_unwritten owns stored),
        Graph.stocked, stored]
      rfl
    inputs := by
      rw [frame.inputs_eq]
      exact before.inputs }

end Attached

end Draft

end Solves

end ReductionIR
