import ReductionIR.Proofs.Chains
import ReductionIR.Proofs.TableLaws
/-
Which entry a registry answers with. A builder takes the first entry that comes for an operator
and an opset, and a registry built of it answers with the newest one up to the opset that is asked
for, in whichever order entries came and whatever is registered later.
-/
namespace ReductionIR

namespace Entry

/-- Two entries for one operator and one opset. -/
def Rivals (e f : Entry) : Prop := e.operator = f.operator ∧ e.since = f.since

instance (e f : Entry) : Decidable (e.Rivals f) :=
  inferInstanceAs (Decidable (e.operator = f.operator ∧ e.since = f.since))

/-- Of all rivals the first one. -/
def firsts (entries : List Entry) : List Entry :=
  entries.foldl (fun kept e => if ∃ f ∈ kept, f.Rivals e then kept else kept ++ [e]) []

theorem firsts_concat (entries : List Entry) (e : Entry) :
    firsts (entries ++ [e]) =
      if ∃ f ∈ firsts entries, f.Rivals e then firsts entries else firsts entries ++ [e] := by
  rw [firsts, List.foldl_concat]
  rfl

theorem firsts_subset (entries : List Entry) : firsts entries ⊆ entries := by
  induction entries using List.reverseRecOn with
  | nil => exact List.Subset.refl _
  | append_singleton rest e ih =>
    rw [firsts_concat]
    split
    · exact List.subset_append_of_subset_left _ ih
    · exact List.append_subset.mpr
        ⟨List.subset_append_of_subset_left _ ih, List.subset_append_right ..⟩

theorem exists_first {entries : List Entry} {e : Entry} (member : e ∈ entries) :
    ∃ f ∈ firsts entries, f.Rivals e := by
  induction entries using List.reverseRecOn with
  | nil => simp at member
  | append_singleton rest last ih =>
    rw [firsts_concat]
    rcases List.mem_append.mp member with old | new
    · obtain ⟨f, kept, rivals⟩ := ih old
      split
      · exact ⟨f, kept, rivals⟩
      · exact ⟨f, List.mem_append_left _ kept, rivals⟩
    · rw [List.mem_singleton] at new
      subst new
      split
      · assumption
      · exact ⟨e, by simp, rfl, rfl⟩

theorem exists_firsts_iff {entries : List Entry} {operator : String} :
    (∃ e ∈ firsts entries, e.operator = operator) ↔ ∃ e ∈ entries, e.operator = operator := by
  constructor
  · rintro ⟨e, kept, same⟩
    exact ⟨e, firsts_subset entries kept, same⟩
  · rintro ⟨e, came, same⟩
    obtain ⟨f, kept, rivals⟩ := exists_first came
    exact ⟨f, kept, rivals.1.trans same⟩

/-- The newest of some entries for an operator that is not newer than an opset. -/
structure Newest (e : Entry) (entries : List Entry) (operator : String) (opset : Int) : Prop where
  listed : e ∈ entries
  forOperator : e.operator = operator
  early : e.since ≤ opset
  latest : ∀ f ∈ entries, f.operator = operator → f.since ≤ opset → f.since ≤ e.since

end Entry

namespace Registry

/-! Builders -/

namespace Builder

variable {b : Builder} {entries : List Entry}

/-- A builder holds some entries, no two of which are rivals. -/
structure Holds (b : Builder) (entries : List Entry) : Prop where
  distinct : entries.Pairwise fun e f => ¬ e.Rivals f
  chain : ∀ operator, b.entries operator = entries.filter (·.operator = operator)
  known : ∀ operator, operator ∈ b.chains.keys ↔ ∃ e ∈ entries, e.operator = operator

theorem holds_empty : Holds {} [] := ⟨List.Pairwise.nil, fun _ => rfl, fun operator => by
  change operator ∈ [] ↔ _
  simp⟩

theorem Holds.register_of_rival {e f : Entry} (holds : b.Holds entries) (listed : f ∈ entries)
    (rivals : f.Rivals e) :
    b.register e = (b, some (.registeredTwice e.operator e.since)) := by
  have present : b.chains.contains e.operator = true :=
    (Table.contains_iff_mem_keys _ _).mpr ((holds.known _).mpr ⟨f, listed, rivals.1⟩)
  have unchanged : b.chains.insertNew e.operator [] = b.chains := by
    rw [Table.insertNew, if_pos present]
  have taken : (b.entries e.operator).any (·.since == e.since) = true := by
    rw [holds.chain, List.any_eq_true]
    exact ⟨f, List.mem_filter.mpr ⟨listed, by simpa using rivals.1⟩, by simpa using rivals.2⟩
  unfold register
  simp only [unchanged]
  rw [if_pos taken]

theorem Holds.register {e : Entry} (holds : b.Holds entries)
    (unrivalled : ¬ ∃ f ∈ entries, f.Rivals e) :
    ∃ b', b.register e = (b', none) ∧ b'.Holds (entries ++ [e]) := by
  have chain : (b.chains.insertNew e.operator []).find? e.operator =
      some (b.entries e.operator) := by
    rw [Table.find?_insertNew, if_pos rfl]
    rfl
  -- without a rival no entry of the chain has this opset
  have fresh : (b.entries e.operator).any (·.since == e.since) = false := by
    rw [holds.chain, List.any_eq_false]
    intro f member
    rw [List.mem_filter, decide_eq_true_iff] at member
    intro same
    exact unrivalled ⟨f, member.1, member.2, by simpa using same⟩
  let b' : Builder :=
    ⟨(b.chains.insertNew e.operator []).insert e.operator (b.entries e.operator ++ [e])⟩
  refine ⟨b', ?_, ?_, ?_, ?_⟩
  · have chain' : Builder.entries ⟨b.chains.insertNew e.operator []⟩ e.operator =
        b.entries e.operator := by rw [Builder.entries, chain, Option.getD_some]
    unfold Builder.register
    simp only [chain', fresh, Bool.false_eq_true, ↓reduceIte]
    rfl
  · refine List.pairwise_append.mpr ⟨holds.distinct, List.pairwise_singleton .., ?_⟩
    intro f listed last new rivals
    rw [List.mem_singleton] at new
    exact unrivalled ⟨f, listed, new ▸ rivals⟩
  · intro operator
    rw [List.filter_append, ← holds.chain, List.filter_singleton]
    unfold Builder.entries
    rw [Table.find?_insert, Table.find?_insertNew]
    by_cases same : operator = e.operator
    · subst same
      simp [Builder.entries]
    · simp [same, Ne.symm same]
  · intro operator
    rw [Table.mem_keys_insert, Table.mem_keys_insertNew, holds.known]
    simp only [List.mem_append, List.mem_singleton, or_and_right, exists_or, exists_eq_left]
    grind

theorem Holds.register_answer (holds : b.Holds entries) (e : Entry) : (b.register e).2 =
    if ∃ f ∈ entries, f.Rivals e then some (.registeredTwice e.operator e.since) else none := by
  split
  · rename_i rivalled
    obtain ⟨f, listed, rivals⟩ := rivalled
    rw [holds.register_of_rival listed rivals]
  · rename_i unrivalled
    obtain ⟨b', done, _⟩ := holds.register unrivalled
    rw [done]

theorem Holds.register_unchanged (holds : b.Holds entries) {e : Entry} {failure : Breakdown}
    (refused : (b.register e).2 = some failure) : (b.register e).1 = b := by
  rw [holds.register_answer] at refused
  split at refused
  · rename_i rivalled
    obtain ⟨f, listed, rivals⟩ := rivalled
    rw [holds.register_of_rival listed rivals]
  · contradiction

theorem Holds.registerAll (holds : b.Holds entries) (new : List Entry)
    (distinct : (entries ++ new).Pairwise fun e f => ¬ e.Rivals f) :
    ∃ b', b.registerAll new = (b', none) ∧ b'.Holds (entries ++ new) := by
  induction new generalizing b entries with
  | nil => exact ⟨b, rfl, by rwa [List.append_nil]⟩
  | cons e rest ih =>
    obtain ⟨next, step, more⟩ := holds.register (e := e) fun ⟨f, listed, rivals⟩ =>
      (List.pairwise_append.mp distinct).2.2 f listed e (List.mem_cons_self ..) rivals
    rw [List.append_cons] at distinct ⊢
    obtain ⟨b', steps, all⟩ := ih more distinct
    exact ⟨b', by rw [Builder.registerAll, step]; exact steps, all⟩

/-! What is built -/

section Build

variable (holds : b.Holds entries)

include holds

theorem Holds.entries_build (operator : String) :
    b.build.entries operator = inOrder (entries.filter (·.operator = operator)) := by
  rw [← holds.chain, Registry.entries, build, Table.find?_map]
  cases found : b.chains.find? operator <;> simp [Builder.entries, found, inOrder]

theorem Holds.mem_entries {operator : String} {e : Entry} :
    e ∈ b.build.entries operator ↔ e ∈ entries ∧ e.operator = operator := by
  rw [holds.entries_build, (inOrder_perm _).mem_iff, List.mem_filter, decide_eq_true_iff]

theorem Holds.inOrder_entries (operator : String) : InOrder (b.build.entries operator) := by
  rw [holds.entries_build]
  refine inOrder_inOrder (List.Pairwise.imp_of_mem ?_ (holds.distinct.filter _))
  intro e f first second unrivalled same
  rw [List.mem_filter, decide_eq_true_iff] at first second
  exact unrivalled ⟨first.2.trans second.2.symm, same⟩

/-- The same entries in another order make the same chains. -/
theorem Holds.entries_eq_of_perm {c : Builder} {others : List Entry} (also : c.Holds others)
    (perm : others.Perm entries) (operator : String) :
    c.build.entries operator = b.build.entries operator := by
  refine (also.inOrder_entries operator).eq_of_perm (holds.inOrder_entries operator) ?_
  rw [also.entries_build, holds.entries_build]
  exact (inOrder_perm _).trans ((perm.filter _).trans (inOrder_perm _).symm)

theorem Holds.operators_eq_of_perm {c : Builder} {others : List Entry} (also : c.Holds others)
    (perm : others.Perm entries) : c.build.operators = b.build.operators := by
  have same : c.build.chains.keys.Perm b.build.chains.keys := by
    refine (List.perm_ext_iff_of_nodup c.build.chains.nodup_keys b.build.chains.nodup_keys).mpr ?_
    intro operator
    change operator ∈ (c.chains.map inOrder).keys ↔ operator ∈ (b.chains.map inOrder).keys
    rw [Table.keys_map, Table.keys_map, also.known, holds.known]
    exact exists_congr fun e => and_congr_left fun _ => perm.mem_iff
  have sorted (ids : List String) : (ids.mergeSort (· ≤ ·)).Pairwise (· ≤ ·) := by
    have := @List.pairwise_mergeSort _ (fun a b : String => decide (a ≤ b))
      (fun a b c => by simpa using String.le_trans) (fun a b => by simpa using String.le_total a b) ids
    simpa using this
  exact ((List.mergeSort_perm ..).trans (same.trans (List.mergeSort_perm ..).symm)).eq_of_pairwise
    (fun _ _ _ _ => String.le_antisymm) (sorted _) (sorted _)

end Build

/-! What is answered -/

variable {e : Entry} {operator : String} {opset : Int}

theorem Holds.resolve_eq_ok_iff (holds : b.Holds entries) :
    b.build.resolve operator opset = .ok e ↔ e.Newest entries operator opset := by
  rw [Registry.resolve_eq_ok_iff (holds.inOrder_entries operator)]
  constructor
  · rintro ⟨listed, early, latest⟩
    obtain ⟨kept, same⟩ := holds.mem_entries.mp listed
    exact ⟨kept, same, early, fun f other ofSame => latest f (holds.mem_entries.mpr ⟨other, ofSame⟩)⟩
  · rintro ⟨kept, same, early, latest⟩
    refine ⟨holds.mem_entries.mpr ⟨kept, same⟩, early, fun f other => ?_⟩
    obtain ⟨listed, ofSame⟩ := holds.mem_entries.mp other
    exact latest f listed ofSame

theorem Holds.entries_eq_nil_iff (holds : b.Holds entries) :
    b.build.entries operator = [] ↔ ¬ ∃ e ∈ entries, e.operator = operator := by
  rw [List.eq_nil_iff_forall_not_mem, not_exists]
  exact forall_congr' fun e => not_congr holds.mem_entries

theorem Holds.resolve_mono (holds : b.Holds entries) {further : Int} (later : opset ≤ further)
    (answer : b.build.resolve operator opset = .ok e) :
    ∃ f, b.build.resolve operator further = .ok f ∧ e.since ≤ f.since := by
  obtain ⟨listed, early, _⟩ := (Registry.resolve_eq_ok_iff (holds.inOrder_entries operator)).mp answer
  obtain ⟨f, found⟩ :=
    exists_resolve_eq_ok (holds.inOrder_entries operator) listed (Int.le_trans early later)
  obtain ⟨_, _, latest⟩ := (Registry.resolve_eq_ok_iff (holds.inOrder_entries operator)).mp found
  exact ⟨f, found, latest e listed (Int.le_trans early later)⟩

/-- The same entries in another order are all taken, and the answers are the same. -/
theorem Holds.exists_reordered (holds : b.Holds entries) {others : List Entry}
    (perm : others.Perm entries) :
    ∃ other, Builder.registerAll {} others = (other, none) ∧
      other.build.operators = b.build.operators ∧
      ∀ operator opset, other.build.resolve operator opset = b.build.resolve operator opset := by
  have distinct : others.Pairwise fun e f => ¬ e.Rivals f :=
    (perm.pairwise_iff fun unlike rivals => unlike ⟨rivals.1.symm, rivals.2.symm⟩).mpr holds.distinct
  obtain ⟨other, done, also⟩ := holds_empty.registerAll others distinct
  exact ⟨other, done, holds.operators_eq_of_perm also perm,
    fun operator => resolve_congr (holds.entries_eq_of_perm also perm operator)⟩

end Builder

/-! Calls -/

/-- What a builder is asked for. -/
inductive Call
  | register (entry : Entry)
  | build

/-- A builder at work, the entries it has not refused, and the registries it has built. -/
structure Workbench where
  builder : Builder := {}
  accepted : List Entry := []
  built : List Registry := []

namespace Workbench

def turn (w : Workbench) : Call → Workbench
  | .register e =>
    match w.builder.register e with
    | (b, none) => { w with builder := b, accepted := w.accepted ++ [e] }
    | (b, some _) => { w with builder := b }
  | .build => { w with built := w.built ++ [w.builder.build] }

def after (calls : List Call) : Workbench := calls.foldl turn {}

/-- The entries that come in. -/
def incoming (calls : List Call) : List Entry :=
  calls.filterMap fun
    | .register e => some e
    | .build => none

/-- How often a registry is built. -/
def builds (calls : List Call) : Nat :=
  calls.countP fun
    | .register _ => false
    | .build => true

theorem after_concat (calls : List Call) (call : Call) :
    after (calls ++ [call]) = (after calls).turn call := by
  rw [after, List.foldl_concat]
  rfl

/-- The builder holds what it has accepted, and that is the first of all rivals. -/
theorem holds_after (calls : List Call) :
    (after calls).builder.Holds (after calls).accepted ∧
      (after calls).accepted = Entry.firsts (incoming calls) := by
  induction calls using List.reverseRecOn with
  | nil => exact ⟨Builder.holds_empty, rfl⟩
  | append_singleton rest call ih =>
    obtain ⟨holds, firsts⟩ := ih
    rw [after_concat, incoming, List.filterMap_append, ← incoming]
    cases call with
    | build => exact ⟨holds, firsts.trans (congrArg _ (List.append_nil _).symm)⟩
    | register e =>
      change _ ∧ _ = Entry.firsts (incoming rest ++ [e])
      rw [Entry.firsts_concat, ← firsts]
      by_cases rivalled : ∃ f ∈ (after rest).accepted, f.Rivals e
      · obtain ⟨f, listed, rivals⟩ := rivalled
        rw [turn, holds.register_of_rival listed rivals, if_pos ⟨f, listed, rivals⟩]
        exact ⟨holds, rfl⟩
      · obtain ⟨b', done, more⟩ := holds.register rivalled
        rw [turn, done, if_neg rivalled]
        exact ⟨more, rfl⟩

theorem length_built (calls : List Call) : (after calls).built.length = builds calls := by
  induction calls using List.reverseRecOn with
  | nil => rfl
  | append_singleton rest call ih =>
    rw [after_concat, builds, List.countP_append, ← builds, ← ih]
    cases call with
    | register e =>
      rw [turn]
      split <;> rfl
    | build => simp [turn]

theorem built_prefix (calls more : List Call) :
    (after calls).built <+: (after (calls ++ more)).built := by
  induction more using List.reverseRecOn with
  | nil => exact (List.append_nil calls).symm ▸ List.prefix_refl _
  | append_singleton rest call ih =>
    rw [← List.append_assoc, after_concat]
    cases call with
    | register e =>
      rw [turn]
      split <;> exact ih
    | build => exact ih.trans (List.prefix_append ..)

theorem built_at (before later : List Call) :
    (after (before ++ .build :: later)).built[builds before]? = some (after before).builder.build := by
  obtain ⟨more, same⟩ := built_prefix (before ++ [.build]) later
  rw [List.append_assoc, List.singleton_append] at same
  rw [← same, after_concat, ← length_built]
  simp [turn]

end Workbench

/-- A registry answers for the entries that were accepted before it was built, which are the first
    of all rivals. Its chains are in order; the newest entry up to an opset is the answer, an
    operator of which no entry came in is unknown, and one of which all are newer has none yet. A
    later opset has an entry at least as new, the order of the entries makes no difference, and
    what is refused leaves the builder as it is. -/
theorem built_registry_answers_for_accepted_entries (before later : List Call) :
    let w := Workbench.after before
    let incoming := Workbench.incoming before
    w.accepted = Entry.firsts incoming ∧
    ∃ registry,
      (Workbench.after (before ++ .build :: later)).built[Workbench.builds before]? = some registry ∧
      (∀ operator, (registry.entries operator).Pairwise (fun e f => e.since < f.since) ∧
        ∀ e, e ∈ registry.entries operator ↔ e ∈ w.accepted ∧ e.operator = operator) ∧
      (∀ operator opset e, registry.resolve operator opset = .ok e ↔
        e.Newest w.accepted operator opset) ∧
      (∀ operator opset, registry.resolve operator opset = .error (.unsupportedOperator operator) ↔
        ∀ e ∈ incoming, e.operator ≠ operator) ∧
      (∀ operator opset, (∃ earliest, registry.resolve operator opset =
          .error (.unsupportedVersion operator opset earliest)) ↔
        (∃ e ∈ incoming, e.operator = operator) ∧
          ∀ e ∈ w.accepted, e.operator = operator → opset < e.since) ∧
      (∀ operator opset further e, opset ≤ further → registry.resolve operator opset = .ok e →
        ∃ f, registry.resolve operator further = .ok f ∧ e.since ≤ f.since) ∧
      (∀ others : List Entry, others.Perm w.accepted →
        ∃ other, Builder.registerAll {} others = (other, none) ∧
          other.build.operators = registry.operators ∧
          ∀ operator opset, other.build.resolve operator opset = registry.resolve operator opset) ∧
      (∀ e, (w.builder.register e).2 =
          if ∃ f ∈ w.accepted, f.Rivals e then some (.registeredTwice e.operator e.since)
          else none) ∧
      ∀ e failure, (w.builder.register e).2 = some failure →
        (w.builder.register e).1 = w.builder := by
  obtain ⟨holds, firsts⟩ := Workbench.holds_after before
  have unheard (operator : String) :
      (Workbench.after before).builder.build.entries operator = [] ↔
        ¬ ∃ e ∈ Workbench.incoming before, e.operator = operator := by
    rw [holds.entries_eq_nil_iff, firsts, Entry.exists_firsts_iff]
  refine ⟨firsts, _, Workbench.built_at before later,
    fun operator => ⟨holds.inOrder_entries operator, fun e => holds.mem_entries⟩,
    fun operator opset e => holds.resolve_eq_ok_iff, ?_, ?_,
    fun operator opset further e => holds.resolve_mono, fun others => holds.exists_reordered,
    holds.register_answer, fun e failure => holds.register_unchanged⟩
  · intro operator opset
    rw [resolve_unknown_iff, unheard, not_exists]
    exact forall_congr' fun e => not_and
  · intro operator opset
    rw [resolve_early_iff (holds.inOrder_entries operator), Ne, unheard, not_not]
    refine and_congr_right fun _ => forall_congr' fun e => ?_
    rw [holds.mem_entries, and_imp]

end Registry

end ReductionIR
