import Mathlib.Data.Fintype.Card
import Mathlib.Data.Set.Finite.Basic
import Mathlib.Logic.Relation
import ReductionIR.Proofs.Sorting
/-
When operators can be sorted. The sort takes each operator off its queue once, so it ends; what it
leaves out are operators with a cycle behind them.
-/
namespace ReductionIR

open Relation

namespace Graph

variable {g : Graph} {p id : String}

theorem Feeds.mem_keys (feeds : g.Feeds p id) : p ∈ g.ops.keys ∧ id ∈ g.ops.keys := by
  obtain ⟨op, found, _, _, _, _, _, present⟩ := feeds
  exact ⟨(Table.contains_iff_mem_keys _ _).mp present,
    (Table.contains_iff_mem_keys _ _).mp (Table.contains_of_find? found)⟩

theorem wellFounded_feeds (acyclic : ∀ id, ¬ TransGen g.Feeds id id) : WellFounded g.Feeds := by
  let behind (a b : {id // id ∈ g.ops.keys}) : Prop := TransGen g.Feeds a b
  have : Finite {id // id ∈ g.ops.keys} := (List.finite_toSet g.ops.keys).to_subtype
  have : IsTrans _ behind := ⟨fun _ _ _ => TransGen.trans⟩
  have : Std.Irrefl behind := ⟨fun a => acyclic a⟩
  have grounded (a : {id // id ∈ g.ops.keys}) : Acc g.Feeds a := by
    induction a using (Finite.wellFounded_of_trans_of_irrefl behind).induction with
    | _ a ih =>
      refine ⟨_, fun p feeds => ?_⟩
      exact ih ⟨p, feeds.mem_keys.1⟩ (TransGen.single feeds)
  exact ⟨fun id => ⟨id, fun p feeds => grounded ⟨p, feeds.mem_keys.1⟩⟩⟩

end Graph

namespace Export

variable {g : Graph} {s : Sorting}

namespace Sorting

/-! The end of the queue -/

theorem Sound.length_le (sound : Sound g s) : s.done.length + s.queue.length ≤ g.ops.size := by
  rw [← List.length_append, ← Table.length_keys]
  refine (sound.nodup.subperm ?_).length_le
  intro id member
  obtain ⟨op, found⟩ := sound.known id member
  exact (Table.contains_iff_mem_keys _ _).mp (Table.contains_of_find? found)

theorem queue_run_eq_nil {steps : Nat} (enough : g.ops.size ≤ steps) :
    (run g steps (start g)).queue = [] := by
  obtain ⟨sound, empty | many⟩ := (sound_start g).run steps
  · exact empty
  · have bound := sound.length_le
    have none_done : (start g).done.length = 0 := rfl
    exact List.length_eq_zero_iff.mp (by omega)

theorem run_of_queue_eq_nil (empty : s.queue = []) (steps : Nat) : run g steps s = s := by
  cases steps with
  | zero => rfl
  | succ steps => rw [run, empty]

theorem run_add (m n : Nat) (s : Sorting) : run g (m + n) s = run g n (run g m s) := by
  induction m generalizing s with
  | zero => rw [Nat.zero_add, run]
  | succ m ih =>
    cases queued : s.queue with
    | nil => rw [run_of_queue_eq_nil queued, run_of_queue_eq_nil queued, run_of_queue_eq_nil queued]
    | cons id rest =>
      rw [Nat.add_right_comm, run, run, queued]
      exact ih _

theorem run_eq_run_size {steps : Nat} (enough : g.ops.size ≤ steps) :
    run g steps (start g) = run g g.ops.size (start g) := by
  obtain ⟨more, rfl⟩ := Nat.exists_eq_add_of_le enough
  rw [run_add, run_of_queue_eq_nil (queue_run_eq_nil (Nat.le_refl _))]

end Sorting

/-! Orders -/

variable {order : List String} {p id : String}

/-- In a sorted order all that leads to an operator comes before it. -/
theorem Ordered.mem_before (ordered : Ordered g order) (leads : TransGen g.Feeds p id) :
    ∀ before after, order = before ++ id :: after → p ∈ before := by
  induction leads with
  | single feeds =>
    intro before after split
    obtain ⟨op, found, producer⟩ := feeds_iff.mp feeds
    exact ordered.behind before _ after split op found p producer
  | @tail middle id _ feeds ih =>
    intro before after split
    obtain ⟨op, found, producer⟩ := feeds_iff.mp feeds
    obtain ⟨first, second, rfl⟩ := List.append_of_mem
      (ordered.behind before _ after split op found middle producer)
    have earlier := ih first (second ++ id :: after) (by rw [split]; simp)
    exact List.mem_append_left _ earlier

theorem Ordered.acyclic (ordered : Ordered g order) (id : String) : ¬ TransGen g.Feeds id id := by
  intro cycle
  obtain ⟨middle, _, feeds⟩ := TransGen.tail'_iff.mp cycle
  obtain ⟨op, found, _⟩ := feeds_iff.mp feeds
  obtain ⟨before, after, split⟩ := List.append_of_mem ((ordered.mem_iff id).mpr ⟨op, found⟩)
  have earlier := ordered.mem_before cycle before after split
  have nodup := split ▸ ordered.nodup
  exact (List.nodup_append.mp nodup).2.2 id earlier id (List.mem_cons_self ..) rfl

theorem exists_entries {table : Table String Op} {ids : List String}
    (known : ∀ id ∈ ids, ∃ op, table.find? id = some op) :
    ∃ entries : List (String × Op), entries.map Prod.fst = ids ∧
      entries.map Prod.snd = ids.filterMap table.find? ∧
      ∀ entry ∈ entries, table.find? entry.1 = some entry.2 := by
  induction ids with
  | nil => exact ⟨[], rfl, rfl, by simp⟩
  | cons id rest ih =>
    obtain ⟨op, found⟩ := known id (List.mem_cons_self ..)
    obtain ⟨entries, ids, ops, each⟩ := ih fun other later => known other (List.mem_cons_of_mem _ later)
    refine ⟨(id, op) :: entries, by simp [ids], by simp [ops, found], ?_⟩
    intro entry member
    rcases List.mem_cons.mp member with rfl | later
    · exact found
    · exact each entry later

theorem Ordered.exists_perm (ordered : Ordered g order) :
    ∃ entries : List (String × Op), entries.map Prod.fst = order ∧
      entries.map Prod.snd = order.filterMap g.ops.find? ∧ entries.Perm g.ops.entries := by
  obtain ⟨entries, ids, ops, each⟩ := exists_entries fun id member => (ordered.mem_iff id).mp member
  refine ⟨entries, ids, ops, ?_⟩
  have distinct : entries.Nodup := List.Nodup.of_map Prod.fst (ids ▸ ordered.nodup)
  refine (List.perm_ext_iff_of_nodup distinct (List.Nodup.of_map _ g.ops.nodup_keys)).mpr ?_
  rintro ⟨id, op⟩
  constructor
  · intro member
    exact Table.mem_of_find? (each _ member)
  · intro member
    have found := Table.find?_of_mem member
    have listed := (ordered.mem_iff id).mpr ⟨op, found⟩
    rw [← ids] at listed
    obtain ⟨⟨_, other⟩, there, rfl⟩ := List.mem_map.mp listed
    have same := (each _ there).symm.trans found
    rw [Option.some.injEq] at same
    exact same ▸ there

/-! The sort -/

theorem sorted_eq_error_iff : sorted g = .error (.internal .cycle) ↔ ∀ ops, sorted g ≠ .ok ops := by
  unfold sorted
  dsimp only
  split <;> simp

/-- Sorting ends. Operators without a cycle come out once each, behind what feeds them; otherwise,
    and only then, a cycle is reported. -/
theorem operators_are_sorted_or_in_a_cycle (g : Graph) :
    (∀ steps, g.ops.size ≤ steps → (Sorting.run g steps (Sorting.start g)).queue = [] ∧
      Sorting.run g steps (Sorting.start g) = Sorting.run g g.ops.size (Sorting.start g)) ∧
    ((∀ id, ¬ TransGen g.Feeds id id) → ∃ entries : List (String × Op),
      sorted g = .ok (entries.map Prod.snd) ∧ entries.Perm g.ops.entries ∧
      ∀ before id op after, entries = before ++ (id, op) :: after →
        ∀ p, g.Feeds p id → p ∈ before.map Prod.fst) ∧
    (sorted g = .error (.internal .cycle) ↔ ∃ id, TransGen g.Feeds id id) := by
  refine ⟨fun steps enough => ⟨Sorting.queue_run_eq_nil enough, Sorting.run_eq_run_size enough⟩,
    ?_, ?_⟩
  · intro acyclic
    obtain ⟨order, done, ordered⟩ := sorted_of_wellFounded (Graph.wellFounded_feeds acyclic)
    obtain ⟨entries, ids, ops, perm⟩ := ordered.exists_perm
    refine ⟨entries, by rw [done, ops], perm, ?_⟩
    intro before id op after split p feeds
    refine ordered.mem_before (TransGen.single feeds) _ (after.map Prod.fst) ?_
    rw [← ids, split, List.map_append, List.map_cons]
  · rw [sorted_eq_error_iff]
    constructor
    · intro unsorted
      by_contra none_cyclic
      obtain ⟨order, done, _⟩ :=
        sorted_of_wellFounded (Graph.wellFounded_feeds (not_exists.mp none_cyclic))
      exact unsorted _ done
    · rintro ⟨id, cycle⟩ ops done
      obtain ⟨order, _, ordered⟩ := ordered_of_sorted done
      exact ordered.acyclic id cycle

end Export

end ReductionIR
