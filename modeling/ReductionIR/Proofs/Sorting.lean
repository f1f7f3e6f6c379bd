import Mathlib.Data.List.Perm.Subperm
import ReductionIR.Export
import ReductionIR.Proofs.TableLaws
/-
The topological sort of operators. What an operator still waits for is counted with
multiplicity, and it is queued when the count gets to zero. If no operator goes back to itself
by way of its producers, every operator comes out, and comes out behind its producers.
-/
namespace ReductionIR

/-- One operator produces a tensor that another one, or the same one, reads. -/
def Graph.Feeds (g : Graph) (p id : String) : Prop :=
  ∃ op, g.ops.find? id = some op ∧ ∃ input ∈ op.inputs, ∃ t, g.tensors.find? input = some t ∧
    (g.placement t).producer? = some p ∧ g.ops.contains p = true

namespace Export

theorem mem_producers_iff {g : Graph} {op : Op} {p : String} :
    p ∈ producers g op ↔ ∃ input ∈ op.inputs, ∃ t, g.tensors.find? input = some t ∧
      (g.placement t).producer? = some p ∧ g.ops.contains p = true := by
  simp only [producers, List.mem_filterMap, Option.filter_eq_some_iff, Option.bind_eq_some_iff,
    ← exists_and_right, and_assoc]

theorem feeds_iff {g : Graph} {p id : String} :
    g.Feeds p id ↔ ∃ op, g.ops.find? id = some op ∧ p ∈ producers g op := by
  simp only [Graph.Feeds, mem_producers_iff]

/-- How many inputs an operator still waits for when some operators are done. -/
def waiting (g : Graph) (done : List String) (op : Op) : Nat :=
  (producers g op).countP (· ∉ done)

theorem waiting_eq_zero_iff {g : Graph} {done : List String} {op : Op} :
    waiting g done op = 0 ↔ ∀ p ∈ producers g op, p ∈ done := by
  simp [waiting, List.countP_eq_zero]

theorem waiting_nil (g : Graph) (op : Op) : waiting g [] op = (producers g op).length := by
  simp [waiting]

theorem waiting_append {g : Graph} {done : List String} {id : String} (new : id ∉ done)
    (op : Op) :
    waiting g done op = waiting g (done ++ [id]) op + (producers g op).count id := by
  unfold waiting
  induction producers g op with
  | nil => rfl
  | cons p rest ih =>
    rw [List.countP_cons, List.countP_cons, List.count_cons, ih]
    by_cases same : p = id
    · subst same
      simp [new]
      omega
    · simp [same]
      omega

namespace Sorting

variable {g : Graph} {s : Sorting}

theorem release_eq {key : String} {m : Nat} (awaited : s.awaited.find? key = some m) :
    s.release key = { s with
      awaited := s.awaited.insert key (m - 1)
      queue := if m - 1 = 0 then s.queue ++ [key] else s.queue } := by
  simp [release, awaited]

/-- Each operator waits for one input less as often as it is released, and is queued when it waits
    for none. -/
theorem foldl_release (ids : List String) (s : Sorting)
    (enough : ∀ key ∈ ids, ∃ m, s.awaited.find? key = some m ∧ ids.count key ≤ m) :
    (∀ key m, s.awaited.find? key = some m →
      (ids.foldl release s).awaited.find? key = some (m - ids.count key)) ∧
    ∃ freed, (ids.foldl release s).queue = s.queue ++ freed ∧ freed.Nodup ∧
      ∀ key, key ∈ freed ↔ key ∈ ids ∧ s.awaited.find? key = some (ids.count key) := by
  induction ids generalizing s with
  | nil => exact ⟨fun _ _ found => found, [], (List.append_nil _).symm, .nil, by simp⟩
  | cons id rest ih =>
    obtain ⟨m, here, bound⟩ := enough id (List.mem_cons_self ..)
    rw [List.count_cons_self] at bound
    -- one release takes one off the number of its operator
    have released : ∀ key, (s.release id).awaited.find? key =
        if key = id then some (m - 1) else s.awaited.find? key := by
      intro key
      rw [release_eq here, Table.find?_insert]
    have left : ∀ key n, s.awaited.find? key = some n →
        (s.release id).awaited.find? key = some (n - [id].count key) := by
      intro key n found
      rw [released]
      by_cases same : key = id
      · subst same
        cases here.symm.trans found
        simp
      · simp [same, Ne.symm same, found]
    have counts : ∀ key, (id :: rest).count key = [id].count key + rest.count key :=
      fun key => by rw [← List.singleton_append, List.count_append]
    obtain ⟨less, freed, queue, distinct, known⟩ := ih (s.release id) (by
      intro key member
      obtain ⟨n, found, many⟩ := enough key (List.mem_cons_of_mem _ member)
      rw [counts] at many
      exact ⟨_, left key n found, by omega⟩)
    rw [List.foldl_cons]
    refine ⟨fun key n found => ?_, ?_⟩
    · rw [less key _ (left key n found), counts, Nat.sub_sub]
    · by_cases last : m = 1
      · have absent : id ∉ rest := List.count_eq_zero.mp (by omega)
        refine ⟨id :: freed, ?_, List.nodup_cons.mpr ⟨?_, distinct⟩, fun key => ?_⟩
        · rw [queue, release_eq here]
          simp [last]
        · exact fun member => absent ((known id).mp member).1
        · rw [List.mem_cons, known, released, List.mem_cons]
          by_cases same : key = id
          · subst same
            simp [here, last, List.count_eq_zero.mpr absent]
          · simp [same, Ne.symm same]
      · refine ⟨freed, ?_, distinct, fun key => ?_⟩
        · rw [queue, release_eq here]
          simp [show m - 1 ≠ 0 by omega]
        · rw [known, released, List.mem_cons]
          by_cases same : key = id
          · subst same
            rw [if_pos rfl, here, List.count_cons_self, Option.some.injEq, Option.some.injEq,
              ← List.count_pos_iff]
            omega
          · simp [same, Ne.symm same]

theorem mem_readers_iff {id key : String} :
    key ∈ readers g id ↔ ∃ op, g.ops.find? key = some op ∧ id ∈ producers g op := by
  simp only [readers, List.mem_flatMap, List.mem_map, List.mem_filter, beq_iff_eq]
  constructor
  · rintro ⟨⟨key, op⟩, member, _, ⟨reads, rfl⟩, rfl⟩
    exact ⟨op, Table.find?_of_mem member, reads⟩
  · rintro ⟨op, found, reads⟩
    exact ⟨(key, op), Table.mem_of_find? found, id, ⟨reads, rfl⟩, rfl⟩

/-- An operator is named once for each input that it reads. -/
theorem count_readers {id key : String} {op : Op} (found : g.ops.find? key = some op) :
    (readers g id).count key = (producers g op).count id := by
  have nodup := g.ops.nodup_keys
  have member := Table.mem_of_find? found
  unfold readers
  generalize g.ops.entries = entries at nodup member
  induction entries with
  | nil => contradiction
  | cons entry rest ih =>
    rw [List.map_cons, List.nodup_cons] at nodup
    rw [List.flatMap_cons, List.count_append, List.filter_beq, List.map_replicate,
      List.count_replicate]
    rcases List.mem_cons.mp member with rfl | later
    · have others : key ∉ rest.flatMap fun entry =>
          ((producers g entry.2).filter (· == id)).map fun _ => entry.1 := by
        intro again
        obtain ⟨other, there, named⟩ := List.mem_flatMap.mp again
        obtain ⟨_, _, rfl⟩ := List.mem_map.mp named
        exact nodup.1 (List.mem_map.mpr ⟨other, there, rfl⟩)
      rw [List.count_eq_zero.mpr others]
      simp
    · have apart : entry.1 ≠ key := fun same =>
        nodup.1 (List.mem_map.mpr ⟨_, later, same.symm⟩)
      rw [ih nodup.2 later]
      simp [apart]

/-- The invariant of the sort: every operator knows how many inputs it waits for, those that
    wait for none are done or queued, and those that are done came behind their producers. -/
structure Sound (g : Graph) (s : Sorting) : Prop where
  nodup : (s.done ++ s.queue).Nodup
  known : ∀ id ∈ s.done ++ s.queue, ∃ op, g.ops.find? id = some op
  awaited : ∀ id op, g.ops.find? id = some op →
    s.awaited.find? id = some (waiting g s.done op)
  ready : ∀ id op, g.ops.find? id = some op →
    (id ∈ s.done ++ s.queue ↔ waiting g s.done op = 0)
  ordered : ∀ before id after, s.done = before ++ id :: after → ∀ op, g.ops.find? id = some op →
    ∀ p ∈ producers g op, p ∈ before

theorem done_foldl_release (ids : List String) (s : Sorting) :
    (ids.foldl release s).done = s.done := by
  induction ids generalizing s with
  | nil => rfl
  | cons id rest ih =>
    rw [List.foldl_cons, ih]
    rfl

theorem sound_start (g : Graph) : Sound g (start g) := by
  have awaited : ∀ id op, g.ops.find? id = some op →
      (start g).awaited.find? id = some (waiting g [] op) := by
    intro id op found
    change (g.ops.map _).find? id = _
    rw [Table.find?_map, found, waiting_nil]
    rfl
  have queued : ∀ id, id ∈ (start g).queue ↔ (start g).awaited.find? id = some 0 := by
    intro id
    change id ∈ ((start g).awaited.entries.filter fun entry => entry.2 == 0).map Prod.fst ↔ _
    rw [Table.find?_eq_some_iff]
    simp
  exact {
    nodup := by
      change (List.map Prod.fst (List.filter _ (start g).awaited.entries)).Nodup
      exact ((List.filter_sublist).map Prod.fst).nodup (start g).awaited.nodup_keys
    known := by
      intro id member
      have zero := (queued id).mp member
      change (g.ops.map _).find? id = _ at zero
      rw [Table.find?_map] at zero
      obtain ⟨op, found, _⟩ := Option.map_eq_some_iff.mp zero
      exact ⟨op, found⟩
    awaited := awaited
    ready := by
      intro id op found
      change id ∈ (start g).queue ↔ waiting g [] op = 0
      rw [queued, awaited id op found, Option.some.injEq]
    ordered := by
      intro before id after split
      exact absurd split.symm (by simp [start]) }

variable {id : String} {rest : List String}

/-- When one more operator is done, those that wait for nothing more come into the queue. -/
theorem Sound.released (sound : Sound g s) (new : id ∉ s.done) (rest : List String) :
    let s' := (readers g id).foldl release { s with queue := rest, done := s.done ++ [id] }
    (∀ key op, g.ops.find? key = some op →
      s'.awaited.find? key = some (waiting g (s.done ++ [id]) op)) ∧
    ∃ freed, s'.queue = rest ++ freed ∧ freed.Nodup ∧ ∀ key, key ∈ freed ↔
      ∃ op, g.ops.find? key = some op ∧ waiting g s.done op ≠ 0 ∧
        waiting g (s.done ++ [id]) op = 0 := by
  have before : ∀ key op, g.ops.find? key = some op → s.awaited.find? key =
      some (waiting g (s.done ++ [id]) op + (readers g id).count key) := by
    intro key op found
    rw [count_readers found, ← waiting_append new, sound.awaited key op found]
  obtain ⟨less, freed, queue, distinct, known⟩ := foldl_release (readers g id)
    { s with queue := rest, done := s.done ++ [id] } (by
      intro key member
      obtain ⟨op, found, _⟩ := mem_readers_iff.mp member
      exact ⟨_, before key op found, by omega⟩)
  refine ⟨fun key op found => ?_, freed, queue, distinct, fun key => ?_⟩
  · rw [less key _ (before key op found), Nat.add_sub_cancel]
  · rw [known, mem_readers_iff, ← exists_and_right]
    refine exists_congr fun op => ?_
    rw [and_assoc, and_congr_right_iff]
    intro found
    rw [before key op found, waiting_append new, ← count_readers found, Option.some.injEq,
      ← List.count_pos_iff, ← count_readers found]
    omega

theorem Sound.ordered_append (sound : Sound g s)
    (ready : ∀ op, g.ops.find? id = some op → waiting g s.done op = 0) {before after : List String}
    {key : String} (split : s.done ++ [id] = before ++ key :: after) {op : Op}
    (found : g.ops.find? key = some op) : ∀ p ∈ producers g op, p ∈ before := by
  rcases List.eq_nil_or_concat after with rfl | ⟨between, last, rfl⟩
  · obtain ⟨rfl, same⟩ := List.append_inj' split rfl
    cases same
    exact waiting_eq_zero_iff.mp (ready op found)
  · rw [List.concat_eq_append, ← List.cons_append, ← List.append_assoc] at split
    obtain ⟨earlier, _⟩ := List.append_inj' split rfl
    exact sound.ordered before key between earlier op found

theorem Sound.next (sound : Sound g s) (queued : s.queue = id :: rest) :
    Sound g ((readers g id).foldl release { s with queue := rest, done := s.done ++ [id] }) := by
  have first : id ∈ s.done ++ s.queue := by simp [queued]
  have new : id ∉ s.done := by
    have nodup := sound.nodup
    rw [queued] at nodup
    exact fun member => (List.nodup_append.mp nodup).2.2 id member id (List.mem_cons_self ..) rfl
  obtain ⟨awaited, freed, queue, distinct, mem_freed⟩ := sound.released new rest
  have done := done_foldl_release (readers g id) { s with queue := rest, done := s.done ++ [id] }
  generalize (readers g id).foldl release _ = s' at done queue awaited ⊢
  dsimp only at done
  -- nothing leaves the two lists together, and what is freed comes behind
  have whole : s'.done ++ s'.queue = s.done ++ s.queue ++ freed := by
    rw [done, queue, queued]
    simp
  exact {
    nodup := by
      rw [whole]
      refine List.nodup_append.mpr ⟨sound.nodup, distinct, ?_⟩
      rintro key old _ newly rfl
      obtain ⟨op, found, waits, _⟩ := (mem_freed key).mp newly
      exact waits ((sound.ready key op found).mp old)
    known := by
      intro key member
      rw [whole, List.mem_append, mem_freed] at member
      exact member.elim (sound.known key) fun ⟨op, found, _⟩ => ⟨op, found⟩
    awaited := by
      rw [done]
      exact awaited
    ready := by
      intro key op found
      have freed_iff : key ∈ freed ↔
          waiting g s.done op ≠ 0 ∧ waiting g (s.done ++ [id]) op = 0 := by
        simp [mem_freed, found]
      rw [whole, List.mem_append, sound.ready key op found, freed_iff, done, waiting_append new]
      omega
    ordered := by
      intro before key after split op found
      rw [done] at split
      exact sound.ordered_append (fun op found => (sound.ready id op found).mp first) split found }

/-- After some steps the queue is empty or as many operators are done. -/
theorem Sound.run (steps : Nat) (sound : Sound g s) :
    Sound g (run g steps s) ∧
      ((run g steps s).queue = [] ∨ (run g steps s).done.length = s.done.length + steps) := by
  induction steps generalizing s with
  | zero => exact ⟨sound, Or.inr rfl⟩
  | succ steps ih =>
    cases queued : s.queue with
    | nil =>
      have stopped : Sorting.run g (steps + 1) s = s := by
        rw [Sorting.run, queued]
      rw [stopped]
      exact ⟨sound, Or.inl queued⟩
    | cons id rest =>
      obtain ⟨last, ended⟩ := ih (sound.next queued)
      have more : ((readers g id).foldl release
          { s with queue := rest, done := s.done ++ [id] }).done.length = s.done.length + 1 := by
        rw [done_foldl_release, List.length_append]
        rfl
      have step : Sorting.run g (steps + 1) s = Sorting.run g steps
          ((readers g id).foldl release { s with queue := rest, done := s.done ++ [id] }) := by
        rw [Sorting.run, queued]
      rw [step]
      refine ⟨last, ended.imp_right fun count => ?_⟩
      rw [count, more]
      omega

/-- When the queue is empty, nothing waits any more that no cycle leads to. -/
theorem Sound.complete (sound : Sound g s) (empty : s.queue = []) {id : String} {op : Op}
    (grounded : Acc g.Feeds id) (found : g.ops.find? id = some op) : id ∈ s.done := by
  induction grounded generalizing op with
  | intro id _ ih =>
    have zero : waiting g s.done op = 0 := by
      rw [waiting_eq_zero_iff]
      intro p producer
      obtain ⟨_, _, _, _, _, present⟩ := mem_producers_iff.mp producer
      obtain ⟨q, there⟩ : ∃ q, g.ops.find? p = some q := Option.isSome_iff_exists.mp present
      exact ih p (feeds_iff.mpr ⟨op, found, producer⟩) there
    have member := (sound.ready id op found).mpr zero
    rwa [empty, List.append_nil] at member

end Sorting

/-- The order of a sort: every operator once, behind its producers. -/
structure Ordered (g : Graph) (order : List String) : Prop where
  nodup : order.Nodup
  mem_iff : ∀ id, id ∈ order ↔ ∃ op, g.ops.find? id = some op
  behind : ∀ before id after, order = before ++ id :: after → ∀ op, g.ops.find? id = some op →
    ∀ p ∈ producers g op, p ∈ before

theorem Sorting.Sound.ordered_done {g : Graph} {s : Sorting} (sound : Sorting.Sound g s)
    (count : s.done.length = g.ops.size) : Ordered g s.done := by
  have nodup : s.done.Nodup := (List.nodup_append.mp sound.nodup).1
  have known : s.done ⊆ g.ops.keys := by
    intro id member
    obtain ⟨op, found⟩ := sound.known id (List.mem_append_left _ member)
    exact (Table.contains_iff_mem_keys _ _).mp (Table.contains_of_find? found)
  have same : g.ops.keys.length = s.done.length := Table.length_keys.trans count.symm
  have perm := (nodup.subperm known).perm_of_length_le (Nat.le_of_eq same)
  refine ⟨nodup, ?_, sound.ordered⟩
  intro id
  rw [← Option.isSome_iff_exists]
  exact perm.mem_iff.trans (Table.contains_iff_mem_keys g.ops id).symm

theorem ordered_of_sorted {g : Graph} {ops : List Op} (done : sorted g = .ok ops) :
    ∃ order, ops = order.filterMap g.ops.find? ∧ Ordered g order := by
  obtain ⟨sound, _⟩ := (Sorting.sound_start g).run g.ops.size
  unfold sorted at done
  dsimp only at done
  split at done
  · rename_i count
    cases done
    exact ⟨_, rfl, sound.ordered_done count⟩
  · contradiction

/-- Operators can be sorted if there is no way back without end. -/
theorem sorted_of_wellFounded {g : Graph} (grounded : WellFounded g.Feeds) :
    ∃ order, sorted g = .ok (order.filterMap g.ops.find?) ∧ Ordered g order := by
  obtain ⟨sound, ended⟩ := (Sorting.sound_start g).run g.ops.size
  generalize last : Sorting.run g g.ops.size (Sorting.start g) = s at sound ended
  have count : s.done.length = g.ops.size := by
    rcases ended with empty | many
    · have perm : s.done.Perm g.ops.keys := by
        refine (List.perm_ext_iff_of_nodup (List.nodup_append.mp sound.nodup).1
          g.ops.nodup_keys).mpr fun id => ?_
        change _ ↔ id ∈ g.ops.keys
        rw [← Table.contains_iff_mem_keys, Table.contains, Option.isSome_iff_exists]
        constructor
        · intro member
          exact sound.known id (List.mem_append_left _ member)
        · rintro ⟨op, found⟩
          exact sound.complete empty (grounded.apply id) found
      rw [perm.length_eq, Table.length_keys]
    · rw [many]
      exact Nat.zero_add _
  refine ⟨s.done, ?_, sound.ordered_done count⟩
  unfold sorted
  dsimp only
  rw [last, if_pos count]

theorem sorted_eq_ok {g : Graph} {rank : String → Nat}
    (ranked : ∀ id op, g.ops.find? id = some op → ∀ p ∈ producers g op, rank p < rank id) :
    ∃ order, sorted g = .ok (order.filterMap g.ops.find?) ∧ Ordered g order := by
  refine sorted_of_wellFounded (Subrelation.wf ?_ (measure rank).wf)
  intro p id feeds
  obtain ⟨op, found, producer⟩ := feeds_iff.mp feeds
  exact ranked id op found p producer

end Export

end ReductionIR
