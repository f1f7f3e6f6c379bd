import Mathlib.Data.List.Basic
import Mathlib.Data.List.Induction
import ReductionIR.Table
/-
Laws of tables: a look-up tells membership, a new key goes to the end, and what is
written elsewhere stays out of sight.
-/
namespace ReductionIR

namespace Table

variable {κ α : Type} [DecidableEq κ] {table : Table κ α} {key : κ} {value : α}

theorem findEntry_eq_none_iff {entries : List (κ × α)} :
    findEntry key entries = none ↔ key ∉ entries.map Prod.fst := by
  induction entries with
  | nil => simp [findEntry]
  | cons pair rest ih =>
    obtain ⟨k, v⟩ := pair
    by_cases same : k = key
    · simp [findEntry, same]
    · simp [findEntry, same, ih, Ne.symm same]

theorem find?_eq_none_iff : table.find? key = none ↔ key ∉ table.keys :=
  findEntry_eq_none_iff

theorem find?_of_mem (member : (key, value) ∈ table.entries) :
    table.find? key = some value := by
  obtain ⟨entries, nodup⟩ := table
  change findEntry key entries = some value
  change (key, value) ∈ entries at member
  induction entries with
  | nil => simp at member
  | cons pair rest ih =>
    obtain ⟨k, v⟩ := pair
    simp only [List.map_cons, List.nodup_cons] at nodup
    rcases List.mem_cons.mp member with here | later
    · obtain ⟨rfl, rfl⟩ := Prod.mk.injEq .. ▸ here
      simp [findEntry]
    · have other : k ≠ key := by
        intro same
        subst same
        exact nodup.1 (List.mem_map.mpr ⟨_, later, rfl⟩)
      simpa [findEntry, other] using ih nodup.2 later

theorem find?_eq_some_iff : table.find? key = some value ↔ (key, value) ∈ table.entries :=
  ⟨mem_of_find?, find?_of_mem⟩

theorem mem_values_of_find? (found : table.find? key = some value) : value ∈ table.values :=
  List.mem_map.mpr ⟨(key, value), mem_of_find? found, rfl⟩

theorem exists_key_of_mem_values (member : value ∈ table.values) :
    ∃ key, table.find? key = some value := by
  obtain ⟨⟨key, v⟩, entry, rfl⟩ := List.mem_map.mp member
  exact ⟨key, find?_of_mem entry⟩

theorem find?_values (keyOf : α → κ)
    (named : ∀ key value, table.find? key = some value → keyOf value = key) (key : κ) :
    table.values.find? (keyOf · == key) = table.find? key := by
  cases found : table.values.find? (keyOf · == key) with
  | none =>
    cases present : table.find? key with
    | none => rfl
    | some value =>
      have absent := List.find?_eq_none.mp found value (mem_values_of_find? present)
      simp [named key value present] at absent
  | some value =>
    obtain ⟨other, entry⟩ := exists_key_of_mem_values (List.mem_of_find?_eq_some found)
    have same : keyOf value = key := by simpa using List.find?_some found
    rw [← same, named other value entry, entry]

theorem values_map (keyOf : α → κ)
    (named : ∀ key value, table.find? key = some value → keyOf value = key) :
    table.values.map keyOf = table.keys := by
  unfold values keys
  rw [List.map_map]
  refine List.map_congr_left ?_
  rintro ⟨key, value⟩ member
  exact named key value (find?_of_mem member)

theorem contains_eq_false_iff : table.contains key = false ↔ table.find? key = none := by
  simp [contains]

theorem contains_of_find? (found : table.find? key = some value) :
    table.contains key = true := by
  simp [contains, found]

theorem insertEntry_of_absent {entries : List (κ × α)} (absent : key ∉ entries.map Prod.fst) :
    insertEntry key value entries = entries ++ [(key, value)] := by
  induction entries with
  | nil => rfl
  | cons pair rest ih =>
    obtain ⟨k, v⟩ := pair
    simp only [List.map_cons, List.mem_cons, not_or] at absent
    simp [insertEntry, Ne.symm absent.1, ih absent.2]

theorem entries_insert_of_absent (absent : table.find? key = none) :
    (table.insert key value).entries = table.entries ++ [(key, value)] :=
  insertEntry_of_absent (find?_eq_none_iff.mp absent)

theorem find?_insert_of_ne {other : κ} (different : other ≠ key) :
    (table.insert key value).find? other = table.find? other := by
  simp [find?_insert, different]

theorem find?_insertNew (x : κ) :
    (table.insertNew key value).find? x =
      if x = key then some ((table.find? key).getD value) else table.find? x := by
  unfold insertNew
  cases present : table.find? key with
  | none =>
    have absent : table.contains key = false := contains_eq_false_iff.mpr present
    simp [absent, find?_insert]
  | some old =>
    have found : table.contains key = true := contains_of_find? present
    by_cases same : x = key <;> simp [found, same, present]

theorem mem_keys_insertNew (x : κ) :
    x ∈ (table.insertNew key value).keys ↔ x = key ∨ x ∈ table.keys := by
  unfold insertNew
  split
  · rename_i present
    rw [contains_iff_mem_keys] at present
    exact ⟨Or.inr, Or.rec (fun same => same ▸ present) id⟩
  · exact mem_keys_insert ..

theorem find?_map {β : Type} (f : α → β) (table : Table κ α) (key : κ) :
    (table.map f).find? key = (table.find? key).map f := by
  obtain ⟨entries, nodup⟩ := table
  change findEntry key (entries.map fun pair => (pair.1, f pair.2)) = (findEntry key entries).map f
  clear nodup
  induction entries with
  | nil => rfl
  | cons pair rest ih =>
    obtain ⟨k, v⟩ := pair
    by_cases same : k = key
    · simp [findEntry, same]
    · simp [findEntry, same, ih]

omit [DecidableEq κ] in
@[simp] theorem keys_map {β : Type} (f : α → β) (table : Table κ α) :
    (table.map f).keys = table.keys := by
  simp [keys, map]

theorem map_insert {β : Type} (f : α → β) (table : Table κ α) (key : κ) (value : α) :
    (table.insert key value).map f = (table.map f).insert key (f value) := by
  obtain ⟨entries, nodup⟩ := table
  unfold map insert
  simp only [Table.mk.injEq]
  clear nodup
  induction entries with
  | nil => rfl
  | cons pair rest ih =>
    obtain ⟨k, v⟩ := pair
    by_cases same : k = key <;> simp [insertEntry, same, ih]

theorem filterMap_keys : table.keys.filterMap table.find? = table.values := by
  unfold keys values
  rw [List.filterMap_map, ← List.filterMap_eq_map]
  refine List.filterMap_congr ?_
  rintro ⟨key, value⟩ member
  exact find?_of_mem member

/-- The last value that pairs have under a key. -/
def lastValue? (key : κ) (pairs : List (κ × α)) : Option α :=
  ((pairs.filter fun pair => pair.1 = key).map Prod.snd).getLast?

theorem mem_of_lastValue? {pairs : List (κ × α)} (last : lastValue? key pairs = some value) :
    (key, value) ∈ pairs := by
  obtain ⟨⟨k, v⟩, member, rfl⟩ := List.mem_map.mp (List.mem_of_getLast? last)
  obtain ⟨there, same⟩ := List.mem_filter.mp member
  rw [← of_decide_eq_true same]
  exact there

theorem ofList_concat (pairs : List (κ × α)) (pair : κ × α) :
    ofList (pairs ++ [pair]) = (ofList pairs).insert pair.1 pair.2 := List.foldl_append

theorem find?_ofList (pairs : List (κ × α)) (key : κ) :
    (ofList pairs).find? key = lastValue? key pairs := by
  induction pairs using List.reverseRecOn with
  | nil => rfl
  | append_singleton pairs pair ih =>
    rw [ofList_concat, find?_insert, lastValue?, List.filter_append, List.map_append, List.getLast?_append]
    by_cases same : pair.1 = key
    · simp [same]
    · simp [same, Ne.symm same, ih, lastValue?]

theorem ofList_map {β : Type} (f : α → β) (pairs : List (κ × α)) :
    ofList (pairs.map fun pair => (pair.1, f pair.2)) = (ofList pairs).map f := by
  induction pairs using List.reverseRecOn with
  | nil => rfl
  | append_singleton pairs pair ih =>
    rw [List.map_append, List.map_singleton, ofList_concat, ofList_concat, ih, map_insert]

theorem ofList_entries (table : Table κ α) : ofList table.entries = table := by
  obtain ⟨entries, nodup⟩ := table
  have same : (ofList entries).entries = entries := by
    induction entries using List.reverseRecOn with
    | nil => rfl
    | append_singleton pairs pair ih =>
      rw [List.map_append, List.nodup_append] at nodup
      have known := ih nodup.1
      have absent : (ofList pairs).find? pair.1 = none := by
        rw [find?_eq_none_iff, keys, known]
        intro member
        exact nodup.2.2 _ member _ (by simp) rfl
      rw [ofList_concat, entries_insert_of_absent absent, known]
  cases built : ofList entries with
  | mk found _ =>
    rw [built] at same
    subst same
    rfl

omit [DecidableEq κ] in
theorem length_keys : table.keys.length = table.size := by simp [keys, size]

end Table

end ReductionIR
