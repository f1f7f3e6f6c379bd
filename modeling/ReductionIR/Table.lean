/-
Finite maps that remember the order in which their keys first came in. Writing a
present key replaces its value and keeps its place; a new key goes to the end.
-/
namespace ReductionIR

/-- A key-value list without repeated keys, oldest key first. -/
structure Table (κ : Type) (α : Type) where
  entries : List (κ × α)
  nodup_keys : (entries.map Prod.fst).Nodup

namespace Table

variable {κ α β : Type}

/-- Replace the value of a present key, or add the pair at the end. -/
def insertEntry [DecidableEq κ] (key : κ) (value : α) : List (κ × α) → List (κ × α)
  | [] => [(key, value)]
  | (k, v) :: rest =>
    if k = key then (k, value) :: rest else (k, v) :: insertEntry key value rest

/-- The value of the first pair with this key. -/
def findEntry [DecidableEq κ] (key : κ) : List (κ × α) → Option α
  | [] => none
  | (k, v) :: rest => if k = key then some v else findEntry key rest

theorem mem_keys_insertEntry [DecidableEq κ] {key x : κ} {value : α} {entries : List (κ × α)} :
    x ∈ (insertEntry key value entries).map Prod.fst ↔ x = key ∨ x ∈ entries.map Prod.fst := by
  induction entries with
  | nil => simp [insertEntry]
  | cons pair rest ih =>
    obtain ⟨k, v⟩ := pair
    by_cases same : k = key
    · subst same
      simp [insertEntry]
    · simp only [insertEntry, same, ↓reduceIte, List.map_cons, List.mem_cons, ih]
      grind

theorem nodup_insertEntry [DecidableEq κ] {key : κ} {value : α} {entries : List (κ × α)}
    (nodup : (entries.map Prod.fst).Nodup) :
    ((insertEntry key value entries).map Prod.fst).Nodup := by
  induction entries with
  | nil => simp [insertEntry]
  | cons pair rest ih =>
    obtain ⟨k, v⟩ := pair
    simp only [List.map_cons, List.nodup_cons] at nodup
    by_cases same : k = key
    · subst same
      simpa [insertEntry] using nodup
    · simp only [insertEntry, same, ↓reduceIte, List.map_cons, List.nodup_cons]
      exact ⟨fun member => (mem_keys_insertEntry.mp member).elim same nodup.1, ih nodup.2⟩

theorem findEntry_insertEntry [DecidableEq κ] {key x : κ} {value : α} {entries : List (κ × α)} :
    findEntry x (insertEntry key value entries) =
      if x = key then some value else findEntry x entries := by
  induction entries with
  | nil =>
    by_cases same : key = x <;> simp [insertEntry, findEntry, same, eq_comm]
  | cons pair rest ih =>
    obtain ⟨k, v⟩ := pair
    by_cases same : k = key <;> by_cases here : k = x <;>
      grind [insertEntry, findEntry]

theorem mem_of_findEntry [DecidableEq κ] {key : κ} {value : α} {entries : List (κ × α)}
    (found : findEntry key entries = some value) : (key, value) ∈ entries := by
  induction entries with
  | nil => simp [findEntry] at found
  | cons pair rest ih =>
    obtain ⟨k, v⟩ := pair
    by_cases same : k = key <;> grind [findEntry]

def empty : Table κ α := ⟨[], by simp⟩

instance : EmptyCollection (Table κ α) := ⟨empty⟩
instance : Inhabited (Table κ α) := ⟨empty⟩

def find? [DecidableEq κ] (table : Table κ α) (key : κ) : Option α :=
  findEntry key table.entries

def contains [DecidableEq κ] (table : Table κ α) (key : κ) : Bool :=
  (table.find? key).isSome

def insert [DecidableEq κ] (table : Table κ α) (key : κ) (value : α) : Table κ α :=
  ⟨insertEntry key value table.entries, nodup_insertEntry table.nodup_keys⟩

/-- Keep what a present key holds, and add an absent key. -/
def insertNew [DecidableEq κ] (table : Table κ α) (key : κ) (value : α) : Table κ α :=
  if table.contains key then table else table.insert key value

/-- Later pairs overwrite earlier ones and keep the earlier place. -/
def ofList [DecidableEq κ] (pairs : List (κ × α)) : Table κ α :=
  pairs.foldl (fun table pair => table.insert pair.1 pair.2) empty

def keys (table : Table κ α) : List κ := table.entries.map Prod.fst

def values (table : Table κ α) : List α := table.entries.map Prod.snd

def size (table : Table κ α) : Nat := table.entries.length

def map (f : α → β) (table : Table κ α) : Table κ β :=
  ⟨table.entries.map fun pair => (pair.1, f pair.2), by
    simpa [List.map_map, Function.comp_def] using table.nodup_keys⟩

@[simp] theorem find?_empty [DecidableEq κ] (key : κ) :
    (empty : Table κ α).find? key = none := rfl

theorem find?_insert [DecidableEq κ] (table : Table κ α) (key x : κ) (value : α) :
    (table.insert key value).find? x = if x = key then some value else table.find? x :=
  findEntry_insertEntry

/-- What holds of all entries and of a new one holds once it is in. -/
theorem forall_find?_insert [DecidableEq κ] {table : Table κ α} {key : κ} {value : α}
    {P : κ → α → Prop} (known : ∀ x v, table.find? x = some v → P x v) (new : P key value) (x : κ)
    (v : α) (found : (table.insert key value).find? x = some v) : P x v := by
  rw [find?_insert] at found
  split at found
  · rename_i same
    exact same ▸ Option.some.inj found ▸ new
  · exact known x v found

@[simp] theorem find?_insert_self [DecidableEq κ] (table : Table κ α) (key : κ) (value : α) :
    (table.insert key value).find? key = some value := by simp [find?_insert]

theorem mem_keys_insert [DecidableEq κ] (table : Table κ α) (key x : κ) (value : α) :
    x ∈ (table.insert key value).keys ↔ x = key ∨ x ∈ table.keys :=
  mem_keys_insertEntry

theorem mem_of_find? [DecidableEq κ] {table : Table κ α} {key : κ} {value : α}
    (found : table.find? key = some value) : (key, value) ∈ table.entries :=
  mem_of_findEntry found

theorem contains_iff_mem_keys [DecidableEq κ] (table : Table κ α) (key : κ) :
    table.contains key = true ↔ key ∈ table.keys := by
  have go (entries : List (κ × α)) :
      (findEntry key entries).isSome = true ↔ key ∈ entries.map Prod.fst := by
    induction entries with
    | nil => simp [findEntry]
    | cons pair rest ih =>
      obtain ⟨k, v⟩ := pair
      by_cases same : k = key
      · simp [findEntry, same]
      · simp [findEntry, same, ih, Ne.symm same]
  exact go table.entries

end Table

end ReductionIR
