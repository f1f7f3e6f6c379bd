import ReductionIR.Proofs.Exporting
import ReductionIR.Proofs.Spelling
import ReductionIR.Proofs.Tagging
/-
What stores of attributes answer. A store keeps the tag of the last value of each name, and a read
goes by the kind of that tag alone; so it does not matter whether the values came in plain or as
the attributes of a model. A fallback is no stored value: it takes on the form of the read as far
as it has one.
-/
namespace ReductionIR

open Stepwise

/-! Reads of a tag -/

namespace Accessor

/-- What a read hands out for a tag. Integers pass for numbers, and no other tag passes for
    another one. -/
inductive Yields : Accessor → Attribute → Value → Prop
  | int (n : Int) : Yields .int (.int n) (.int n)
  | float (x : Binary64) : Yields .float (.float x) (.float x)
  | widened {n : Int} {x : Binary64} (near : Binary64.ofInt? n = some x) :
      Yields .float (.int n) (.float x)
  | text (s : String) : Yields .text (.text s) (.text s)
  | ints (ns : List Int) : Yields .ints (.ints ns) (.tuple (ns.map .int))
  | floats (xs : List Binary64) : Yields .floats (.floats xs) (.tuple (xs.map .float))
  | allWidened {ns : List Int} {xs : List Binary64}
      (near : List.Forall₂ (fun n x => Binary64.ofInt? n = some x) ns xs) :
      Yields .floats (.ints ns) (.tuple (xs.map .float))
  | texts (ss : List String) : Yields .texts (.texts ss) (.tuple (ss.map .text))

/-- The form a fallback takes on: as it is for a single integer or text; for a number booleans
    and integers become numbers; for a sequence null stays, and all else is taken apart. -/
inductive Adapts : Accessor → Value → Value → Prop
  | int (v : Value) : Adapts .int v v
  | text (v : Value) : Adapts .text v v
  | bool {b : Bool} {x : Binary64} (near : Binary64.ofInt? (if b then 1 else 0) = some x) :
      Adapts .float (.bool b) (.float x)
  | widened {n : Int} {x : Binary64} (near : Binary64.ofInt? n = some x) :
      Adapts .float (.int n) (.float x)
  | other {v : Value} (noBool : ∀ b, v ≠ .bool b) (noInt : ∀ n, v ≠ .int n) : Adapts .float v v
  | null {accessor : Accessor} (sequence : accessor ∈ [.ints, .floats, .texts]) :
      Adapts accessor .null .null
  | ints {v : Value} {parts : List Value} (apart : items v = .ok parts) :
      Adapts .ints v (.tuple parts)
  | texts {v : Value} {parts : List Value} (apart : items v = .ok parts) :
      Adapts .texts v (.tuple parts)
  | floats {v : Value} {parts numbers : List Value} (apart : items v = .ok parts)
      (each : parts.mapM number = .ok numbers) : Adapts .floats v (.tuple numbers)

variable {accessor : Accessor} {a : Attribute} {v answer : Value}

theorem widened_bool (b : Bool) {x : Binary64} :
    Value.widened (.bool b) = .ok x ↔ Binary64.ofInt? (if b then 1 else 0) = some x := by
  have near : Binary64.ofInt? (if b then 1 else 0) =
      some (Binary64.ofRatio false (if b then 1 else 0) 1) := by cases b <;> rfl
  rw [near, Value.widened, Value.widenedBy, Except.ok.injEq, Option.some.injEq]

theorem widened_int {n : Int} {x : Binary64} :
    Value.widened (.int n) = .ok x ↔ Binary64.ofInt? n = some x := by
  rw [Value.widened, Value.widenedBy]
  cases Binary64.ofInt? n <;> simp

theorem map_float_eq_ok_iff {result : Except Breakdown Binary64} :
    result.map Value.float = .ok answer ↔ ∃ x, result = .ok x ∧ answer = .float x := by
  cases result <;> simp [Except.map, eq_comm]

theorem convert_float_iff : float.convert v = .ok answer ↔ Adapts .float v answer := by
  cases v with
  | bool b =>
    change (Value.widened (.bool b)).map Value.float = _ ↔ _
    rw [map_float_eq_ok_iff]
    constructor
    · rintro ⟨x, near, rfl⟩
      exact .bool ((widened_bool b).mp near)
    · intro adapts
      cases adapts with
      | bool near => exact ⟨_, (widened_bool b).mpr near, rfl⟩
      | other noBool _ => exact absurd rfl (noBool b)
  | int n =>
    change (Value.widened (.int n)).map Value.float = _ ↔ _
    rw [map_float_eq_ok_iff]
    constructor
    · rintro ⟨x, near, rfl⟩
      exact .widened (widened_int.mp near)
    · intro adapts
      cases adapts with
      | widened near => exact ⟨_, widened_int.mpr near, rfl⟩
      | other _ noInt => exact absurd rfl (noInt n)
  | _ =>
    constructor
    · intro done
      cases done
      refine .other ?_ ?_ <;> simp
    · intro adapts
      cases adapts <;> rfl

theorem convert_floats_iff : floats.convert v = .ok answer ↔ Adapts .floats v answer := by
  by_cases null : v = .null
  · subst null
    constructor
    · intro done
      cases done
      exact .null (by decide)
    · intro adapts
      cases adapts with
      | null => rfl
      | floats apart => contradiction
  · have apart : floats.convert v =
        (do return Value.tuple (← (← items v).mapM number) : Except Breakdown Value) := by
      cases v with
      | null => contradiction
      | _ => rfl
    rw [apart, except_bind_eq_ok_iff]
    constructor
    · rintro ⟨parts, apart, done⟩
      obtain ⟨numbers, each, same⟩ := except_bind_eq_ok_iff.mp done
      cases same
      exact .floats apart each
    · intro adapts
      cases adapts with
      | null => contradiction
      | floats apart each =>
        exact ⟨_, apart, except_bind_eq_ok_iff.mpr ⟨_, each, rfl⟩⟩

theorem convert_items_iff (sequence : accessor = ints ∨ accessor = texts) :
    accessor.convert v = .ok answer ↔
      v = .null ∧ answer = .null ∨ ∃ parts, items v = .ok parts ∧ answer = .tuple parts := by
  have unread : items .null = .error .wrongType := rfl
  by_cases null : v = .null
  · subst null
    rcases sequence with rfl | rfl <;> simp [convert, unread, eq_comm]
  · have apart : accessor.convert v = (items v).map .tuple := by
      cases v with
      | null => contradiction
      | _ => rcases sequence with rfl | rfl <;> rfl
    rw [apart]
    cases items v <;> simp [Except.map, null, eq_comm]

/-- A read takes on the form of its fallback exactly. -/
theorem convert_eq_ok_iff : accessor.convert v = .ok answer ↔ accessor.Adapts v answer := by
  cases accessor with
  | float => exact convert_float_iff
  | floats => exact convert_floats_iff
  | int | text =>
    constructor
    · intro done
      cases done
      constructor
    · intro adapts
      cases adapts <;> rfl
  | ints | texts =>
    rw [convert_items_iff (by simp)]
    constructor
    · rintro (⟨rfl, rfl⟩ | ⟨parts, apart, rfl⟩)
      · exact .null (by decide)
      · constructor
        exact apart
    · intro adapts
      cases adapts with
      | null => exact Or.inl ⟨rfl, rfl⟩
      | _ =>
        rename_i parts apart
        exact Or.inr ⟨parts, apart, rfl⟩

theorem kind_of_yields (yields : accessor.Yields a answer) : a.kind ∈ accessor.kinds := by
  cases yields <;> simp [kinds, Attribute.kind]

theorem convert_of_yields (yields : accessor.Yields a answer) :
    accessor.convert a.value = .ok answer := by
  cases yields with
  | int | float | text | ints | texts => rfl
  | widened near => exact convert_eq_ok_iff.mpr (.widened near)
  | floats xs =>
    refine convert_eq_ok_iff.mpr (.floats rfl (except_mapM_eq_ok_iff.mpr ?_))
    rw [List.forall₂_map_left_iff, List.forall₂_map_right_iff, List.forall₂_same]
    exact fun x _ => rfl
  | allWidened near =>
    refine convert_eq_ok_iff.mpr (.floats rfl (except_mapM_eq_ok_iff.mpr ?_))
    rw [List.forall₂_map_left_iff, List.forall₂_map_right_iff]
    refine near.imp ?_
    intro n x near
    exact map_float_eq_ok_iff.mpr ⟨x, widened_int.mpr near, rfl⟩

theorem exists_yields (small : v.HasSmallIntegers) (tags : Attribute.Tags v a)
    (accepted : a.kind ∈ accessor.kinds) : ∃ answer, accessor.Yields a answer := by
  cases accessor <;> cases a <;> simp [kinds, Attribute.kind] at accepted
  case int.int n => exact ⟨_, .int n⟩
  case float.float x => exact ⟨_, .float x⟩
  case float.int n =>
    obtain ⟨x, near⟩ := Binary64.exists_ofInt? (tags.fits_of_int small)
    exact ⟨_, .widened near⟩
  case text.text s => exact ⟨_, .text s⟩
  case ints.ints ns => exact ⟨_, .ints ns⟩
  case floats.floats xs => exact ⟨_, .floats xs⟩
  case floats.ints ns =>
    obtain ⟨xs, near⟩ :=
      exists_forall₂ fun n member => Binary64.exists_ofInt? (tags.fits_of_ints small n member)
    exact ⟨_, .allWidened near⟩
  case texts.texts ss => exact ⟨_, .texts ss⟩

end Accessor

namespace AttributeStore

variable {store : AttributeStore} {accessor : Accessor} {name : String} {a : Attribute}
  {fallback : Option Value} {answer : Value}

theorem read_of_yields (found : store.find? name = some a) (yields : accessor.Yields a answer) :
    store.read accessor name fallback = .ok answer := by
  unfold read typed
  rw [found]
  dsimp only
  rw [if_pos (Accessor.kind_of_yields yields)]
  change Fault.lift (accessor.convert a.value) = _
  rw [Accessor.convert_of_yields yields]
  rfl

theorem read_of_other_kind (found : store.find? name = some a) (other : a.kind ∉ accessor.kinds) :
    store.read accessor name fallback = .error (.lookup (.mismatch name a.kind accessor.kinds)) := by
  unfold read typed
  rw [found]
  dsimp only
  rw [if_neg other]
  rfl

theorem read_of_absent (absent : store.find? name = none) :
    store.read accessor name none = .error (.lookup (.missing name)) := by
  unfold read typed
  rw [absent]
  rfl

theorem read_fallback (absent : store.find? name = none) (v : Value) :
    store.read accessor name (some v) = Fault.lift (accessor.convert v) := by
  unfold read typed
  rw [absent]
  rfl

theorem int_eq_ok_iff {n least : Int} :
    store.int name n = .ok least ↔ store.read .int name (some (.int n)) = .ok (.int least) := by
  unfold int
  cases found : store.find? name with
  | none => simp [read_fallback found, Accessor.convert, Fault.lift, Except.mapError]
  | some a =>
    cases a with
    | int m => simp [read_of_yields found (.int m)]
    | _ =>
      have refused : store.read .int name (some (.int n)) = .error _ :=
        read_of_other_kind found (by simp [Attribute.kind, Accessor.kinds])
      simp [refused]

theorem ints?_eq_some_iff {ns : List Int} :
    store.ints? name = .ok (some ns) ↔ store.read .ints name none = .ok (.tuple (ns.map .int)) := by
  unfold ints?
  cases found : store.find? name with
  | none => simp [read_of_absent found]
  | some a =>
    cases a with
    | ints ms =>
      have injective : Function.Injective Value.int := fun _ _ same => Value.int.inj same
      simp [read_of_yields found (.ints ms), (List.map_injective_iff.mpr injective).eq_iff]
    | _ =>
      have refused : store.read .ints name none = .error _ :=
        read_of_other_kind found (by simp [Attribute.kind, Accessor.kinds])
      simp [refused]

end AttributeStore

/-! Stores -/

/-- The tag of a value that has one. -/
def Attribute.tagOf (v : Value) : Attribute := (ofValue v).toOption.getD (.int 0)

theorem Attribute.Tags.tagOf_eq {v : Value} {a : Attribute} (tags : Tags v a) : tagOf v = a := by
  rw [tagOf, ofValue_eq_ok_iff.mpr tags]
  rfl

/-- The data of an attribute of a model that has the kind and the value of a tag. -/
def Attribute.payload : Attribute → Model.AttributeData
  | int n => .int n
  | float x => .float x
  | text s => .text s.toUTF8.toList
  | ints ns => .ints ns
  | floats xs => .floats xs
  | texts ss => .texts (ss.map fun s => s.toUTF8.toList)

theorem Attribute.tagged_payload (a : Attribute) : a.payload.tagged = .ok (some a) := by
  cases a with
  | text s =>
    rw [payload, Model.AttributeData.tagged, Model.decodeText_bytes]
    rfl
  | texts ss =>
    have decoded : (ss.map fun s => s.toUTF8.toList).mapM Model.decodeText = .ok ss := by
      rw [except_mapM_eq_ok_iff, List.forall₂_map_left_iff, List.forall₂_same]
      exact fun s _ => Model.decodeText_bytes s
    rw [payload, Model.AttributeData.tagged, decoded]
    rfl
  | _ => rfl

/-- Is data of a kind that stores hold? -/
def Model.AttributeData.isHeld : AttributeData → Bool
  | other _ => false
  | _ => true

/-- Attributes of a model hold named values, in order, beside attributes of other kinds. -/
def Model.Hold (attributes : List Model.Attribute) (pairs : Fields) : Prop :=
  List.Forall₂ (fun pair held => held.name = pair.1 ∧
      ∃ a, ReductionIR.Attribute.Tags pair.2 a ∧ held.data = a.payload)
    pairs (attributes.filter fun attr => attr.data.isHeld)

namespace AttributeStore

variable {pairs : Fields} {store : AttributeStore}

/-- A store can be made when the last value of each name has a tag, and keeps that tag. -/
theorem ofPairs_eq_ok_iff : ofPairs pairs = .ok store ↔
    (∀ name v, Table.lastValue? name pairs = some v → ∃ a, Attribute.Tags v a) ∧
      store = (Table.ofList pairs).map Attribute.tagOf := by
  unfold ofPairs
  rw [except_bind_eq_ok_iff]
  have last (name : String) (v : Value) : (name, v) ∈ (Table.ofList pairs).entries ↔
      Table.lastValue? name pairs = some v := by
    rw [← Table.find?_eq_some_iff, Table.find?_ofList]
  have kept (each : ∀ name v, Table.lastValue? name pairs = some v → ∃ a, Attribute.Tags v a) :
      (Table.ofList pairs).entries.mapM (fun f => do return (f.1, ← Attribute.ofValue f.2)) =
        .ok ((Table.ofList pairs).map Attribute.tagOf).entries := by
    refine except_mapM_eq_ok ?_
    rintro ⟨name, v⟩ member
    obtain ⟨a, tags⟩ := each name v ((last name v).mp member)
    rw [Attribute.ofValue_eq_ok_iff.mpr tags, tags.tagOf_eq]
    rfl
  constructor
  · rintro ⟨tagged, done, same⟩
    -- the traversal only sees the last value of each name
    have each : ∀ name v, Table.lastValue? name pairs = some v → ∃ a, Attribute.Tags v a := by
      intro name v found
      obtain ⟨_, _, one⟩ :=
        exists_of_forall₂ (except_mapM_eq_ok_iff.mp done) ((last name v).mpr found)
      obtain ⟨a, tags, _⟩ := except_bind_eq_ok_iff.mp one
      exact ⟨a, Attribute.ofValue_eq_ok_iff.mp tags⟩
    cases done.symm.trans (kept each)
    cases same
    exact ⟨each, Table.ofList_entries _⟩
  · rintro ⟨each, rfl⟩
    exact ⟨_, kept each, congrArg Except.ok (Table.ofList_entries _)⟩

theorem find?_of_ofPairs (done : ofPairs pairs = .ok store) (name : String) :
    store.find? name = (Table.lastValue? name pairs).map Attribute.tagOf := by
  obtain ⟨_, rfl⟩ := ofPairs_eq_ok_iff.mp done
  rw [Table.find?_map, Table.find?_ofList]

/-- Attributes of other kinds are passed over, and the others give their tags in order. -/
theorem tagged_of_hold {attributes : List Model.Attribute} (hold : Model.Hold attributes pairs) :
    ∃ tagged, attributes.mapM (fun a => do return (← a.data.tagged).map (a.name, ·)) = .ok tagged ∧
      tagged.filterMap id = pairs.map fun pair => (pair.1, Attribute.tagOf pair.2) := by
  unfold Model.Hold at hold
  induction attributes generalizing pairs with
  | nil =>
    cases hold
    exact ⟨[], rfl, rfl⟩
  | cons first rest ih =>
    cases held : first.data.isHeld with
    | false =>
      rw [List.filter_cons_of_neg (by simp [held])] at hold
      obtain ⟨tagged, done, kept⟩ := ih hold
      have passed : first.data.tagged = .ok none := by
        cases data : first.data with
        | other kind => rfl
        | _ =>
          rw [data] at held
          contradiction
      refine ⟨none :: tagged, ?_, kept⟩
      rw [List.mapM_cons, passed, done]
      rfl
    | true =>
      rw [List.filter_cons_of_pos (by exact held)] at hold
      -- a kept attribute uses up the first pair
      cases hold with
      | @cons pair _ pairs _ here later =>
        obtain ⟨tagged, done, kept⟩ := ih later
        obtain ⟨named, a, tags, data⟩ := here
        refine ⟨some (pair.1, a) :: tagged, ?_, ?_⟩
        · rw [List.mapM_cons, data, a.tagged_payload, named, done]
          rfl
        · rw [List.map_cons, tags.tagOf_eq, ← kept]
          rfl

theorem storeOf_of_hold {attributes : List Model.Attribute} (hold : Model.Hold attributes pairs) :
    Model.storeOf attributes = .ok ((Table.ofList pairs).map Attribute.tagOf) := by
  obtain ⟨tagged, done, kept⟩ := tagged_of_hold hold
  unfold Model.storeOf
  rw [done]
  change Except.ok (Table.ofList (tagged.filterMap id)) = _
  rw [kept, Table.ofList_map]

/-- The reads of a store that was made of pairs, of which the last one of a name counts. -/
structure Answers (store : AttributeStore) (pairs : Fields) : Prop where
  stored : ∀ accessor name fallback v, Table.lastValue? name pairs = some v →
    ∃ a, Attribute.Tags v a ∧
      ((∃ answer, accessor.Yields a answer ∧ store.read accessor name fallback = .ok answer) ∨
        (∀ answer, ¬ accessor.Yields a answer) ∧ store.read accessor name fallback =
          .error (.lookup (.mismatch name a.kind accessor.kinds)))
  missing : ∀ accessor name, Table.lastValue? name pairs = none →
    store.read accessor name none = .error (.lookup (.missing name))
  fallback : ∀ accessor name v, Table.lastValue? name pairs = none →
    (∀ answer, store.read accessor name (some v) = .ok answer ↔ accessor.Adapts v answer) ∧
    ((∀ answer, ¬ accessor.Adapts v answer) →
      ∃ failure, store.read accessor name (some v) = .error (.bare failure))

theorem answers_of_ofPairs (small : ∀ pair ∈ pairs, pair.2.HasSmallIntegers)
    (done : ofPairs pairs = .ok store) : store.Answers pairs where
  stored := by
    intro accessor name fallback v last
    obtain ⟨a, tags⟩ := (ofPairs_eq_ok_iff.mp done).1 name v last
    have found : store.find? name = some a := by
      rw [find?_of_ofPairs done, last, Option.map_some, tags.tagOf_eq]
    refine ⟨a, tags, ?_⟩
    -- the kind of the tag alone decides whether it is handed out
    by_cases accepted : a.kind ∈ accessor.kinds
    · obtain ⟨answer, yields⟩ :=
        Accessor.exists_yields (small _ (Table.mem_of_lastValue? last)) tags accepted
      exact Or.inl ⟨answer, yields, read_of_yields found yields⟩
    · refine Or.inr ⟨?_, read_of_other_kind found accepted⟩
      exact fun answer yields => accepted (Accessor.kind_of_yields yields)
  missing := by
    intro accessor name last
    exact read_of_absent (by rw [find?_of_ofPairs done, last, Option.map_none])
  fallback := by
    intro accessor name v last
    have absent : store.find? name = none := by
      rw [find?_of_ofPairs done, last, Option.map_none]
    rw [read_fallback absent]
    simp only [← Accessor.convert_eq_ok_iff]
    cases accessor.convert v with
    | ok answer => simp [Fault.lift, Except.mapError]
    | error failure => simp [Fault.lift, Except.mapError]

end AttributeStore

/-- No tag is read both as a scalar and as a sequence. -/
theorem Accessor.not_yields_both {a : Attribute} {scalar sequence : Accessor} {x y : Value}
    (isScalar : scalar ∈ [.int, .float, .text]) (isSequence : sequence ∈ [.ints, .floats, .texts])
    (first : scalar.Yields a x) : ¬ sequence.Yields a y := by
  intro second
  cases first <;> cases second <;> simp at isScalar isSequence

/-- A store can be made of plain values just when the last one of each name is a scalar or a
    sequence of one sort of scalars; tags are stable; a read answers by the kind of the tag, with
    no tag for both a scalar and a sequence; and attributes of a model that hold the values make
    the same store. -/
theorem attributes_answer_by_kind (pairs : Fields)
    (small : ∀ pair ∈ pairs, pair.2.HasSmallIntegers) :
    ((∃ store, AttributeStore.ofPairs pairs = .ok store) ↔
      ∀ name v, Table.lastValue? name pairs = some v → v.IsStorable) ∧
    (∀ v a, Attribute.ofValue v = .ok a ↔ Attribute.Tags v a) ∧
    (∀ v a, Attribute.ofValue v = .ok a → Attribute.ofValue a.value = .ok a) ∧
    (∀ store, AttributeStore.ofPairs pairs = .ok store → store.Answers pairs) ∧
    (∀ (a : Attribute) (scalar sequence : Accessor) x y, scalar ∈ [.int, .float, .text] →
      sequence ∈ [.ints, .floats, .texts] → scalar.Yields a x → ¬ sequence.Yields a y) ∧
    ∀ attributes, Model.Hold attributes pairs → ∃ store,
      AttributeStore.ofPairs pairs = .ok store ∧ Model.storeOf attributes = .ok store := by
  refine ⟨?_, fun _ _ => Attribute.ofValue_eq_ok_iff, ?_, ?_, ?_, ?_⟩
  · simp only [AttributeStore.ofPairs_eq_ok_iff, exists_and_left, exists_eq, and_true]
    have tagged (name : String) (v : Value) (last : Table.lastValue? name pairs = some v) :
        (∃ a, Attribute.Tags v a) ↔ v.IsStorable :=
      Value.exists_tags_iff (small _ (Table.mem_of_lastValue? last))
    constructor
    · exact fun each name v last => (tagged name v last).mp (each name v last)
    · exact fun each name v last => (tagged name v last).mpr (each name v last)
  · intro v a tagged
    exact Attribute.ofValue_eq_ok_iff.mpr (Attribute.ofValue_eq_ok_iff.mp tagged).again
  · intro store done
    exact AttributeStore.answers_of_ofPairs small done
  · intro a scalar sequence x y isScalar isSequence first
    exact Accessor.not_yields_both isScalar isSequence first
  · intro attributes hold
    refine ⟨_, AttributeStore.ofPairs_eq_ok_iff.mpr ⟨?_, rfl⟩, AttributeStore.storeOf_of_hold hold⟩
    intro name v last
    obtain ⟨_, _, _, a, tags, _⟩ := exists_of_forall₂ hold (Table.mem_of_lastValue? last)
    exact ⟨a, tags⟩

/-- A text in the place of a sequence of texts is not handed out, but its characters are. -/
theorem fallback_is_taken_apart : ∃ store, AttributeStore.ofPairs [] = .ok store ∧
    store.find? "tags" = none ∧
    store.read .texts "tags" (some (.text "ab")) = .ok (.tuple [.text "a", .text "b"]) ∧
    store.read .texts "tags" (some (.text "ab")) ≠ .ok (.text "ab") := by
  have apart : (∅ : AttributeStore).read .texts "tags" (some (.text "ab")) =
      .ok (.tuple [.text "a", .text "b"]) := rfl
  refine ⟨∅, rfl, rfl, apart, ?_⟩
  rw [apart]
  simp

/-- One half. -/
def half : Binary64 := .ofRatio false 1 2

/-- Two names with a sequence, of which the first has a scalar before it. -/
def axesAndScales : Fields :=
  [("axes", .int 1), ("scales", .list [.float half, .int 2]), ("axes", .tuple [.int 0, .int 2]),
    ("mode", .text "max")]

/-- The same as attributes of a model, beside a tensor. -/
def axesAndScalesHeld : List Model.Attribute :=
  [{ name := "axes", data := .int 1 }, { name := "value", data := .other "TENSOR" },
    { name := "scales", data := .floats [half, .ofRatio false 2 1] },
    { name := "axes", data := .ints [0, 2] }, { name := "mode", data := .text "max".toUTF8.toList }]

theorem axes_and_scales_are_read : ∃ store,
    AttributeStore.ofPairs axesAndScales = .ok store ∧ Model.storeOf axesAndScalesHeld = .ok store ∧
    store.read .ints "axes" (some .null) = .ok (.tuple [.int 0, .int 2]) ∧
    store.read .int "axes" (some (.int 7)) =
      .error (.lookup (.mismatch "axes" .ints [.int])) ∧
    store.read .ints "keepdims" none = .error (.lookup (.missing "keepdims")) := by
  have small : ∀ pair ∈ axesAndScales, pair.2.HasSmallIntegers := by
    simp [axesAndScales, Value.HasSmallIntegers, Value.IsSmall, Value.sequence?, fitsInt64]
  have axes : Attribute.Tags (.tuple [.int 0, .int 2]) (.ints [0, 2]) := .ints rfl
  have hold : Model.Hold axesAndScalesHeld axesAndScales :=
    .cons ⟨rfl, _, .int 1, rfl⟩
      (.cons ⟨rfl, _, .floats rfl (.cons (.float half) (.cons (.int rfl) .nil))
          (List.mem_cons_self ..), rfl⟩
        (.cons ⟨rfl, _, axes, rfl⟩ (.cons ⟨rfl, _, .text "max", rfl⟩ .nil)))
  obtain ⟨_, _, _, reads, _, held⟩ := attributes_answer_by_kind axesAndScales small
  obtain ⟨store, made, same⟩ := held axesAndScalesHeld hold
  have last : Table.lastValue? "axes" axesAndScales = some (.tuple [.int 0, .int 2]) := rfl
  refine ⟨store, made, same, ?_, ?_, (reads store made).missing .ints "keepdims" rfl⟩
  · obtain ⟨a, tags, ⟨answer, yields, read⟩ | ⟨other, _⟩⟩ :=
      (reads store made).stored .ints "axes" (some .null) _ last
    · cases tags.unique axes
      cases yields
      exact read
    · cases tags.unique axes
      exact absurd (.ints _) (other _)
  · obtain ⟨a, tags, ⟨answer, yields, _⟩ | ⟨_, read⟩⟩ :=
      (reads store made).stored .int "axes" (some (.int 7)) _ last
    · cases tags.unique axes
      cases yields
    · cases tags.unique axes
      exact read

end ReductionIR
