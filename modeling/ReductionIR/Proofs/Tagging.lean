import Mathlib
import ReductionIR.Proofs.Evaluation
import ReductionIR.Proofs.Reasons
/-
Values and their tags. A plain value has at most one tag, which the relation `Attribute.Tags`
gives by the form of the value, and the value of a tag is tagged the same way again. Numbers of 64
bits are never too large for a tag.
-/
namespace ReductionIR

/-! Integers as numbers -/

theorem bitLength_le {n bits : Nat} (below : n < 2 ^ bits) : bitLength n ≤ bits := by
  unfold bitLength
  split
  · exact Nat.zero_le bits
  · rename_i nonzero
    exact (Nat.log2_lt nonzero).mpr below

theorem roundHalfEven_le (num den : Nat) : roundHalfEven num den ≤ num / den + 1 := by
  unfold roundHalfEven
  dsimp only
  split
  · omega
  · split
    · omega
    · split <;> omega

theorem scaleDown_le {n : Nat} {step : Int} (small : n ≤ 2 ^ 63) (bound : -54 ≤ step) :
    (scaleDown n 1 step).1 / (scaleDown n 1 step).2 ≤ 2 ^ 117 := by
  unfold scaleDown
  split
  · exact (Nat.div_le_self n _).trans (by omega)
  · dsimp only
    rw [Nat.div_one]
    calc n * Nat.pow 2 (-step).toNat
        ≤ 2 ^ 63 * 2 ^ 54 := Nat.mul_le_mul small (Nat.pow_le_pow_right (by decide) (by omega))
      _ = 2 ^ 117 := by decide

/-- Up to 64 bits, magnitudes are far below the largest number. -/
theorem BinaryLayout.exists_nearest {n : Nat} (small : n ≤ 2 ^ 63) :
    ∃ m e, binary64.nearest n 1 = some (m, e) := by
  have bits : bitLength n ≤ 64 := bitLength_le (by omega)
  have exponents : -54 ≤ binary64.lastBit n 1 ∧ binary64.lastBit n 1 ≤ 11 := by
    unfold lastBit
    dsimp only
    split <;> simp only [binary64, show bitLength 1 = 1 from rfl] <;> omega
  unfold nearest
  dsimp only
  generalize lastBit binary64 n 1 = e at exponents
  have quotient := scaleDown_le small exponents.1
  have rounded := roundHalfEven_le (scaleDown n 1 e).1 (scaleDown n 1 e).2
  have length : bitLength (roundHalfEven (scaleDown n 1 e).1 (scaleDown n 1 e).2) ≤ 118 :=
    bitLength_le (by omega)
  have inside : e + bitLength (roundHalfEven (scaleDown n 1 e).1 (scaleDown n 1 e).2) ≤
      binary64.maxExp := by
    change _ ≤ (1024 : Int)
    omega
  exact ⟨_, _, if_pos inside⟩

theorem Binary64.exists_ofInt? {n : Int} (fits : fitsInt64 n = true) :
    ∃ x, ofInt? n = some x := by
  have bounds := of_decide_eq_true fits
  obtain ⟨m, e, near⟩ := BinaryLayout.exists_nearest (n := n.natAbs) (by omega)
  exact ⟨_, by rw [ofInt?, near]⟩

/-! Sequences -/

namespace Value

/-- The items of a list or a tuple. -/
def sequence? : Value → Option (List Value)
  | list items | tuple items => some items
  | _ => none

/-- The number that an integer or a number becomes; a boolean is neither. -/
inductive Widens : Value → Binary64 → Prop
  | int {n : Int} {x : Binary64} (near : Binary64.ofInt? n = some x) : Widens (int n) x
  | float (x : Binary64) : Widens (float x) x

end Value

theorem mapM_eq_some_iff_map {β γ : Type} {f : β → Option γ} {h : γ → β}
    (inverse : ∀ b c, f b = some c ↔ b = h c) {bs : List β} {cs : List γ} :
    bs.mapM f = some cs ↔ bs = cs.map h := by
  rw [mapM_eq_some_iff]
  simp only [inverse]
  rw [← List.forall₂_map_right_iff, List.forall₂_eq_eq_eq]

namespace Attribute

theorem mapM_textItem?_iff {items : List Value} {ss : List String} :
    items.mapM textItem? = some ss ↔ items = ss.map .text := by
  refine mapM_eq_some_iff_map ?_
  intro v s
  cases v <;> simp [textItem?]

theorem mapM_intItem?_iff {items : List Value} {ns : List Int} :
    items.mapM intItem? = some ns ↔ items = ns.map .int := by
  refine mapM_eq_some_iff_map ?_
  intro v n
  cases v <;> simp [intItem?]

theorem numberItem?_iff {v : Value} {x : Binary64} :
    numberItem? v = some (some x) ↔ v.Widens x := by
  constructor
  · intro read
    cases v with
    | int n => exact .int (Option.some.inj read)
    | float y =>
      cases read
      exact .float x
    | _ => contradiction
  · intro widens
    cases widens with
    | int near => rw [numberItem?, near]
    | float _ => rfl

theorem mapM_numberItem?_iff {items : List Value} {xs : List Binary64} :
    items.mapM numberItem? = some (xs.map some) ↔ List.Forall₂ Value.Widens items xs := by
  rw [mapM_eq_some_iff, List.forall₂_map_right_iff]
  simp only [numberItem?_iff]

/-- Tags of plain values: by the form of a scalar, and by that of all items of a sequence. The
    empty sequence counts as integers, and integers among numbers become numbers. -/
inductive Tags : Value → Attribute → Prop
  | bool (b : Bool) : Tags (.bool b) (int (if b then 1 else 0))
  | int (n : Int) : Tags (.int n) (int n)
  | float (x : Binary64) : Tags (.float x) (float x)
  | text (s : String) : Tags (.text s) (text s)
  | texts {v : Value} {s : String} {ss : List String}
      (all : v.sequence? = some ((s :: ss).map .text)) : Tags v (texts (s :: ss))
  | ints {v : Value} {ns : List Int} (all : v.sequence? = some (ns.map .int)) : Tags v (ints ns)
  | floats {v : Value} {items : List Value} {xs : List Binary64} {x : Binary64}
      (items_eq : v.sequence? = some items) (all : List.Forall₂ Value.Widens items xs)
      (mixed : .float x ∈ items) : Tags v (floats xs)

theorem exists_float {items : List Value} {xs : List Binary64}
    (all : List.Forall₂ Value.Widens items xs) (mixed : ∀ ns : List Int, items ≠ ns.map .int) :
    ∃ x, .float x ∈ items := by
  induction all with
  | nil => exact absurd rfl (mixed [])
  | @cons item x rest xs here _ ih =>
    cases here with
    | float _ => exact ⟨x, List.mem_cons_self ..⟩
    | @int n _ _ =>
      obtain ⟨y, member⟩ := ih fun ns same => mixed (n :: ns) (by rw [same, List.map_cons])
      exact ⟨y, List.mem_cons_of_mem _ member⟩

theorem tags_of_ofItems {v whole : Value} {items : List Value} {a : Attribute}
    (items_eq : v.sequence? = some items) (tagged : ofItems whole items = .ok a) : Tags v a := by
  unfold ofItems at tagged
  split at tagged
  · rename_i s ss read
    cases tagged
    exact .texts (by rw [items_eq, mapM_textItem?_iff.mp read])
  · rename_i ns read _
    cases tagged
    exact .ints (by rw [items_eq, mapM_intItem?_iff.mp read])
  · rename_i xs read _ mixed
    split at tagged
    · rename_i ys finite
      cases tagged
      obtain rfl : xs = ys.map some := (mapM_eq_some_iff_map fun _ _ => Iff.rfl).mp finite
      have all := mapM_numberItem?_iff.mp read
      obtain ⟨x, member⟩ := exists_float all fun ns same => mixed ns (mapM_intItem?_iff.mpr same)
      exact .floats items_eq all member
    · cases tagged
  · cases tagged

theorem mapM_eq_none_of_mem {β γ : Type} {f : β → Option γ} {b : β} {bs : List β} (member : b ∈ bs)
    (unread : f b = none) : bs.mapM f = none := by
  cases read : bs.mapM f with
  | none => rfl
  | some cs =>
    obtain ⟨c, _, here⟩ := exists_of_forall₂ (mapM_eq_some_iff.mp read) member
    cases unread.symm.trans here

/-- The three readings of a sequence exclude one another, but for the empty sequence. -/
theorem ofItems_of_tags {v whole : Value} {items : List Value} {a : Attribute}
    (items_eq : v.sequence? = some items) (tags : Tags v a) : ofItems whole items = .ok a := by
  cases tags with
  | texts all =>
    cases items_eq.symm.trans all
    rw [ofItems, mapM_textItem?_iff.mpr rfl]
  | @ints _ ns all =>
    cases items_eq.symm.trans all
    rw [ofItems, mapM_intItem?_iff.mpr rfl]
    cases ns with
    -- the empty sequence can be read as texts too, but that reading passes it on
    | nil => rfl
    | cons n ns =>
      have unread : ((n :: ns).map Value.int).mapM textItem? = none :=
        mapM_eq_none_of_mem (List.mem_cons_self ..) rfl
      rw [unread]
  | floats all_eq all mixed =>
    cases items_eq.symm.trans all_eq
    rw [ofItems, mapM_eq_none_of_mem (f := textItem?) mixed rfl,
      mapM_eq_none_of_mem (f := intItem?) mixed rfl, mapM_numberItem?_iff.mpr all]
    have finite : ∀ xs : List Binary64, (xs.map some).mapM id = some xs :=
      fun _ => (mapM_eq_some_iff_map fun _ _ => Iff.rfl).mpr rfl
    simp only [finite]
  | bool | int | float | text => contradiction

theorem ofValue_eq_ok_iff {v : Value} {a : Attribute} : ofValue v = .ok a ↔ Tags v a := by
  constructor
  · intro tagged
    cases v with
    | bool b => cases tagged; exact .bool b
    | int n => cases tagged; exact .int n
    | float x => cases tagged; exact .float x
    | text s => cases tagged; exact .text s
    | list items => exact tags_of_ofItems rfl tagged
    | tuple items => exact tags_of_ofItems rfl tagged
    | _ => contradiction
  · intro tags
    cases v with
    | list items => exact ofItems_of_tags rfl tags
    | tuple items => exact ofItems_of_tags rfl tags
    | bool | int | float | text =>
      cases tags with
      | texts all => contradiction
      | ints all => contradiction
      | floats all => contradiction
      | _ => rfl
    | _ =>
      cases tags <;> contradiction

theorem Tags.unique {v : Value} {a b : Attribute} (first : Tags v a) (second : Tags v b) : a = b :=
  Except.ok.inj ((ofValue_eq_ok_iff.mpr first).symm.trans (ofValue_eq_ok_iff.mpr second))

theorem Tags.again {v : Value} {a : Attribute} (tags : Tags v a) : Tags a.value a := by
  cases tags with
  | bool b => exact .int _
  | int n => exact .int n
  | float x => exact .float x
  | text s => exact .text s
  | texts all => exact .texts rfl
  | ints all => exact .ints rfl
  | @floats _ items xs x _ all mixed =>
    obtain ⟨y, member, _⟩ := exists_of_forall₂ all mixed
    refine .floats rfl ?_ (List.mem_map_of_mem member)
    rw [List.forall₂_map_left_iff, List.forall₂_same]
    exact fun x _ => .float x

end Attribute

/-! Values that have a tag -/

theorem exists_forall₂ {β γ : Type} {R : β → γ → Prop} {bs : List β}
    (each : ∀ b ∈ bs, ∃ c, R b c) : ∃ cs, List.Forall₂ R bs cs := by
  induction bs with
  | nil => exact ⟨[], .nil⟩
  | cons b rest ih =>
    obtain ⟨c, here⟩ := each b (List.mem_cons_self ..)
    obtain ⟨cs, later⟩ := ih fun b member => each b (List.mem_cons_of_mem _ member)
    exact ⟨c :: cs, .cons here later⟩

theorem exists_eq_map {β γ : Type} {f : γ → β} {bs : List β} (each : ∀ b ∈ bs, ∃ c, b = f c) :
    ∃ cs : List γ, bs = cs.map f := by
  obtain ⟨cs, all⟩ := exists_forall₂ each
  rw [← List.forall₂_map_right_iff, List.forall₂_eq_eq_eq] at all
  exact ⟨cs, all⟩

namespace Value

/-- Plain values that an attribute can hold: scalars, and sequences that are all texts, all
    integers, or all integers and numbers. -/
def IsStorable : Value → Prop
  | bool _ | int _ | float _ | text _ => True
  | list items | tuple items =>
    (∀ item ∈ items, ∃ s, item = text s) ∨ (∀ item ∈ items, ∃ n, item = int n) ∨
      ∀ item ∈ items, (∃ n, item = int n) ∨ ∃ x, item = float x
  | _ => False

/-- An integer has 64 bits. -/
def IsSmall : Value → Prop
  | int n => fitsInt64 n = true
  | _ => True

/-- A value, and each item of a sequence, is no larger integer. -/
def HasSmallIntegers (v : Value) : Prop :=
  v.IsSmall ∧ ∀ items, v.sequence? = some items → ∀ item ∈ items, item.IsSmall

theorem isStorable_iff {v : Value} {items : List Value} (items_eq : v.sequence? = some items) :
    v.IsStorable ↔ (∀ item ∈ items, ∃ s, item = text s) ∨ (∀ item ∈ items, ∃ n, item = int n) ∨
      ∀ item ∈ items, (∃ n, item = int n) ∨ ∃ x, item = float x := by
  cases v with
  | list | tuple =>
    cases items_eq
    exact Iff.rfl
  | _ => contradiction

theorem isStorable_of_tags {v : Value} {a : Attribute} (tags : Attribute.Tags v a) :
    v.IsStorable := by
  cases tags with
  | bool | int | float | text => trivial
  | texts all =>
    refine (isStorable_iff all).mpr (Or.inl ?_)
    intro item member
    obtain ⟨s, _, rfl⟩ := List.mem_map.mp member
    exact ⟨s, rfl⟩
  | ints all =>
    refine (isStorable_iff all).mpr (Or.inr (Or.inl ?_))
    intro item member
    obtain ⟨n, _, rfl⟩ := List.mem_map.mp member
    exact ⟨n, rfl⟩
  | floats items_eq all _ =>
    refine (isStorable_iff items_eq).mpr (Or.inr (Or.inr ?_))
    intro item member
    obtain ⟨x, _, widens⟩ := exists_of_forall₂ all member
    cases widens with
    | @int n _ _ => exact Or.inl ⟨n, rfl⟩
    | float _ => exact Or.inr ⟨x, rfl⟩

theorem exists_widens {v : Value} (small : v.IsSmall)
    (number : (∃ n, v = int n) ∨ ∃ x, v = float x) : ∃ x, v.Widens x := by
  rcases number with ⟨n, rfl⟩ | ⟨x, rfl⟩
  · obtain ⟨x, near⟩ := Binary64.exists_ofInt? small
    exact ⟨x, .int near⟩
  · exact ⟨x, .float x⟩

theorem exists_tags_of_sequence {v : Value} {items : List Value} (items_eq : v.sequence? = some items)
    (small : ∀ item ∈ items, item.IsSmall) (storable : v.IsStorable) :
    ∃ a, Attribute.Tags v a := by
  rcases (isStorable_iff items_eq).mp storable with texts | ints | numbers
  · obtain ⟨ss, rfl⟩ := exists_eq_map texts
    cases ss with
    | nil => exact ⟨.ints [], .ints items_eq⟩
    | cons s ss => exact ⟨_, .texts items_eq⟩
  · obtain ⟨ns, rfl⟩ := exists_eq_map ints
    exact ⟨_, .ints items_eq⟩
  · -- numbers that are all integers are tagged as integers
    by_cases mixed : ∃ x, float x ∈ items
    · obtain ⟨x, member⟩ := mixed
      obtain ⟨xs, all⟩ :=
        exists_forall₂ fun item member => exists_widens (small item member) (numbers item member)
      exact ⟨_, .floats items_eq all member⟩
    · have ints : ∀ item ∈ items, ∃ n, item = int n := by
        intro item member
        rcases numbers item member with integer | ⟨x, rfl⟩
        · exact integer
        · exact absurd ⟨x, member⟩ mixed
      obtain ⟨ns, rfl⟩ := exists_eq_map ints
      exact ⟨_, .ints items_eq⟩

theorem exists_tags_iff {v : Value} (small : v.HasSmallIntegers) :
    (∃ a, Attribute.Tags v a) ↔ v.IsStorable := by
  constructor
  · rintro ⟨a, tags⟩
    exact isStorable_of_tags tags
  · intro storable
    cases v with
    | bool b => exact ⟨_, .bool b⟩
    | int n => exact ⟨_, .int n⟩
    | float x => exact ⟨_, .float x⟩
    | text s => exact ⟨_, .text s⟩
    | list items | tuple items => exact exists_tags_of_sequence rfl (small.2 items rfl) storable
    | _ => contradiction

end Value

namespace Attribute.Tags

variable {v : Value}

theorem fits_of_int {n : Int} (tags : Tags v (Attribute.int n)) (small : v.HasSmallIntegers) :
    fitsInt64 n = true := by
  cases tags with
  | bool b => cases b <;> rfl
  | int n => exact small.1

theorem fits_of_ints {ns : List Int} (tags : Tags v (Attribute.ints ns)) (small : v.HasSmallIntegers) :
    ∀ n ∈ ns, fitsInt64 n = true := by
  cases tags with
  | ints all => exact fun n member => small.2 _ all _ (List.mem_map_of_mem member)

end Attribute.Tags

end ReductionIR
