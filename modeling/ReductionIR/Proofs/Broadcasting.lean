import ReductionIR.Proofs.Describing
/-
The algebra of broadcasting. Shapes are aligned at their last dims and go on with ones in front, so
dims are looked up from the end, and what holds of every two aligned dims holds of the shapes.
-/
namespace ReductionIR

/-- The entry that stands some places before the last one. What would stand before the first one
    is taken for `unit`. -/
def fromEnd {β : Type} (unit : β) (entries : List β) (places : Nat) : β :=
  entries.reverse.getD places unit

/-- The length that two aligned lengths broadcast to: they are the same, or one of them is 1 and
    yields to the other. -/
def LengthsMeet {β : Type} [One β] (m n l : β) : Prop :=
  (m = n ∨ m = 1) ∧ l = n ∨ n = 1 ∧ l = m

/-- The lengths that two lists of lengths broadcast to. -/
structure LengthsBroadcast {β : Type} [One β] (ms ns ls : List β) : Prop where
  rank_eq : ls.length = max ms.length ns.length
  meet : ∀ i, LengthsMeet (fromEnd 1 ms i) (fromEnd 1 ns i) (fromEnd 1 ls i)

section Lengths

variable {β : Type}

theorem fromEnd_of_length_le {unit : β} {entries : List β} {i : Nat}
    (outside : entries.length ≤ i) : fromEnd unit entries i = unit := by
  apply List.getD_eq_default
  rwa [List.length_reverse]

theorem lengthsBroadcast_iff [One β] {ms ns ls : List β} :
    LengthsBroadcast ms ns ls ↔ ls.length = max ms.length ns.length ∧
      ∀ i < ls.length, LengthsMeet (fromEnd 1 ms i) (fromEnd 1 ns i) (fromEnd 1 ls i) := by
  constructor
  · rintro ⟨rank, meet⟩
    exact ⟨rank, fun i _ => meet i⟩
  · rintro ⟨rank, meet⟩
    refine ⟨rank, ?_⟩
    intro i
    by_cases inside : i < ls.length
    · exact meet i inside
    · rw [fromEnd_of_length_le (by omega), fromEnd_of_length_le (by omega),
        fromEnd_of_length_le (by omega)]
      exact Or.inr ⟨rfl, rfl⟩

instance [One β] [DecidableEq β] (m n l : β) : Decidable (LengthsMeet m n l) :=
  inferInstanceAs (Decidable ((m = n ∨ m = 1) ∧ l = n ∨ n = 1 ∧ l = m))

instance [One β] [DecidableEq β] (ms ns ls : List β) : Decidable (LengthsBroadcast ms ns ls) :=
  decidable_of_iff _ lengthsBroadcast_iff.symm

end Lengths

/-! Dims -/

namespace Dim

theorem one_or_other_or_unknown (d : Dim) :
    d = known 1 ∨ (∃ n, n ≠ 1 ∧ d = known n) ∨ d.isKnown = false := by
  cases d with
  | known n =>
    by_cases one : n = 1
    · exact Or.inl (congrArg known one)
    · exact Or.inr (Or.inl ⟨n, one, rfl⟩)
  | named symbol => exact Or.inr (Or.inr rfl)
  | anonymous => exact Or.inr (Or.inr rfl)

theorem ne_known_of_unknown {d : Dim} (unknown : d.isKnown = false) (n : Int) : d ≠ known n := by
  rintro rfl
  contradiction

@[simp] theorem broadcast_one_left (y : Dim) : (known 1).broadcast y = some y := by
  simp [broadcast]

@[simp] theorem broadcast_one_right (x : Dim) : x.broadcast (known 1) = some x := by
  by_cases one : x = known 1 <;> simp [broadcast, one]

theorem broadcast_unknowns {x y : Dim} (left : x.isKnown = false) (right : y.isKnown = false) :
    x.broadcast y = some y := by
  by_cases same : x = y
  · rw [same, broadcast_self]
  · simp [broadcast, same, left, ne_known_of_unknown left, ne_known_of_unknown right]

theorem broadcast_known_unknown {n : Int} {y : Dim} (other : n ≠ 1) (right : y.isKnown = false) :
    (known n).broadcast y = some (known n) := by
  have apart := (ne_known_of_unknown right n).symm
  simp [broadcast, other, apart, ne_known_of_unknown right, isKnown, value?]

theorem broadcast_unknown_known {x : Dim} {n : Int} (left : x.isKnown = false) (other : n ≠ 1) :
    x.broadcast (known n) = some (known n) := by
  simp [broadcast, other, left, ne_known_of_unknown left]

theorem broadcast_knowns {m n : Int} (left : m ≠ 1) (right : n ≠ 1) :
    (known m).broadcast (known n) = if m = n then some (known m) else none := by
  by_cases same : m = n <;> simp [broadcast, left, right, same, isKnown, value?]

/-- Three dims broadcast to the same dim either way, or to none either way. -/
theorem broadcast_assoc (x y z : Dim) :
    (x.broadcast y).bind (fun d => d.broadcast z) =
      (y.broadcast z).bind fun d => x.broadcast d := by
  -- each dim is a 1, which yields, another known dim or an unknown one
  rcases one_or_other_or_unknown x with rfl | ⟨m, left, rfl⟩ | left
  · simp
  · rcases one_or_other_or_unknown y with rfl | ⟨n, middle, rfl⟩ | middle
    · simp
    · rcases one_or_other_or_unknown z with rfl | ⟨k, right, rfl⟩ | right
      · simp
      · by_cases first : m = n <;> by_cases second : n = k <;>
          simp_all [broadcast_knowns]
      · by_cases same : m = n <;>
          simp [broadcast_knowns, broadcast_known_unknown, left, middle, right, same]
    · rcases one_or_other_or_unknown z with rfl | ⟨k, right, rfl⟩ | right
      · simp
      · simp [broadcast_known_unknown, broadcast_unknown_known, left, middle, right]
      · simp [broadcast_known_unknown, broadcast_unknowns, left, middle, right]
  · rcases one_or_other_or_unknown y with rfl | ⟨n, middle, rfl⟩ | middle
    · simp
    · rcases one_or_other_or_unknown z with rfl | ⟨k, right, rfl⟩ | right
      · simp
      · by_cases same : n = k <;>
          simp [broadcast_knowns, broadcast_unknown_known, left, middle, right, same]
      · simp [broadcast_known_unknown, broadcast_unknown_known, left, middle, right]
    · rcases one_or_other_or_unknown z with rfl | ⟨k, right, rfl⟩ | right
      · simp
      · simp [broadcast_unknown_known, broadcast_unknowns, left, middle, right]
      · simp [broadcast_unknowns, left, middle, right]

theorem known_of_broadcast_eq_none {x y : Dim} (failed : x.broadcast y = none) :
    x.isKnown = true := by
  by_contra unknown
  rw [Bool.not_eq_true] at unknown
  rcases one_or_other_or_unknown y with rfl | ⟨n, right, rfl⟩ | right
  · simp at failed
  · simp [broadcast_unknown_known unknown right] at failed
  · simp [broadcast_unknowns unknown right] at failed

theorem broadcast_comm_of_known {x y : Dim} (settled : x.isKnown = true ∨ y.isKnown = true) :
    x.broadcast y = y.broadcast x := by
  rcases one_or_other_or_unknown x with rfl | ⟨m, left, rfl⟩ | left
  · simp
  · rcases one_or_other_or_unknown y with rfl | ⟨n, right, rfl⟩ | right
    · simp
    · by_cases same : m = n
      · rw [same]
      · simp [broadcast_knowns, left, right, same, Ne.symm same]
    · rw [broadcast_known_unknown left right, broadcast_unknown_known right left]
  · rcases one_or_other_or_unknown y with rfl | ⟨n, right, rfl⟩ | right
    · simp
    · rw [broadcast_unknown_known left right, broadcast_known_unknown right left]
    · simp [left, right] at settled

theorem broadcast_knowns_eq_some_iff {m n : Int} {d : Dim} :
    (known m).broadcast (known n) = some d ↔ ∃ l, d = known l ∧ LengthsMeet m n l := by
  unfold LengthsMeet
  by_cases left : m = 1
  · subst left
    simp only [broadcast_one_left, Option.some.injEq, or_true, true_and]
    constructor
    · rintro rfl
      exact ⟨n, rfl, Or.inl rfl⟩
    · rintro ⟨l, rfl, rfl | ⟨rfl, rfl⟩⟩ <;> rfl
  · by_cases right : n = 1
    · subst right
      simp [left]
      grind
    · by_cases same : m = n <;> simp [broadcast_knowns, left, right, same]
      grind

end Dim

/-! Lists of dims -/

section Entries

variable {β : Type}

theorem fromEnd_map {γ : Type} (f : β → γ) (unit : β) (entries : List β) (i : Nat) :
    fromEnd (f unit) (entries.map f) i = f (fromEnd unit entries i) := by
  rw [fromEnd, ← List.map_reverse, List.getD_map, fromEnd]

theorem eq_of_getD {unit : β} {ds es : List β} (length : ds.length = es.length)
    (each : ∀ i, ds.getD i unit = es.getD i unit) : ds = es := by
  apply List.ext_getElem length
  intro i left right
  have here := each i
  rwa [List.getD_eq_getElem _ _ left, List.getD_eq_getElem _ _ right] at here

theorem eq_of_fromEnd (unit : β) {ds es : List β} (length : ds.length = es.length)
    (each : ∀ i, fromEnd unit ds i = fromEnd unit es i) : ds = es := by
  apply List.reverse_injective
  apply eq_of_getD _ each
  rw [List.length_reverse, List.length_reverse, length]

theorem exists_fromEnd (unit : β) {entries : List β} {d : β} (member : d ∈ entries) :
    ∃ i, fromEnd unit entries i = d := by
  obtain ⟨i, inside, rfl⟩ := List.getElem_of_mem (List.mem_reverse.mpr member)
  exact ⟨i, List.getD_eq_getElem _ _ inside⟩

end Entries

namespace Shape

@[simp] theorem broadcastAligned_nil_right (xs : List Dim) :
    broadcastAligned xs [] = some xs := by
  cases xs <;> rfl

theorem broadcastAligned_cons (x y : Dim) (xs ys : List Dim) :
    broadcastAligned (x :: xs) (y :: ys) =
      Option.map₂ List.cons (x.broadcast y) (broadcastAligned xs ys) := by
  rw [broadcastAligned]
  cases x.broadcast y with
  | none => rfl
  | some d => cases broadcastAligned xs ys <;> rfl

theorem bind_broadcastAligned_left (z : Dim) (zs : List Dim) (head : Option Dim)
    (tail : Option (List Dim)) :
    (Option.map₂ List.cons head tail).bind (fun ds => broadcastAligned ds (z :: zs)) =
      Option.map₂ List.cons (head.bind fun d => d.broadcast z)
        (tail.bind fun ds => broadcastAligned ds zs) := by
  cases head with
  | none => rfl
  | some d =>
    cases tail with
    | none => simp
    | some ds => exact broadcastAligned_cons d z ds zs

theorem bind_broadcastAligned_right (x : Dim) (xs : List Dim) (head : Option Dim)
    (tail : Option (List Dim)) :
    (Option.map₂ List.cons head tail).bind (fun ds => broadcastAligned (x :: xs) ds) =
      Option.map₂ List.cons (head.bind fun d => x.broadcast d)
        (tail.bind fun ds => broadcastAligned xs ds) := by
  cases head with
  | none => rfl
  | some d =>
    cases tail with
    | none => simp
    | some ds => exact broadcastAligned_cons x d xs ds

theorem broadcastAligned_assoc (xs ys zs : List Dim) :
    (broadcastAligned xs ys).bind (fun ds => broadcastAligned ds zs) =
      (broadcastAligned ys zs).bind fun ds => broadcastAligned xs ds := by
  induction xs generalizing ys zs with
  | nil => simp [broadcastAligned]
  | cons x xs ih =>
    cases ys with
    | nil => simp [broadcastAligned]
    | cons y ys =>
      cases zs with
      | nil => simp
      | cons z zs =>
        rw [broadcastAligned_cons, broadcastAligned_cons, bind_broadcastAligned_left,
          bind_broadcastAligned_right, Dim.broadcast_assoc, ih]

theorem getD_broadcastAligned {xs ys ds : List Dim} (done : broadcastAligned xs ys = some ds)
    (i : Nat) : (xs.getD i (.known 1)).broadcast (ys.getD i (.known 1)) =
      some (ds.getD i (.known 1)) := by
  induction xs generalizing ys ds i with
  | nil =>
    cases done
    simp
  | cons x xs ih =>
    cases ys with
    | nil =>
      cases done
      simp
    | cons y ys =>
      rw [broadcastAligned_cons, Option.map₂_eq_some_iff] at done
      obtain ⟨d, rest, first, later, rfl⟩ := done
      cases i with
      | zero => exact first
      | succ i => exact ih later i

theorem length_broadcastAligned {xs ys ds : List Dim} (done : broadcastAligned xs ys = some ds) :
    ds.length = max xs.length ys.length := by
  induction xs generalizing ys ds with
  | nil =>
    cases done
    simp
  | cons x xs ih =>
    cases ys with
    | nil =>
      cases done
      simp
    | cons y ys =>
      rw [broadcastAligned_cons, Option.map₂_eq_some_iff] at done
      obtain ⟨d, rest, first, later, rfl⟩ := done
      have longer := ih later
      simp only [List.length_cons]
      omega

theorem broadcastAligned_eq_none_iff {xs ys : List Dim} :
    broadcastAligned xs ys = none ↔
      ∃ i, (xs.getD i (.known 1)).broadcast (ys.getD i (.known 1)) = none := by
  induction xs generalizing ys with
  | nil => simp [broadcastAligned]
  | cons x xs ih =>
    cases ys with
    | nil => simp
    | cons y ys =>
      rw [broadcastAligned_cons, Option.map₂_eq_none_iff, ih]
      constructor
      · rintro (first | ⟨i, later⟩)
        · exact ⟨0, first⟩
        · exact ⟨i + 1, later⟩
      · rintro ⟨i, failed⟩
        cases i with
        | zero => exact Or.inl failed
        | succ i => exact Or.inr ⟨i, failed⟩

/-! Shapes -/

variable {a b s t : Shape} {xs ys ds es : List Dim}

theorem broadcast_ranked_eq_some (done : (ranked xs).broadcast (ranked ys) = some s) :
    ∃ ds, s = ranked ds ∧ ds.length = max xs.length ys.length ∧
      ∀ i, (fromEnd (.known 1) xs i).broadcast (fromEnd (.known 1) ys i) =
        some (fromEnd (.known 1) ds i) := by
  obtain ⟨ds, aligned, rfl⟩ := Option.map_eq_some_iff.mp done
  have rank := length_broadcastAligned aligned
  rw [List.length_reverse, List.length_reverse] at rank
  refine ⟨ds.reverse, rfl, by rw [List.length_reverse, rank], ?_⟩
  intro i
  have here := getD_broadcastAligned aligned i
  rwa [← ds.reverse_reverse] at here

theorem broadcast_ranked_eq_none_iff : (ranked xs).broadcast (ranked ys) = none ↔
    ∃ i, (fromEnd (.known 1) xs i).broadcast (fromEnd (.known 1) ys i) = none := by
  rw [broadcast, Option.map_eq_none_iff, broadcastAligned_eq_none_iff]
  rfl

theorem broadcast_ranked_assoc (xs ys zs : List Dim) :
    ((ranked xs).broadcast (ranked ys)).bind (fun s => s.broadcast (ranked zs)) =
      ((ranked ys).broadcast (ranked zs)).bind fun s => (ranked xs).broadcast s := by
  have aligned := broadcastAligned_assoc xs.reverse ys.reverse zs.reverse
  have left : ∀ ds, (ranked ds.reverse).broadcast (ranked zs) =
      (broadcastAligned ds zs.reverse).map fun es => ranked es.reverse := by
    intro ds
    rw [broadcast, List.reverse_reverse]
  have right : ∀ ds, (ranked xs).broadcast (ranked ds.reverse) =
      (broadcastAligned xs.reverse ds).map fun es => ranked es.reverse := by
    intro ds
    rw [broadcast, List.reverse_reverse]
  have both := congrArg (Option.map fun es => ranked es.reverse) aligned
  rw [Option.map_bind, Option.map_bind] at both
  rw [broadcast, broadcast, Option.bind_map, Option.bind_map]
  simpa only [Function.comp_def, left, right] using both

@[simp] theorem broadcast_unknownRank_left (s : Shape) :
    unknownRank.broadcast s = some unknownRank := rfl

@[simp] theorem broadcast_unknownRank_right (s : Shape) :
    s.broadcast unknownRank = some unknownRank := by
  cases s <;> rfl

theorem broadcast_scalar_left (s : Shape) : scalar.broadcast s = some s := by
  cases s with
  | unknownRank => rfl
  | ranked dims => simp [scalar, broadcast, broadcastAligned]

theorem broadcast_scalar_right (s : Shape) : s.broadcast scalar = some s := by
  cases s with
  | unknownRank => rfl
  | ranked dims => simp [scalar, broadcast]

/-- Two shapes fail to broadcast in both orders or in none, and the two results have the same rank
    and the same dims, but for places at which both dims are unknown: there each result has the dim
    of the shape on its right. -/
structure Swaps (a b : Shape) : Prop where
  none_iff : a.broadcast b = none ↔ b.broadcast a = none
  rank_eq : ∀ s t, a.broadcast b = some s → b.broadcast a = some t → s.rank? = t.rank?
  dims : ∀ xs ys ds es, a = ranked xs → b = ranked ys → a.broadcast b = some (ranked ds) →
    b.broadcast a = some (ranked es) → ∀ i,
      if (fromEnd (.known 1) xs i).isKnown ∨ (fromEnd (.known 1) ys i).isKnown then
        fromEnd (.known 1) ds i = fromEnd (.known 1) es i
      else
        fromEnd (.known 1) ds i = fromEnd (.known 1) ys i ∧
          fromEnd (.known 1) es i = fromEnd (.known 1) xs i

theorem none_of_swapped (failed : (ranked xs).broadcast (ranked ys) = none) :
    (ranked ys).broadcast (ranked xs) = none := by
  obtain ⟨i, clash⟩ := broadcast_ranked_eq_none_iff.mp failed
  apply broadcast_ranked_eq_none_iff.mpr
  rw [Dim.broadcast_comm_of_known (Or.inl (Dim.known_of_broadcast_eq_none clash))] at clash
  exact ⟨i, clash⟩

theorem swaps (a b : Shape) : a.Swaps b where
  none_iff := by
    cases a with
    | unknownRank => simp
    | ranked xs =>
      cases b with
      | unknownRank => simp
      | ranked ys => exact ⟨none_of_swapped, none_of_swapped⟩
  rank_eq := by
    intro s t one other
    cases a with
    | unknownRank =>
      rw [broadcast_unknownRank_left, Option.some.injEq] at one
      rw [broadcast_unknownRank_right, Option.some.injEq] at other
      rw [← one, ← other]
    | ranked xs =>
      cases b with
      | unknownRank =>
        rw [broadcast_unknownRank_right, Option.some.injEq] at one
        rw [broadcast_unknownRank_left, Option.some.injEq] at other
        rw [← one, ← other]
      | ranked ys =>
        obtain ⟨ds, rfl, first, _⟩ := broadcast_ranked_eq_some one
        obtain ⟨es, rfl, second, _⟩ := broadcast_ranked_eq_some other
        simp [rank?, dims?, first, second, Nat.max_comm]
  dims := by
    rintro xs ys ds es rfl rfl one other i
    obtain ⟨_, same, _, left⟩ := broadcast_ranked_eq_some one
    cases same
    obtain ⟨_, same, _, right⟩ := broadcast_ranked_eq_some other
    cases same
    have here := left i
    have there := right i
    split
    · rename_i settled
      rw [Dim.broadcast_comm_of_known settled, there, Option.some.injEq] at here
      exact here.symm
    · rename_i open_both
      simp only [not_or, Bool.not_eq_true] at open_both
      rw [Dim.broadcast_unknowns open_both.1 open_both.2, Option.some.injEq] at here
      rw [Dim.broadcast_unknowns open_both.2 open_both.1, Option.some.injEq] at there
      exact ⟨here.symm, there.symm⟩

theorem fromEnd_known (ls : List Int) (i : Nat) :
    fromEnd (.known 1) (ls.map Dim.known) i = .known (fromEnd 1 ls i) :=
  fromEnd_map Dim.known 1 ls i

theorem broadcast_static_eq_some_iff {ms ns : List Int} :
    (static ms).broadcast (static ns) = some s ↔
      ∃ ls, s = static ls ∧ LengthsBroadcast ms ns ls := by
  constructor
  · intro done
    obtain ⟨ds, rfl, rank, each⟩ := broadcast_ranked_eq_some done
    simp only [fromEnd_known, Dim.broadcast_knowns_eq_some_iff] at each
    -- known dims leave known dims, so the result has lengths
    obtain ⟨ls, rfl⟩ : ds ∈ Set.range (List.map Dim.known) := by
      rw [Set.range_list_map]
      intro d member
      obtain ⟨i, rfl⟩ := exists_fromEnd (.known 1) member
      obtain ⟨l, same, _⟩ := each i
      exact ⟨l, same.symm⟩
    refine ⟨ls, rfl, by simpa using rank, ?_⟩
    intro i
    obtain ⟨l, same, meet⟩ := each i
    rw [fromEnd_known, Dim.known.injEq] at same
    rwa [same]
  · rintro ⟨ls, rfl, rank, meet⟩
    have each : ∀ i, (fromEnd (.known 1) (ms.map Dim.known) i).broadcast
        (fromEnd (.known 1) (ns.map Dim.known) i) =
          some (fromEnd (.known 1) (ls.map Dim.known) i) := by
      intro i
      rw [fromEnd_known, fromEnd_known, fromEnd_known, Dim.broadcast_knowns_eq_some_iff]
      exact ⟨_, rfl, meet i⟩
    cases done : (static ms).broadcast (static ns) with
    | none =>
      obtain ⟨i, clash⟩ := broadcast_ranked_eq_none_iff.mp done
      rw [each i] at clash
      contradiction
    | some s =>
      obtain ⟨ds, rfl, longer, here⟩ := broadcast_ranked_eq_some done
      apply congrArg (some ∘ ranked)
      apply eq_of_fromEnd (.known 1)
      · simpa [rank] using longer
      · intro i
        exact Option.some.inj ((here i).symm.trans (each i))

end Shape

open Shape in
/-- The laws of broadcasting: it is associative for known ranks, failures included; a scalar is a
    unit, a shape broadcasts to itself with itself, and an unknown rank stays; the order of two
    shapes matters only where both dims are unknown; and known dims broadcast as lengths do. -/
theorem broadcast_laws :
    (∀ xs ys zs : List Dim,
      ((ranked xs).broadcast (ranked ys)).bind (fun s => s.broadcast (ranked zs)) =
        ((ranked ys).broadcast (ranked zs)).bind fun s => (ranked xs).broadcast s) ∧
    (∀ s : Shape, scalar.broadcast s = some s ∧ s.broadcast scalar = some s) ∧
    (∀ s : Shape, s.broadcast s = some s) ∧
    (∀ a b : Shape, a.Swaps b) ∧
    (∀ s : Shape, unknownRank.broadcast s = some unknownRank ∧
      s.broadcast unknownRank = some unknownRank) ∧
    ∀ (ms ns : List Int) (s : Shape), (static ms).broadcast (static ns) = some s ↔
      ∃ ls, s = static ls ∧ LengthsBroadcast ms ns ls := by
  refine ⟨broadcast_ranked_assoc, ?_, broadcast_self, swaps, ?_, ?_⟩
  · intro s
    exact ⟨broadcast_scalar_left s, broadcast_scalar_right s⟩
  · intro s
    exact ⟨broadcast_unknownRank_left s, broadcast_unknownRank_right s⟩
  · intro ms ns s
    exact broadcast_static_eq_some_iff

/-- A symbol yields to a known dim and to the dim on its right, and stays against a 1. -/
example : (Shape.ranked [.named "b", .named "n", .named "k", .known 1]).broadcast
    (.ranked [.named "m", .known 4, .anonymous]) =
      some (.ranked [.named "b", .named "m", .known 4, .anonymous]) := by
  decide

end ReductionIR
