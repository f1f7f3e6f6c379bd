import ReductionIR.Proofs.Broadcasting
import ReductionIR.Proofs.Soundness
/-
Broadcast shapes against the lengths at run time. Shapes of lengths that broadcast do broadcast, and
the result holds of the broadcast lengths, unless a named dim that stays for it turns out to be 1.
-/
namespace ReductionIR

theorem forall₂_iff_getD {β γ : Type} {R : β → γ → Prop} {u : β} {v : γ} (unit : R u v)
    {bs : List β} {cs : List γ} :
    List.Forall₂ R bs cs ↔ bs.length = cs.length ∧ ∀ i, R (bs.getD i u) (cs.getD i v) := by
  induction bs generalizing cs with
  | nil =>
    cases cs with
    | nil => simp [unit]
    | cons c cs => simp
  | cons b bs ih =>
    cases cs with
    | nil => simp
    | cons c cs =>
      rw [List.forall₂_cons, ih, List.length_cons, List.length_cons]
      constructor
      · rintro ⟨first, length, later⟩
        refine ⟨congrArg _ length, ?_⟩
        intro i
        cases i with
        | zero => exact first
        | succ i => exact later i
      · rintro ⟨length, each⟩
        exact ⟨each 0, Nat.succ.inj length, fun i => each (i + 1)⟩

theorem Shape.hasLengths_ranked_iff {symbols : String → Nat} {dims : List Dim}
    {lengths : List Nat} :
    (ranked dims).HasLengths symbols lengths ↔ dims.length = lengths.length ∧
      ∀ i, (fromEnd (.known 1) dims i).HasLength symbols (fromEnd 1 lengths i) := by
  have unit : Dim.HasLength symbols (.known 1) 1 := rfl
  have all : (ranked dims).HasLengths symbols lengths ↔
      List.Forall₂ (Dim.HasLength symbols) dims lengths := by
    constructor
    · intro has
      exact has dims rfl
    · rintro each _ ⟨⟩
      exact each
  rw [all, ← List.forall₂_reverse_iff, forall₂_iff_getD unit, List.length_reverse,
    List.length_reverse]
  rfl

namespace Dim

/-- Of two different unknown dims the right one stays for the result under its name, and then it is
    1 at run time and yields to the left one. -/
structure Misnames (x y : Dim) (m n : Nat) : Prop where
  unknown : x.isKnown = false
  different : x ≠ y
  named : ∃ symbol, y = .named symbol
  yields : n = 1
  stretched : m ≠ 1

variable {symbols : String → Nat} {x y : Dim} {m n l : Nat}

/-- Dims of lengths that meet broadcast to a dim, which has the length that they meet in unless it
    is misnamed. -/
theorem broadcast_hasLength_iff (left : x.HasLength symbols m) (right : y.HasLength symbols n)
    (meet : LengthsMeet m n l) :
    ∃ d, x.broadcast y = some d ∧ (d.HasLength symbols l ↔ ¬ Misnames x y m n) := by
  unfold LengthsMeet at meet
  rcases one_or_other_or_unknown x with rfl | ⟨k, other, rfl⟩ | unknown
  · have one : (1 : Int) = m := left
    have same : l = n := by omega
    refine ⟨y, broadcast_one_left y, ?_⟩
    have never : ¬ Misnames (known 1) y m n := fun bad => nomatch bad.unknown
    simp [never, same, right]
  · have length : k = m := left
    have never : ¬ Misnames (known k) y m n := fun bad => nomatch bad.unknown
    have same : l = m := by omega
    rcases one_or_other_or_unknown y with rfl | ⟨j, another, rfl⟩ | unknown
    · refine ⟨known k, broadcast_one_right _, ?_⟩
      simp [never, same, left]
    · have length' : j = n := right
      have equal : k = j := by omega
      refine ⟨known k, by rw [broadcast_knowns other another, if_pos equal], ?_⟩
      simp [never, same, left]
    · refine ⟨known k, broadcast_known_unknown other unknown, ?_⟩
      simp [never, same, left]
  · rcases one_or_other_or_unknown y with rfl | ⟨j, another, rfl⟩ | unknown'
    · have one : (1 : Int) = n := right
      have never : ¬ Misnames x (known 1) m n := fun bad => nomatch bad.named
      have same : l = m := by omega
      refine ⟨x, broadcast_one_right x, ?_⟩
      simp [never, same, left]
    · have length : j = n := right
      have never : ¬ Misnames x (known j) m n := fun bad => nomatch bad.named
      have same : l = n := by omega
      refine ⟨known j, broadcast_unknown_known unknown another, ?_⟩
      simp [never, same, right]
    · refine ⟨y, broadcast_unknowns unknown unknown', ?_⟩
      cases y with
      | known j => contradiction
      | anonymous =>
        have never : ¬ Misnames x anonymous m n := fun bad => nomatch bad.named
        simp [never, HasLength]
      -- the name on the right stays, and is right unless its length is 1 and yields
      | named symbol =>
        have length : symbols symbol = n := right
        constructor
        · intro tells bad
          have told : symbols symbol = l := tells
          have yields := bad.yields
          have stretched := bad.stretched
          omega
        · intro fine
          change symbols symbol = l
          by_contra wrong
          refine fine ⟨unknown, ?_, ⟨symbol, rfl⟩, by omega, by omega⟩
          rintro rfl
          have also : symbols symbol = m := left
          omega

end Dim

theorem Shape.hasLengths_unknownRank (symbols : String → Nat) (lengths : List Nat) :
    unknownRank.HasLengths symbols lengths :=
  fun _ ranked => nomatch ranked

/-- The places of two shapes at which a dim is misnamed at run time. -/
def Shape.Misnamed (a b : Shape) (ms ns : List Nat) (i : Nat) : Prop :=
  ∃ xs ys, a = ranked xs ∧ b = ranked ys ∧
    Dim.Misnames (fromEnd (.known 1) xs i) (fromEnd (.known 1) ys i) (fromEnd 1 ms i)
      (fromEnd 1 ns i)

theorem Shape.misnamed_ranked_iff {xs ys : List Dim} {ms ns : List Nat} {i : Nat} :
    (ranked xs).Misnamed (ranked ys) ms ns i ↔
      Dim.Misnames (fromEnd (.known 1) xs i) (fromEnd (.known 1) ys i) (fromEnd 1 ms i)
        (fromEnd 1 ns i) := by
  constructor
  · rintro ⟨_, _, ⟨⟩, ⟨⟩, bad⟩
    exact bad
  · intro bad
    exact ⟨xs, ys, rfl, rfl, bad⟩

theorem Shape.broadcast_ranked_hasLengths_iff {symbols : String → Nat} {xs ys : List Dim}
    {ms ns ls : List Nat} (left : (ranked xs).HasLengths symbols ms)
    (right : (ranked ys).HasLengths symbols ns) (broadcast_lengths : LengthsBroadcast ms ns ls) :
    ∃ s, (ranked xs).broadcast (ranked ys) = some s ∧
      (s.HasLengths symbols ls ↔ ∀ i, ¬ (ranked xs).Misnamed (ranked ys) ms ns i) := by
  obtain ⟨rank_left, left⟩ := hasLengths_ranked_iff.mp left
  obtain ⟨rank_right, right⟩ := hasLengths_ranked_iff.mp right
  have each := fun i =>
    Dim.broadcast_hasLength_iff (left i) (right i) (broadcast_lengths.meet i)
  cases done : (ranked xs).broadcast (ranked ys) with
  | none =>
    obtain ⟨i, clash⟩ := broadcast_ranked_eq_none_iff.mp done
    obtain ⟨d, found, _⟩ := each i
    rw [clash] at found
    contradiction
  | some s =>
    obtain ⟨ds, rfl, rank, dims⟩ := broadcast_ranked_eq_some done
    refine ⟨ranked ds, rfl, ?_⟩
    have length : ds.length = ls.length := by
      rw [rank, broadcast_lengths.rank_eq, rank_left, rank_right]
    have tells : ∀ i, (fromEnd (.known 1) ds i).HasLength symbols (fromEnd 1 ls i) ↔
        ¬ (ranked xs).Misnamed (ranked ys) ms ns i := by
      intro i
      obtain ⟨d, found, tells⟩ := each i
      rw [dims i, Option.some.injEq] at found
      rw [found, misnamed_ranked_iff, tells]
    rw [hasLengths_ranked_iff]
    simp only [length, tells, true_and]

/-- Shapes fail to broadcast only when no lengths of theirs do, whatever the symbols stand for. When
    some lengths do, the broadcast shape tells the lengths that result, unless a dim is misnamed. -/
theorem broadcast_tells_lengths_iff (a b : Shape) :
    (∀ (symbols : String → Nat) (ms ns ls : List Nat), a.HasLengths symbols ms →
      b.HasLengths symbols ns → LengthsBroadcast ms ns ls →
      ∃ s, a.broadcast b = some s ∧
        (s.HasLengths symbols ls ↔ ∀ i, ¬ a.Misnamed b ms ns i)) ∧
    (a.broadcast b = none → ∀ (symbols : String → Nat) (ms ns : List Nat),
      a.HasLengths symbols ms → b.HasLengths symbols ns → ¬ ∃ ls, LengthsBroadcast ms ns ls) := by
  have tells : ∀ (symbols : String → Nat) (ms ns ls : List Nat), a.HasLengths symbols ms →
      b.HasLengths symbols ns → LengthsBroadcast ms ns ls → ∃ s, a.broadcast b = some s ∧
        (s.HasLengths symbols ls ↔ ∀ i, ¬ a.Misnamed b ms ns i) := by
    intro symbols ms ns ls left right broadcast_lengths
    cases a with
    | unknownRank =>
      refine ⟨.unknownRank, Shape.broadcast_unknownRank_left b, ?_⟩
      simp [Shape.hasLengths_unknownRank, Shape.Misnamed]
    | ranked xs =>
      cases b with
      | unknownRank =>
        refine ⟨.unknownRank, Shape.broadcast_unknownRank_right _, ?_⟩
        simp [Shape.hasLengths_unknownRank, Shape.Misnamed]
      | ranked ys => exact Shape.broadcast_ranked_hasLengths_iff left right broadcast_lengths
  refine ⟨tells, ?_⟩
  rintro failed symbols ms ns left right ⟨ls, broadcast_lengths⟩
  obtain ⟨s, done, _⟩ := tells symbols ms ns ls left right broadcast_lengths
  rw [failed] at done
  contradiction

theorem Shape.hasLengths_of_forall₂ {symbols : String → Nat} {dims : List Dim}
    {lengths : List Nat} (each : List.Forall₂ (Dim.HasLength symbols) dims lengths) :
    (ranked dims).HasLengths symbols lengths := by
  rintro _ ⟨⟩
  exact each

/-- An open vector against another one: the second one may be 1 at run time, and then the first one
    is the length that results, under the name of the second one. -/
theorem name_of_one_stays : ∃ symbols : String → Nat,
    (Shape.ranked [.named "n"]).HasLengths symbols [2] ∧
    (Shape.ranked [.named "m"]).HasLengths symbols [1] ∧
    LengthsBroadcast ([2] : List Nat) [1] [2] ∧
    (Shape.ranked [.named "n"]).broadcast (.ranked [.named "m"]) = some (.ranked [.named "m"]) ∧
    ¬ (Shape.ranked [.named "m"]).HasLengths symbols [2] := by
  refine ⟨fun symbol => if symbol = "n" then 2 else 1, ?_, ?_, by decide, by decide, ?_⟩
  · exact Shape.hasLengths_of_forall₂ (.cons rfl .nil)
  · exact Shape.hasLengths_of_forall₂ (.cons rfl .nil)
  · intro has
    cases has _ rfl with
    | cons first _ =>
      have one : (1 : Nat) = 2 := first
      contradiction

/-- The name on the right is right when its length is not 1, and clashing lengths never broadcast. -/
theorem stretched_names_are_right :
    (∃ s, (Shape.ranked [.known 2, .named "n", .anonymous, .known 4]).broadcast
        (.ranked [.named "m", .known 1, .known 1]) = some s ∧
      s.HasLengths (fun symbol => if symbol = "m" then 3 else 1) [2, 3, 5, 4]) ∧
    ¬ ∃ ls : List Nat, LengthsBroadcast [7, 2] [3] ls := by
  constructor
  · obtain ⟨s, done, tells⟩ := (broadcast_tells_lengths_iff
      (.ranked [.known 2, .named "n", .anonymous, .known 4])
      (.ranked [.named "m", .known 1, .known 1])).1
      (fun symbol => if symbol = "m" then 3 else 1) [2, 1, 5, 4] [3, 1, 1] [2, 3, 5, 4]
      (Shape.hasLengths_of_forall₂ (.cons rfl (.cons rfl (.cons trivial (.cons rfl .nil)))))
      (Shape.hasLengths_of_forall₂ (.cons rfl (.cons rfl (.cons rfl .nil)))) (by decide)
    refine ⟨s, done, tells.mpr ?_⟩
    intro i bad
    have bad := Shape.misnamed_ranked_iff.mp bad
    match i with
    | 0 => exact nomatch bad.unknown
    | 1 => exact nomatch bad.named
    | 2 => exact absurd bad.yields (by decide)
    | 3 => exact nomatch bad.unknown
    | i + 4 => exact nomatch bad.unknown
  · exact (broadcast_tells_lengths_iff (.ranked [.named "b", .known 2]) (.ranked [.known 3])).2
      (by decide) (fun _ => 7) [7, 2] [3]
      (Shape.hasLengths_of_forall₂ (.cons rfl (.cons rfl .nil)))
      (Shape.hasLengths_of_forall₂ (.cons rfl .nil))

end ReductionIR
