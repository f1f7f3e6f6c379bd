import Mathlib.Data.List.GetD
import Mathlib.Data.List.Induction
import Mathlib.Data.List.Sort
import ReductionIR.Registry
/-
Chains of entries. A chain in the order of the opsets is searched by halving, and what is found is
the last entry that is not newer than the opset; sorting brings every chain into that order.
-/
namespace ReductionIR

namespace Registry

/-! Halving -/

/-- All versions before the first place are up to an opset, those from the second on are above. -/
structure Between (versions : List Int) (opset : Int) (low high : Nat) : Prop where
  ordered : low ≤ high
  inside : high ≤ versions.length
  below : ∀ i < low, versions.getD i 0 ≤ opset
  above : ∀ i < versions.length, high ≤ i → opset < versions.getD i 0

variable {versions : List Int} {opset : Int} {low high : Nat}

theorem getD_mono (sorted : versions.Pairwise (· < ·)) {i j : Nat} (before : i ≤ j)
    (inside : j < versions.length) : versions.getD i 0 ≤ versions.getD j 0 := by
  rw [List.getD_eq_getElem _ _ inside, List.getD_eq_getElem _ _ (by omega)]
  rcases Nat.lt_or_eq_of_le before with less | rfl
  · exact Int.le_of_lt (List.pairwise_iff_getElem.mp sorted i j _ inside less)
  · exact Int.le_refl _

/-- With enough steps the two places meet. -/
theorem Between.place (sorted : versions.Pairwise (· < ·)) {steps : Nat}
    (between : Between versions opset low high) (enough : high - low ≤ steps) :
    Between versions opset (place versions opset steps low high)
      (place versions opset steps low high) := by
  obtain ⟨ordered, inside, below, above⟩ := between
  induction steps generalizing low high with
  | zero =>
    obtain rfl : low = high := by omega
    exact ⟨ordered, inside, below, above⟩
  | succ steps ih =>
    rw [Registry.place]
    split
    · rename_i apart
      dsimp only
      split
      · rename_i late
        refine ih (by omega) (by omega) (by omega) below fun i within behind => ?_
        exact Int.lt_of_lt_of_le late (getD_mono sorted behind within)
      · rename_i early
        refine ih (by omega) (by omega) inside (fun i before => ?_) above
        have up_to := getD_mono sorted (i := i) (j := (low + high) / 2) (by omega) (by omega)
        omega
    · obtain rfl : low = high := by omega
      exact ⟨ordered, inside, below, above⟩

/-! Chains -/

variable {chain : List Entry} {e : Entry}

/-- A chain in the order of the opsets, with one entry for each. -/
def InOrder (chain : List Entry) : Prop := chain.Pairwise fun e f => e.since < f.since

/-- The newest entry is the last one of those that are not newer than the opset. -/
theorem newest?_eq (sorted : InOrder chain) :
    newest? chain opset = (chain.filter fun e => decide (e.since ≤ opset)).getLast? := by
  have ordered : (chain.map Entry.since).Pairwise (· < ·) := List.pairwise_map.mpr sorted
  have start : Between (chain.map Entry.since) opset 0 chain.length :=
    ⟨Nat.zero_le _, by simp, by simp, by simp; omega⟩
  -- the search ends between the entries up to the opset and those above it
  have between := Between.place ordered start (Nat.sub_le ..)
  unfold newest?
  generalize place (chain.map Entry.since) opset chain.length 0 chain.length = n at between
  obtain ⟨_, inside, below, above⟩ := between
  rw [List.length_map] at inside above
  have early : ∀ e ∈ chain.take n, decide (e.since ≤ opset) = true := by
    intro e member
    obtain ⟨i, before, rfl⟩ := List.getElem_of_mem member
    rw [List.length_take] at before
    have up_to := below i (by omega)
    rw [List.getD_eq_getElem _ _ (by rw [List.length_map]; omega), List.getElem_map] at up_to
    simpa using up_to
  have late : ∀ e ∈ chain.drop n, ¬ decide (e.since ≤ opset) = true := by
    intro e member
    obtain ⟨i, before, rfl⟩ := List.getElem_of_mem member
    rw [List.length_drop] at before
    have beyond := above (n + i) (by omega) (by omega)
    rw [List.getD_eq_getElem _ _ (by rw [List.length_map]; omega), List.getElem_map] at beyond
    simpa using beyond
  have kept : chain.filter (fun e => decide (e.since ≤ opset)) = chain.take n := by
    conv_lhs => rw [← List.take_append_drop n chain]
    rw [List.filter_append, List.filter_eq_self.mpr early, List.filter_eq_nil_iff.mpr late,
      List.append_nil]
  rw [kept, List.getLast?_take]
  cases n with
  | zero => rfl
  | succ n => simp [List.getElem?_eq_getElem (show n < chain.length by omega)]

theorem newest?_eq_none_iff (sorted : InOrder chain) :
    newest? chain opset = none ↔ ∀ e ∈ chain, opset < e.since := by
  rw [newest?_eq sorted, List.getLast?_eq_none_iff, List.filter_eq_nil_iff]
  simp

theorem newest?_eq_some_iff (sorted : InOrder chain) :
    newest? chain opset = some e ↔
      e ∈ chain ∧ e.since ≤ opset ∧ ∀ f ∈ chain, f.since ≤ opset → f.since ≤ e.since := by
  have early : InOrder (chain.filter fun e => decide (e.since ≤ opset)) :=
    sorted.sublist List.filter_sublist
  rw [newest?_eq sorted, List.getLast?_eq_some_iff]
  constructor
  · rintro ⟨older, split⟩
    have member : e ∈ chain.filter fun e => decide (e.since ≤ opset) := by simp [split]
    rw [List.mem_filter, decide_eq_true_iff] at member
    refine ⟨member.1, member.2, fun f listed up_to => ?_⟩
    have kept : f ∈ older ++ [e] := split ▸ List.mem_filter.mpr ⟨listed, by simpa using up_to⟩
    rcases List.mem_append.mp kept with before | last
    · rw [split] at early
      exact Int.le_of_lt ((List.pairwise_append.mp early).2.2 f before e (List.mem_singleton_self e))
    · rw [List.mem_singleton.mp last]
  · rintro ⟨listed, up_to, latest⟩
    have member : e ∈ chain.filter fun e => decide (e.since ≤ opset) :=
      List.mem_filter.mpr ⟨listed, by simpa using up_to⟩
    obtain ⟨older, newer, split⟩ := List.append_of_mem member
    -- an entry behind this one would be newer, and up to the opset all the same
    cases newer with
    | nil => exact ⟨older, split⟩
    | cons f rest =>
      have kept : f ∈ chain.filter fun e => decide (e.since ≤ opset) := by simp [split]
      rw [List.mem_filter, decide_eq_true_iff] at kept
      rw [split] at early
      have newer := List.rel_of_pairwise_cons (List.pairwise_append.mp early).2.1
        (List.mem_cons_self (a := f) (l := rest))
      have older := latest f kept.1 kept.2
      omega

/-! Sorting a chain -/

theorem insertEntry_perm (e : Entry) (chain : List Entry) :
    (insertEntry e chain).Perm (e :: chain) := by
  induction chain with
  | nil => exact List.Perm.refl _
  | cons f rest ih =>
    rw [insertEntry]
    split
    · exact List.Perm.refl _
    · exact (ih.cons f).trans (List.Perm.swap e f rest)

theorem InOrder.insertEntry (sorted : InOrder chain) (new : ∀ f ∈ chain, f.since ≠ e.since) :
    InOrder (insertEntry e chain) := by
  induction chain with
  | nil => exact List.pairwise_singleton ..
  | cons f rest ih =>
    obtain ⟨first, later⟩ := List.pairwise_cons.mp sorted
    have different := new f (List.mem_cons_self ..)
    rw [Registry.insertEntry]
    split
    · rename_i before
      refine List.pairwise_cons.mpr ⟨fun g member => ?_, sorted⟩
      rcases List.mem_cons.mp member with rfl | behind
      · exact before
      · exact Int.lt_trans before (first g behind)
    · refine List.pairwise_cons.mpr ⟨fun g member => ?_,
        ih later fun g behind => new g (List.mem_cons_of_mem _ behind)⟩
      rcases List.mem_cons.mp ((insertEntry_perm e rest).subset member) with rfl | behind
      · omega
      · exact first g behind

theorem inOrder_perm (chain : List Entry) : (inOrder chain).Perm chain := by
  induction chain using List.reverseRecOn with
  | nil => exact List.Perm.refl _
  | append_singleton rest e ih =>
    rw [inOrder, List.foldl_concat]
    exact (insertEntry_perm e _).trans ((ih.cons e).trans (List.perm_append_singleton e rest).symm)

theorem inOrder_inOrder (distinct : chain.Pairwise fun e f => e.since ≠ f.since) :
    InOrder (inOrder chain) := by
  induction chain using List.reverseRecOn with
  | nil => exact List.Pairwise.nil
  | append_singleton rest e ih =>
    obtain ⟨earlier, _, apart⟩ := List.pairwise_append.mp distinct
    rw [inOrder, List.foldl_concat]
    refine (ih earlier).insertEntry fun f member => ?_
    exact apart f ((inOrder_perm rest).subset member) e (List.mem_singleton_self e)

theorem InOrder.eq_of_perm {chain other : List Entry} (sorted : InOrder chain)
    (alsoSorted : InOrder other) (perm : chain.Perm other) : chain = other :=
  perm.eq_of_pairwise (fun _ _ _ _ less more => absurd less (by omega)) sorted alsoSorted

/-! Answers -/

section Resolve

variable {registry : Registry} {operator : String} (sorted : InOrder (registry.entries operator))

theorem resolve_congr {other : Registry} (same : other.entries operator = registry.entries operator)
    (opset : Int) : other.resolve operator opset = registry.resolve operator opset := by
  rw [resolve, resolve, same]

theorem resolve_unknown_iff :
    registry.resolve operator opset = .error (.unsupportedOperator operator) ↔
      registry.entries operator = [] := by
  unfold resolve
  cases registry.entries operator with
  | nil => simp
  | cons oldest newer =>
    dsimp only
    split <;> simp

include sorted

theorem resolve_eq_ok_iff : registry.resolve operator opset = .ok e ↔
    e ∈ registry.entries operator ∧ e.since ≤ opset ∧
      ∀ f ∈ registry.entries operator, f.since ≤ opset → f.since ≤ e.since := by
  rw [← newest?_eq_some_iff sorted]
  unfold resolve
  cases registry.entries operator with
  | nil => simp [newest?, place]
  | cons oldest newer =>
    dsimp only
    split <;> simp [*]

theorem exists_resolve_eq_ok (listed : e ∈ registry.entries operator) (early : e.since ≤ opset) :
    ∃ f, registry.resolve operator opset = .ok f := by
  cases answer : newest? (registry.entries operator) opset with
  | none =>
    have late := (newest?_eq_none_iff sorted).mp answer e listed
    omega
  | some f =>
    exact ⟨f, (resolve_eq_ok_iff sorted).mpr ((newest?_eq_some_iff sorted).mp answer)⟩

theorem resolve_early_iff :
    (∃ earliest, registry.resolve operator opset =
        .error (.unsupportedVersion operator opset earliest)) ↔
      registry.entries operator ≠ [] ∧ ∀ e ∈ registry.entries operator, opset < e.since := by
  rw [← newest?_eq_none_iff sorted]
  unfold resolve
  cases registry.entries operator with
  | nil => simp
  | cons oldest newer =>
    dsimp only
    split <;> simp [*]

end Resolve

end Registry

end ReductionIR
