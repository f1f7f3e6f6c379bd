import Mathlib
import ReductionIR.Export
import ReductionIR.Proofs.Lowered
/-
What inference says of a lowered node is true of its values. The element counts and lengths
that reductions leave are those of the reduced dims, so known dims stay right from node to
node.
-/
namespace ReductionIR

open Stepwise

/-- The lengths that a reduction leaves. -/
def lengthsReduced (positions : Finset Nat) (keepDims : Bool) (dims : List Nat) : List Nat :=
  if keepDims then dims.zipIdx.map fun d => if d.2 ∈ positions then 1 else d.1
  else lengthsWithout positions dims

/-- There is one element for each combination of positions. -/
def Concrete.Filled {α : Type} (x : Concrete α) : Prop := x.elements.length = x.dims.prod

/-- Reductions that leave the lengths they should, and filled tensors filled. -/
structure Interpretation.Lawful {α : Type} (I : Interpretation α) : Prop where
  dims_reduce : ∀ kind positions keepDims x,
    (I.reduce kind positions keepDims x).dims = lengthsReduced positions keepDims x.dims
  filled_reduce : ∀ kind positions keepDims x, x.Filled →
    (I.reduce kind positions keepDims x).Filled

/-- A dim that may be a length. -/
def Dim.Describes (d : Dim) (n : Nat) : Prop := ∀ k, d = .known k → k = n

def Shape.Describes (s : Shape) (lengths : List Nat) : Prop :=
  ∀ dims, s = .ranked dims → List.Forall₂ Dim.Describes dims lengths

/-- Dims that stand in a relation to lengths; nothing is said of an unknown rank. -/
def Shape.Relates (R : Dim → Nat → Prop) (s : Shape) (lengths : List Nat) : Prop :=
  ∀ dims, s = .ranked dims → List.Forall₂ R dims lengths

/-- A shape that a model file can hold. -/
def Shape.Storable (s : Shape) : Prop :=
  ∀ dims, s = .ranked dims → ∀ d ∈ dims, Export.isStorable d = true

/-- What is known of a tensor is true of a value. -/
structure Tensor.Describes {α : Type} (I : Interpretation α) (t : Tensor) (x : Concrete α) :
    Prop where
  shape : t.shape.Describes x.dims
  data : ∀ data, t.data = some data → x = I.stored data

/-! Lengths -/

section Lengths

variable {positions : Finset Nat} {dims : List Dim} {lengths : List Nat}

theorem forall₂_zipIdx {β γ : Type} {R : β → γ → Prop} {bs : List β} {cs : List γ}
    (each : List.Forall₂ R bs cs) (k : Nat) :
    List.Forall₂ (fun b c : _ × Nat => R b.1 c.1 ∧ b.2 = c.2) (bs.zipIdx k) (cs.zipIdx k) := by
  induction each generalizing k with
  | nil => exact .nil
  | cons first _ ih => exact .cons ⟨first, rfl⟩ (ih (k + 1))

theorem forall₂_filter {β γ : Type} {R : β → γ → Prop} {p : β → Bool} {q : γ → Bool}
    {bs : List β} {cs : List γ} (each : List.Forall₂ R bs cs)
    (same : ∀ b c, R b c → p b = q c) : List.Forall₂ R (bs.filter p) (cs.filter q) := by
  induction each with
  | nil => exact .nil
  | @cons b c bs cs first _ ih =>
    rw [List.filter_cons, List.filter_cons, same b c first]
    split
    · exact .cons first ih
    · exact ih

theorem contains_iff_mem {reduced : List Int} (natural : ∀ n ∈ reduced, 0 ≤ n) (i : Nat) :
    reduced.contains (i : Int) = true ↔ i ∈ (reduced.map Int.toNat).toFinset := by
  rw [List.contains_iff_mem, List.mem_toFinset, List.mem_map]
  constructor
  · intro member
    exact ⟨i, member, by simp⟩
  · rintro ⟨n, member, rfl⟩
    rwa [Int.toNat_of_nonneg (natural n member)]

/-- The dims that inference leaves go with the lengths that are left, as long as 1 goes with 1. -/
theorem relates_reducedDims {R : Dim → Nat → Prop} (unit : R (.known 1) 1) {reduced : List Int}
    (natural : ∀ n ∈ reduced, 0 ≤ n) (named : (reduced.map Int.toNat).toFinset = positions)
    (each : List.Forall₂ R dims lengths) (keepDims : Bool) :
    List.Forall₂ R (Inference.reducedDims keepDims reduced dims)
      (lengthsReduced positions keepDims lengths) := by
  -- positions run along with dims and lengths
  have indexed := forall₂_zipIdx each 0
  have member : ∀ i : Nat, reduced.contains (i : Int) = decide (i ∈ positions) := by
    intro i
    rw [Bool.eq_iff_iff, contains_iff_mem natural, named, decide_eq_true_iff]
  cases keepDims with
  | true =>
    simp only [Inference.reducedDims, lengthsReduced, ↓reduceIte, List.forall₂_map_left_iff,
      List.forall₂_map_right_iff]
    refine indexed.imp ?_
    rintro ⟨d, i⟩ ⟨n, j⟩ ⟨first, same⟩
    dsimp only at first same ⊢
    subst same
    rw [member]
    by_cases inside : i ∈ positions
    · simpa [inside] using unit
    · simpa [inside] using first
  | false =>
    simp only [Inference.reducedDims, lengthsReduced, Bool.false_eq_true, ↓reduceIte,
      Inference.keepOthers, lengthsWithout, List.forall₂_map_left_iff,
      List.forall₂_map_right_iff]
    refine (forall₂_filter indexed ?_).imp fun _ _ both => both.1
    rintro ⟨d, i⟩ ⟨n, j⟩ ⟨_, same⟩
    dsimp only at same ⊢
    rw [member, same]
    by_cases inside : j ∈ positions <;> simp [inside]

theorem length_lengthsReduced_keep : (lengthsReduced positions true lengths).length =
    lengths.length := by
  simp [lengthsReduced]

theorem length_without {β : Type} {bs : List β} (inside : ∀ i ∈ positions, i < bs.length) :
    ((bs.zipIdx.filter fun b => b.2 ∉ positions).map Prod.fst).length =
      bs.length - positions.card := by
  have kept : ((bs.zipIdx.filter fun b => b.2 ∉ positions).map Prod.fst).length =
      ((List.range bs.length).filter fun i => i ∉ positions).length := by
    have indices : bs.zipIdx.map Prod.snd = List.range bs.length := by
      rw [List.zipIdx_map_snd, List.range_eq_range']
    rw [List.length_map, ← indices, List.filter_map, List.length_map]
    rfl
  have card : ((List.range bs.length).filter fun i => i ∉ positions).toFinset =
      Finset.range bs.length \ positions := by
    ext i
    simp
  have nodup := (List.nodup_range (n := bs.length)).filter fun i => i ∉ positions
  have subset : positions ⊆ Finset.range bs.length := by
    intro i member
    exact Finset.mem_range.mpr (inside i member)
  rw [kept, ← List.toFinset_card_of_nodup nodup, card, Finset.card_sdiff_of_subset subset,
    Finset.card_range]

theorem length_lengthsWithout (inside : ∀ i ∈ positions, i < lengths.length) :
    (lengthsWithout positions lengths).length = lengths.length - positions.card :=
  length_without inside

end Lengths

/-! Elementwise steps -/

namespace Reduction

variable {α : Type} {I : Interpretation α} {r : Reduction} {x : Concrete α}

@[simp] theorem dims_before : (r.before I x).dims = x.dims := by
  cases r <;> rfl

@[simp] theorem dims_after : (r.after I x).dims = x.dims := by
  cases r <;> rfl

theorem filled_before (filled : x.Filled) : (r.before I x).Filled := by
  unfold Concrete.Filled at filled ⊢
  cases r <;> simp [before, Concrete.map, filled]

theorem filled_after (filled : x.Filled) : (r.after I x).Filled := by
  unfold Concrete.Filled at filled ⊢
  cases r <;> simp [after, Concrete.map, filled]

end Reduction

namespace Shape

theorem broadcastAligned_self (dims : List Dim) : broadcastAligned dims dims = some dims := by
  induction dims with
  | nil => rfl
  | cons d rest ih => simp [broadcastAligned, Dim.broadcast_self, ih]

theorem broadcast_self (s : Shape) : s.broadcast s = some s := by
  cases s with
  | unknownRank => rfl
  | ranked dims => simp [broadcast, broadcastAligned_self]

end Shape

theorem Tensor.Describes.elementwise {α : Type} {I : Interpretation α} {t u : Tensor}
    {x y : Concrete α} (describes : t.Describes I x) (shape : u.shape = t.shape)
    (unstored : u.data = none) (dims : y.dims = x.dims) : u.Describes I y where
  shape := by
    rw [shape, dims]
    exact describes.shape
  data := by
    intro data held
    rw [unstored] at held
    contradiction

namespace Reduction

variable {α : Type} {I : Interpretation α} {r : Reduction} {x : Concrete α} {ctx : Context}
  {d d' : Draft} {t u : Tensor}

theorem infer_unary (kind : OpKind) (elementwise : kind = .exp ∨ kind = .log) (t : Facts) :
    infer kind.opType [t] [] = .ok (t.dtype, t.shape) := by
  rcases elementwise with rfl | rfl <;> rfl

theorem infer_square (t : Facts) : infer "Multiply" [t, t] [] = .ok (t.dtype, t.shape) := by
  have product : infer "Multiply" [t, t] [] = Fault.lift (Inference.product [t, t]) := rfl
  rw [product, Inference.product, Shape.broadcast_self]
  simp only [ite_self]
  rfl

/-- The step before the core keeps the shape, and makes nothing that is stored. -/
theorem prepare_shape (done : r.prepare ctx t d = .ok u d') :
    u = t ∧ (∀ {α : Type} (I : Interpretation α) x, r.before I x = x) ∨
      u.shape = t.shape ∧ u.data = none := by
  cases r
  case logSumExp =>
    obtain ⟨inferred, unstored⟩ := Draft.make_inferred done
    have same := Except.ok.inj (inferred.symm.trans (infer_unary .exp (Or.inl rfl) t.toFacts))
    exact Or.inr ⟨(Prod.mk.inj same).2, unstored⟩
  case sumSquare =>
    obtain ⟨inferred, unstored⟩ := Draft.make_inferred done
    have same := Except.ok.inj (inferred.symm.trans (infer_square t.toFacts))
    exact Or.inr ⟨(Prod.mk.inj same).2, unstored⟩
  all_goals
    cases done
    exact Or.inl ⟨rfl, fun _ _ => rfl⟩

theorem prepare_describes (done : r.prepare ctx t d = .ok u d') (describes : t.Describes I x) :
    u.Describes I (r.before I x) := by
  rcases prepare_shape done with ⟨rfl, same⟩ | ⟨shape, unstored⟩
  · rwa [same]
  · exact describes.elementwise shape unstored dims_before

theorem finish_shape (done : r.finish ctx t d = .ok u d') :
    u = t ∧ (∀ {α : Type} (I : Interpretation α) x, r.after I x = x) ∨
      u.shape = t.shape ∧ u.data = none := by
  have logged : ∀ {d d' : Draft}, ctx.make "Log" [t] [] d = .ok u d' →
      u.shape = t.shape ∧ u.data = none := by
    intro d d' made
    obtain ⟨inferred, unstored⟩ := Draft.make_inferred made
    have same := Except.ok.inj (inferred.symm.trans (infer_unary .log (Or.inr rfl) t.toFacts))
    exact ⟨(Prod.mk.inj same).2, unstored⟩
  cases r
  case logSum => exact Or.inr (logged done)
  case logSumExp => exact Or.inr (logged done)
  all_goals
    cases done
    exact Or.inl ⟨rfl, fun _ _ => rfl⟩

theorem finish_describes (done : r.finish ctx t d = .ok u d') (describes : t.Describes I x) :
    u.Describes I (r.after I x) := by
  rcases finish_shape done with ⟨rfl, same⟩ | ⟨shape, unstored⟩
  · rwa [same]
  · exact describes.elementwise shape unstored dims_after

end Reduction

/-! The core -/

namespace Inference

theorem mapM_of_positions {rank : Nat} {axes reduced : List Int}
    (done : positions rank axes = .ok reduced) :
    axes.mapM (fun axis => normalizeAxis axis rank) = some reduced := by
  unfold positions at done
  induction axes generalizing reduced with
  | nil =>
    cases done
    rfl
  | cons axis rest ih =>
    rw [List.mapM_cons] at done ⊢
    cases first : normalizeAxis axis rank with
    | none =>
      rw [first] at done
      contradiction
    | some n =>
      rw [first] at done
      obtain ⟨m, normal, done⟩ := except_bind_eq_ok_iff.mp done
      cases normal
      obtain ⟨later, others, done⟩ := except_bind_eq_ok_iff.mp done
      cases done
      rw [ih others]
      rfl

theorem natural_of_mapM {rank : Nat} {axes reduced : List Int}
    (each : axes.mapM (fun axis => normalizeAxis axis rank) = some reduced) :
    ∀ n ∈ reduced, 0 ≤ n := by
  intro n member
  obtain ⟨axis, _, normal⟩ := exists_of_mapM each member
  exact (normalizeAxis_bounds normal).1

theorem constantValues_cases {t : Facts} {values? : Option (List Int)}
    (done : constantValues t = .ok values?) :
    t.data = none ∧ values? = none ∨
      ∃ a values, t.data = some a ∧ a.integers = .ok values ∧ values? = some values := by
  unfold constantValues at done
  cases held : t.data with
  | none =>
    rw [held] at done
    exact Or.inl ⟨rfl, (Except.ok.inj done).symm⟩
  | some a =>
    simp only [held] at done
    cases integers : a.integers with
    | error failure => simp [integers, Except.map] at done
    | ok values =>
      simp only [integers, Except.map, Except.ok.injEq] at done
      exact Or.inr ⟨a, values, rfl, integers, done.symm⟩

/-- Axes that are not known leave open dims, as many as their number says, or an unknown
    rank. -/
theorem openReduction_cases {keepDims : Bool} {rank : Nat} {axes shape : Shape}
    (done : openReduction keepDims rank axes = .ok shape) :
    keepDims = true ∧ shape = .dynamic rank ∨
      (∃ count : Int, keepDims = false ∧ axes = .ranked [.known count] ∧ count ≤ rank ∧
        shape = .dynamic (rank - count).toNat) ∨
      shape = .unknownRank := by
  unfold openReduction at done
  split at done
  · rename_i keeps
    exact Or.inl ⟨keeps, (Except.ok.inj done).symm⟩
  · rename_i drops
    split at done
    · rename_i count
      split at done
      · contradiction
      · rename_i few
        exact Or.inr (Or.inl ⟨count, by simpa using drops, rfl, Int.not_lt.mp few,
          (Except.ok.inj done).symm⟩)
    · exact Or.inr (Or.inr (Except.ok.inj done).symm)

theorem reduced_cases {attributes : Fields} {p o : Facts} {inferred : Inferred}
    (done : reduced attributes [p, o] = .ok inferred) :
    let keepDims := ((attributes.find? "keep_dims").getD (.bool true)).holds
    inferred.2 = .unknownRank ∨ ∃ dims, p.shape = .ranked dims ∧
      (o.data = none ∧ openReduction keepDims dims.length o.shape = .ok inferred.2 ∨
        ∃ a values axes, o.data = some a ∧ a.integers = .ok values ∧
          positions dims.length values = .ok axes ∧
          inferred.2 = .ranked (reducedDims keepDims axes dims)) := by
  intro keepDims
  unfold reduced at done
  dsimp only at done
  split at done
  · cases done
    exact Or.inl rfl
  · rename_i dims shape
    obtain ⟨values?, found, done⟩ := except_bind_eq_ok_iff.mp done
    refine Or.inr ⟨dims, shape, ?_⟩
    rcases constantValues_cases (lift_eq_ok_iff.mp found) with
      ⟨unknown, rfl⟩ | ⟨a, values, held, integers, rfl⟩
    · obtain ⟨left, opened, done⟩ := except_bind_eq_ok_iff.mp done
      cases done
      exact Or.inl ⟨unknown, opened⟩
    · obtain ⟨axes, positioned, done⟩ := except_bind_eq_ok_iff.mp done
      cases done
      exact Or.inr ⟨a, values, axes, held, integers, lift_eq_ok_iff.mp positioned, rfl⟩

section Relations

variable {R : Dim → Nat → Prop}

theorem relates_dynamic (open_ended : ∀ n, R .anonymous n) {lengths : List Nat} {rank : Nat}
    (same : lengths.length = rank) : (Shape.dynamic rank).Relates R lengths := by
  intro dims shape
  cases shape
  subst same
  induction lengths with
  | nil => exact .nil
  | cons n rest ih => exact .cons (open_ended n) ih

theorem relates_unknownRank (lengths : List Nat) : Shape.unknownRank.Relates R lengths :=
  fun _ shape => nomatch shape

theorem openReduction_relates (open_ended : ∀ n, R .anonymous n) {keepDims : Bool}
    {axes shape : Shape} {lengths : List Nat} {S : Finset Nat}
    (done : openReduction keepDims lengths.length axes = .ok shape)
    (inside : ∀ i ∈ S, i < lengths.length)
    (counted : keepDims = false → ∀ count, axes = .ranked [.known count] → count = S.card) :
    shape.Relates R (lengthsReduced S keepDims lengths) := by
  rcases openReduction_cases done with ⟨rfl, rfl⟩ | ⟨count, rfl, listed, few, rfl⟩ | rfl
  · exact relates_dynamic open_ended length_lengthsReduced_keep
  · have many := counted rfl count listed
    have left := length_lengthsWithout inside
    refine relates_dynamic open_ended ?_
    rw [lengthsReduced, if_neg (by decide), left, many]
    omega
  · exact relates_unknownRank _

/-- What inference says of a reduction, when it can rely on fixed axes, or on the number of
    axes that are known at run time only. -/
theorem reduced_relates (unit : R (.known 1) 1) (open_ended : ∀ n, R .anonymous n)
    {p o : Facts} {keepDims : Bool} {inferred : Inferred} {lengths : List Nat} {S : Finset Nat}
    (done : reduced [("keep_dims", .bool keepDims)] [p, o] = .ok inferred)
    (describes : p.shape.Relates R lengths)
    (inside : ∀ i ∈ S, i < lengths.length)
    (fixed : ∀ a values, o.data = some a → a.integers = .ok values →
      axisSet? lengths.length values = some S)
    (counted : o.data = none → keepDims = false → ∀ count, o.shape = .ranked [.known count] →
      count = S.card) :
    inferred.2.Relates R (lengthsReduced S keepDims lengths) := by
  rcases reduced_cases done with unknown | ⟨dims, shape, known⟩
  · rw [unknown]
    exact relates_unknownRank _
  · have each := describes dims shape
    rw [each.length_eq] at known
    rcases known with ⟨unstored, opened⟩ | ⟨a, values, axes, held, integers, positioned, left⟩
    · exact openReduction_relates open_ended opened inside (counted unstored)
    · have each_axis := mapM_of_positions positioned
      have named := fixed a values held integers
      rw [axisSet?, each_axis, Option.map_some, Option.some.injEq] at named
      intro result ranked
      cases left.symm.trans ranked
      exact relates_reducedDims unit (natural_of_mapM each_axis) named each keepDims

end Relations

theorem describes_dynamic {lengths : List Nat} {rank : Nat} (same : lengths.length = rank) :
    (Shape.dynamic rank).Describes lengths :=
  relates_dynamic (fun _ _ known => nomatch known) same

end Inference

/-! Axes -/

/-- No axis is named twice, also not in two ways. -/
def NamesOnce (rank : Nat) (axes : List Int) : Prop :=
  ((axes.mapM fun axis => normalizeAxis axis rank).getD []).Nodup

theorem card_of_namesOnce {rank : Nat} {axes : List Int} {S : Finset Nat}
    (named : axisSet? rank axes = some S) (once : NamesOnce rank axes) :
    S.card = axes.length := by
  obtain ⟨reduced, each, rfl⟩ := Option.map_eq_some_iff.mp named
  have natural := Inference.natural_of_mapM each
  rw [NamesOnce, each, Option.getD_some] at once
  have nodup : (reduced.map Int.toNat).Nodup := by
    refine List.Nodup.map_on ?_ once
    intro m first n second same
    have low := natural m first
    have also := natural n second
    omega
  rw [List.toFinset_card_of_nodup nodup, List.length_map,
    (mapM_eq_some_iff.mp each).length_eq]

section Constants

variable {α : Type} (I : Interpretation α)

theorem integers_of_stored {a : Dense} {values : List Int}
    (held : I.integers? (I.stored a) = some values) : a.integers = .ok values := by
  unfold Interpretation.integers? Interpretation.stored at held
  rw [List.mapM_map] at held
  unfold Dense.integers
  generalize a.elements = elements at held
  induction elements generalizing values with
  | nil =>
    cases held
    rfl
  | cons v rest ih =>
    rw [List.mapM_cons] at held ⊢
    simp only [bind, Option.bind_eq_some_iff, pure, Option.some.injEq, Function.comp_apply,
      I.integer?_literal] at held
    obtain ⟨n, item, later, others, rfl⟩ := held
    rw [ih others]
    cases v <;> simp [Attribute.intItem?] at item
    subst item
    rfl

end Constants

namespace Reduction

variable {α : Type} {I : Interpretation α} {r : Reduction} {x : Concrete α} {ctx : Context}
  {d d' : Draft} {t u : Tensor}

theorem infer_reduce (kind : ReduceKind) (operands : List Facts) (attributes : Fields) :
    infer kind.opType operands attributes = Inference.reduced attributes operands := by
  cases kind <;> rfl

/-- The core is described when its axes are fixed or counted. -/
theorem core_describes (lawful : I.Lawful) {keepDims : Bool} {operand : Tensor} {S : Finset Nat}
    (done : ctx.make r.kernel.opType [t, operand] [("keep_dims", .bool keepDims)] d = .ok u d')
    (describes : t.Describes I x) (inside : ∀ i ∈ S, i < x.rank)
    (fixed : ∀ a values, operand.data = some a → a.integers = .ok values →
      axisSet? x.rank values = some S)
    (counted : operand.data = none → keepDims = false → ∀ count,
      operand.shape = .ranked [.known count] → count = S.card) :
    u.Describes I (I.reduce r.kernel S keepDims x) := by
  obtain ⟨inferred, unstored⟩ := Draft.make_inferred done
  rw [infer_reduce] at inferred
  refine ⟨?_, ?_⟩
  · rw [lawful.dims_reduce]
    refine Inference.reduced_relates ?_ (fun _ _ known => nomatch known) inferred describes.shape
      inside fixed counted
    exact fun k known => (Dim.known.inj known).symm
  · intro data held
    rw [unstored] at held
    contradiction

theorem rank_eq_of_describes {rank : Nat} (describes : t.Describes I x)
    (known : t.rank? = some rank) : x.rank = rank := by
  obtain ⟨dims, ranked, rfl⟩ := Shape.rank?_eq_some_iff.mp known
  exact (describes.shape dims ranked).length_eq.symm

theorem count_of_describes {a : Concrete α} {values : List Int} {count : Int}
    (describes : t.Describes I a) (filled : a.Filled) (held : I.integers? a = some values)
    (shape : t.shape = .ranked [.known count]) : count = values.length := by
  have each := describes.shape _ shape
  cases dims : a.dims with
  | nil =>
    rw [dims] at each
    contradiction
  | cons n rest =>
    rw [dims] at each
    cases each with
    | cons first others =>
      cases others
      rw [first count rfl, ← (mapM_eq_some_iff.mp held).length_eq, filled, dims]
      simp

/-- What is asked of run-time axes: they are as their tensor says and, where their number alone
    decides the rank of the result, no axis is named twice. -/
def AxesFit (I : Interpretation α) (keepDims : Bool) (rank : Nat) (operand? : Option Tensor)
    (axes? : Option (Concrete α)) : Prop :=
  ∀ u, operand? = some u → ∃ a, axes? = some a ∧ u.Describes I a ∧ a.Filled ∧
    (u.data = none → keepDims = false → ∀ values, I.integers? a = some values →
      NamesOnce rank values)

section Forms

variable {keepDims : Bool} {S : Finset Nat} {z : Concrete α}

theorem fixed_describes (lawful : I.Lawful) {values : List Int}
    (done : r.reduce ctx keepDims (.fixed values) t d = .ok u d') (describes : t.Describes I z)
    (positions : axisSet? z.rank values = some S) :
    u.Describes I (I.reduce r.kernel S keepDims z) := by
  obtain ⟨operand, d₁, encoded, made⟩ := bind_eq_ok_iff.mp done
  obtain ⟨a, ints, held⟩ := Draft.constant_data encoded
  obtain rfl := Dense.ofInts_eq_ok ints
  have read : Dense.integers ⟨.int64, [values.length], values.map .int⟩ = .ok values :=
    integers_of_stored I (I.integers?_stored rfl)
  refine core_describes lawful made describes (axisSet?_lt positions) ?_ ?_
  · intro b found also integers
    rw [held, Option.some.injEq] at also
    subst also
    rw [read, Except.ok.injEq] at integers
    exact integers ▸ positions
  · intro unstored
    rw [held] at unstored
    contradiction

/-- Axes at run time are read off their value, whether they are stored or not. -/
theorem given_describes (lawful : I.Lawful) {v : Tensor} {a : Concrete α} {values : List Int}
    (done : r.reduce ctx keepDims (.given v) t d = .ok u d') (describes : t.Describes I z)
    (ofAxes : v.Describes I a) (filled : a.Filled) (held : I.integers? a = some values)
    (positions : axisSet? z.rank values = some S)
    (once : v.data = none → keepDims = false → NamesOnce z.rank values) :
    u.Describes I (I.reduce r.kernel S keepDims z) := by
  obtain ⟨operand, d₁, encoded, made⟩ := bind_eq_ok_iff.mp done
  cases encoded
  refine core_describes lawful made describes (axisSet?_lt positions) ?_ ?_
  · intro b found stored integers
    rw [ofAxes.data b stored] at held
    rw [integers_of_stored I held, Except.ok.injEq] at integers
    exact integers ▸ positions
  · intro unstored drops count shape
    rw [card_of_namesOnce positions (once unstored drops)]
    exact count_of_describes ofAxes filled held shape

theorem synthesized_describes (lawful : I.Lawful) {v : Tensor}
    (done : r.reduce ctx keepDims (.synthesized v) t d = .ok u d') (describes : t.Describes I z)
    (shape : v.shape = .ranked [.anonymous]) (unstored : v.data = none) :
    u.Describes I (I.reduce r.kernel (Finset.range z.rank) keepDims z) := by
  obtain ⟨operand, d₁, encoded, made⟩ := bind_eq_ok_iff.mp done
  cases encoded
  refine core_describes lawful made describes (fun i => Finset.mem_range.mp) ?_ ?_
  · intro a found stored
    rw [unstored] at stored
    contradiction
  · intro _ _ count listed
    rw [shape] at listed
    cases listed

end Forms

/-- The reduced tensor, for each of the forms of axes. -/
theorem reduce_describes (lawful : I.Lawful) {keepDims : Bool} {axes : Axes} {reading : Reading}
    {data : Tensor} {d₀ d₁ : Draft} {axes? : Option (Concrete α)} {named : Option (Finset Nat)}
    (done : r.reduce ctx keepDims axes t d = .ok u d')
    (resolved : Axes.Resolved ctx data d₀ d₁ reading axes) (ofData : data.Describes I x)
    {z : Concrete α} (describes : t.Describes I z) (same : z.rank = x.rank)
    (fit : reading = .operand → AxesFit I keepDims x.rank (ctx.operand? 1) axes?)
    (names : reading.axes? I x.rank axes? = some named) :
    u.Describes I (r.core I keepDims named z) := by
  cases axes with
  | none =>
    obtain ⟨_, rfl⟩ := resolved
    cases names
    cases done
    exact describes
  | fixed values =>
    obtain ⟨S, rfl, positions⟩ : ∃ S, named = some S ∧ axisSet? x.rank values = some S := by
      obtain ⟨_, rfl | ⟨rfl, rank, known, rfl⟩⟩ := resolved
      · obtain ⟨S, positions, rfl⟩ := Option.map_eq_some_iff.mp names
        exact ⟨S, rfl, positions⟩
      · cases names
        rw [← rank_eq_of_describes ofData known]
        exact ⟨_, rfl, axisSet?_range x.rank⟩
    exact fixed_describes lawful done describes (same ▸ positions)
  | given v =>
    obtain ⟨_, rfl, there, _⟩ := resolved
    obtain ⟨a, rfl, ofAxes, filled, once⟩ := fit rfl v there
    obtain ⟨values, held, names⟩ := Option.bind_eq_some_iff.mp names
    obtain ⟨S, positions, rfl⟩ := Option.map_eq_some_iff.mp names
    exact given_describes lawful done describes ofAxes filled held (same ▸ positions)
      fun unstored drops => same ▸ once unstored drops values held
  | synthesized v =>
    obtain ⟨rfl, _, _, _, _, _, _, drafted⟩ := resolved
    cases names
    rw [← same]
    exact synthesized_describes lawful done describes drafted.shape_eq drafted.unstored

/-- A lowering hands out a tensor that describes what its node means. -/
theorem lower_describes (lawful : I.Lawful) {out data : Tensor} {keep : Int} {reading : Reading}
    {axes? : Option (Concrete α)} {y : Concrete α}
    (done : r.lower (r.entryAt ctx.node.opset).toRegime ctx d = .ok out d')
    (operand : ctx.operand? 0 = some data)
    (found : ctx.node.attributes.int "keepdims" 1 = .ok keep)
    (reads : r.reading ctx.node.opset ctx.node.attributes (Axes.emptiness ctx) = .ok reading)
    (describes : data.Describes I x) (filled : x.Filled)
    (fit : reading = .operand → AxesFit I (keep != 0) x.rank (ctx.operand? 1) axes?)
    (means : r.meaning? I (keep != 0) reading x axes? = some y) :
    out.Describes I y ∧ y.Filled := by
  obtain ⟨data', keep', axes, prepared, reduced, d₁, d₂, d₃, operand', found', resolved, opened,
    core, closed⟩ := lower_ok done
  obtain ⟨reading', reads', resolved⟩ := Axes.resolve_ok resolved
  rw [operand, Option.some.injEq] at operand'
  rw [found, Except.ok.injEq] at found'
  rw [reads, Except.ok.injEq] at reads'
  subst operand' found' reads'
  obtain ⟨named, names, rfl⟩ := Option.map_eq_some_iff.mp means
  have ofPrepared := prepare_describes opened describes
  have ofReduced := reduce_describes lawful core resolved describes ofPrepared
    (r.rank_before I x) fit names
  refine ⟨finish_describes closed ofReduced, filled_after ?_⟩
  cases named with
  | none => exact filled_before filled
  | some S => exact lawful.filled_reduce _ _ _ _ (filled_before filled)

end Reduction

/-! Shapes that a file can hold -/

namespace Inference

theorem storable_dynamic (rank : Nat) : (Shape.dynamic rank).Storable := by
  intro dims shape
  cases shape
  intro d member
  rw [List.eq_of_mem_replicate member]
  rfl

theorem storable_unknownRank : Shape.unknownRank.Storable := fun _ shape => nomatch shape

theorem storable_reducedDims {keepDims : Bool} {reduced : List Int} {dims : List Dim}
    (storable : ∀ d ∈ dims, Export.isStorable d = true) :
    ∀ d ∈ reducedDims keepDims reduced dims, Export.isStorable d = true := by
  intro d member
  cases keepDims with
  | true =>
    simp only [reducedDims, ↓reduceIte, List.mem_map] at member
    obtain ⟨⟨e, i⟩, there, rfl⟩ := member
    split
    · rfl
    · exact storable e (List.fst_mem_of_mem_zipIdx there)
  | false =>
    simp only [reducedDims, Bool.false_eq_true, ↓reduceIte, keepOthers, List.mem_map,
      List.mem_filter] at member
    obtain ⟨⟨e, i⟩, ⟨there, _⟩, rfl⟩ := member
    exact storable e (List.fst_mem_of_mem_zipIdx there)

theorem storable_openReduction {keepDims : Bool} {rank : Nat} {axes shape : Shape}
    (done : openReduction keepDims rank axes = .ok shape) : shape.Storable := by
  rcases openReduction_cases done with ⟨_, rfl⟩ | ⟨count, _, _, _, rfl⟩ | rfl
  · exact storable_dynamic _
  · exact storable_dynamic _
  · exact storable_unknownRank

theorem reduced_storable {attributes : Fields} {p o : Facts} {inferred : Inferred}
    (done : reduced attributes [p, o] = .ok inferred) (storable : p.shape.Storable) :
    inferred.2.Storable := by
  rcases reduced_cases done with unknown | ⟨dims, shape, ⟨_, opened⟩ | ⟨_, _, axes, _, _, _, left⟩⟩
  · rw [unknown]
    exact storable_unknownRank
  · exact storable_openReduction opened
  · intro result ranked
    cases left.symm.trans ranked
    exact storable_reducedDims (storable dims shape)

end Inference

/-- A lowering of data that a file can hold hands out such data. -/
theorem Reduction.lower_storable {r : Reduction} {regime : Regime} {ctx : Context}
    {d d' : Draft} {out data : Tensor} (done : r.lower regime ctx d = .ok out d')
    (operand : ctx.operand? 0 = some data) (storable : data.shape.Storable) :
    out.shape.Storable := by
  obtain ⟨data', keep, axes, prepared, reduced, d₁, d₂, d₃, operand', _, _, opened, core,
    closed⟩ := lower_ok done
  obtain rfl : data = data' := Option.some.inj (operand.symm.trans operand')
  have ofPrepared : prepared.shape.Storable := by
    rcases prepare_shape opened with ⟨rfl, _⟩ | ⟨shape, _⟩
    · exact storable
    · exact shape ▸ storable
  have ofReduced : reduced.shape.Storable := by
    unfold reduce at core
    split at core
    · cases core
      exact ofPrepared
    · obtain ⟨axesOperand, _, _, made⟩ := bind_eq_ok_iff.mp core
      obtain ⟨inferred, _⟩ := Draft.make_inferred made
      rw [infer_reduce] at inferred
      exact Inference.reduced_storable inferred ofPrepared
  rcases finish_shape closed with ⟨rfl, _⟩ | ⟨shape, _⟩
  · exact ofReduced
  · exact shape ▸ ofReduced

end ReductionIR
