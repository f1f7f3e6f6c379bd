import ReductionIR.Proofs.Soundness
/-
Reductions over axes that are known. What is inferred depends on the set of the positions that the
axes name, and on nothing else of them; one reduction after another is a reduction over the axes of
both, and a reduction that drops dims is one that keeps them with a squeeze behind it.
-/
namespace ReductionIR

open Stepwise

/-- The facts are those of a constant, and its integers are these. -/
def Facts.Holds (axes : Facts) (values : List Int) : Prop :=
  ∃ data, axes.data = some data ∧ data.integers = .ok values

theorem Facts.vector_holds (values : List Int) : (vector values).Holds values :=
  ⟨_, rfl, Dense.integers_ints values⟩

/-- An output, as the rules see it when it is an operand. -/
def Facts.ofInferred (out : Inferred) : Facts where
  dtype := out.1
  shape := out.2
  data := none

/-! Positions -/

theorem except_map_append {ε β : Type} {x y : Except ε (List β)} :
    (do return (← x) ++ (← y)) = x.bind fun bs => y.map (bs ++ ·) := by
  cases x <;> cases y <;> rfl

namespace Inference

variable {rank : Nat} {axes more : List Int}

theorem positions_append : positions rank (axes ++ more) =
    (positions rank axes).bind fun reduced =>
      (positions rank more).map (reduced ++ ·) := by
  unfold positions
  rw [List.mapM_append]
  exact except_map_append

theorem positions_ok_iff : (∃ reduced, positions rank axes = .ok reduced) ↔
    ∀ axis ∈ axes, -(rank : Int) ≤ axis ∧ axis ≤ rank - 1 := by
  constructor
  · rintro ⟨reduced, found⟩ axis member
    obtain ⟨position, _, normal⟩ :=
      exists_of_forall₂ (mapM_eq_some_iff.mp (mapM_of_positions found)) member
    have inside : ¬ (axis < -(rank : Int) ∨ (rank : Int) ≤ axis) := by
      rw [← normalizeAxis_eq_none_iff, normal]
      exact Option.some_ne_none position
    omega
  · exact positions_ok

/-! Dims -/

variable {reduced others : List Int} {dims : List Dim}

@[simp] theorem length_reducedDims_keep :
    (reducedDims true reduced dims).length = dims.length := by
  simp [reducedDims]

theorem getElem?_reducedDims_keep (i : Nat) : (reducedDims true reduced dims)[i]? =
    dims[i]?.map fun d => if reduced.contains (i : Int) then .known 1 else d := by
  simp [reducedDims, Function.comp_def]

theorem reducedDims_keep_append : reducedDims true others (reducedDims true reduced dims) =
    reducedDims true (reduced ++ others) dims := by
  apply List.ext_getElem?
  intro i
  simp only [getElem?_reducedDims_keep, Option.map_map, List.contains_iff_mem, List.mem_append]
  congr 1
  funext d
  by_cases now : (i : Int) ∈ others
  · simp [now]
  · simp [now]

theorem keepOthers_reducedDims_keep :
    keepOthers reduced (reducedDims true reduced dims) = keepOthers reduced dims := by
  simp only [keepOthers, reducedDims, ↓reduceIte]
  generalize 0 = start
  induction dims generalizing start with
  | nil => rfl
  | cons d rest ih =>
    simp only [List.zipIdx_cons, List.map_cons, List.filter_cons]
    cases reduced.contains (start : Int) with
    | true => simpa using ih (start + 1)
    | false => simpa using ih (start + 1)

theorem length_dimsReduced_drop {S : Finset Nat} (inside : ∀ i ∈ S, i < dims.length) :
    (dimsReduced S false dims).length + S.card = dims.length := by
  have left : (dimsReduced S false dims).length = dims.length - S.card := length_without inside
  have subset : S ⊆ Finset.range dims.length := fun i member =>
    Finset.mem_range.mpr (inside i member)
  have few := Finset.card_le_card subset
  rw [Finset.card_range] at few
  omega

/-- The dims that go are others no more, in the order they had. -/
theorem dimsReduced_drop_sublist (S : Finset Nat) (dims : List Dim) :
    (dimsReduced S false dims).Sublist dims := by
  have part := (List.filter_sublist (p := fun d : Dim × Nat => d.2 ∉ S) (l := dims.zipIdx)).map
    Prod.fst
  rwa [List.zipIdx_map_fst] at part

/-! Rules -/

/-- What a reduction over known axes infers for data of known rank. -/
def reducedOver (keepDims : Bool) (dtype : DType) (dims : List Dim) (values : List Int) :
    Except Fault Inferred :=
  (Fault.lift (positions dims.length values)).map fun reduced =>
    (dtype, .ranked (reducedDims keepDims reduced dims))

variable {keepDims : Bool} {dtype : DType} {values : List Int}

theorem infer_reduce_holds (kind : ReduceKind) {attributes : Fields} {data axes : Facts}
    (keeps : keepsDims attributes = keepDims) (ranked : data.shape = .ranked dims)
    (held : axes.Holds values) :
    infer kind.opType [data, axes] attributes = reducedOver keepDims data.dtype dims values := by
  obtain ⟨array, stored, integers⟩ := held
  have read : constantValues axes = .ok (some values) := by
    simp [constantValues, stored, integers, Except.map]
  rw [Reduction.infer_reduce, reduced_eq_map, keeps, ranked]
  simp only [reducedShape, read, reducedOver, Fault.lift, Except.mapError, bind, Except.bind]
  cases positions dims.length values <;> rfl

theorem reducedOver_ok_iff :
    (∃ out, reducedOver keepDims dtype dims values = .ok out) ↔
      ∀ axis ∈ values, -(dims.length : Int) ≤ axis ∧ axis ≤ dims.length - 1 := by
  rw [← positions_ok_iff]
  unfold reducedOver
  cases positions dims.length values with
  | error failure => simp [Fault.lift, Except.mapError, Except.map]
  | ok reduced => simp [Fault.lift, Except.mapError, Except.map]

/-- The axes count as a set. -/
theorem reducedOver_of_axisSet? {S : Finset Nat} (named : axisSet? dims.length values = some S) :
    reducedOver keepDims dtype dims values =
      .ok (dtype, .ranked (dimsReduced S keepDims dims)) := by
  obtain ⟨reduced, each, rfl⟩ := Option.map_eq_some_iff.mp named
  rw [reducedOver, positions_eq_ok_iff.mpr each, ← reducedDims_eq (natural_of_mapM each)]
  rfl

theorem axisSet?_of_reducedOver {out : Inferred}
    (done : reducedOver keepDims dtype dims values = .ok out) :
    ∃ S, axisSet? dims.length values = some S :=
  axisSet?_of_inside (reducedOver_ok_iff.mp ⟨out, done⟩)

/-- Axes after axes are axes, as long as no dim has gone. -/
theorem reducedOver_append (kind : ReduceKind) {keeping : Fields} (keeps : keepsDims keeping = true)
    {more : Facts} {moreValues : List Int} (held : more.Holds moreValues) :
    (do
      let out ← reducedOver true dtype dims values
      infer kind.opType [.ofInferred out, more] keeping) =
        reducedOver true dtype dims (values ++ moreValues) := by
  unfold reducedOver
  rw [positions_append]
  cases positions dims.length values with
  | error failure => rfl
  | ok reduced =>
    have next : infer kind.opType
        [.ofInferred (dtype, .ranked (reducedDims true reduced dims)), more] keeping =
          reducedOver true dtype (reducedDims true reduced dims) moreValues :=
      infer_reduce_holds kind keeps rfl held
    refine next.trans ?_
    unfold reducedOver
    rw [length_reducedDims_keep]
    cases positions dims.length moreValues with
    | error failure => rfl
    | ok others =>
      exact congrArg (fun left => Except.ok (dtype, Shape.ranked left)) reducedDims_keep_append

/-- The order of axes counts for the failure only. -/
theorem reducedOver_append_comm {moreValues : List Int} :
    (reducedOver keepDims dtype dims (values ++ moreValues)).toOption =
      (reducedOver keepDims dtype dims (moreValues ++ values)).toOption := by
  unfold reducedOver
  rw [positions_append, positions_append]
  cases positions dims.length values with
  | error failure => cases positions dims.length moreValues <;> rfl
  | ok reduced =>
    cases positions dims.length moreValues with
    | error failure => rfl
    | ok others =>
      have same : reducedDims keepDims (reduced ++ others) dims =
          reducedDims keepDims (others ++ reduced) dims := by
        simp only [reducedDims, keepOthers, List.contains_eq_mem, List.mem_append, or_comm]
      exact congrArg (fun left => some (dtype, Shape.ranked left)) same

theorem mapM_namedAxis {rank : Nat} : (values.map Value.int).mapM (namedAxis rank) =
    (positions rank values).map (·.map some) := by
  induction values with
  | nil => rfl
  | cons axis rest ih =>
    have split : positions rank (axis :: rest) =
        (positions rank [axis]).bind fun first => (positions rank rest).map (first ++ ·) := by
      rw [← positions_append, List.singleton_append]
    rw [List.map_cons, List.mapM_cons, ih, split]
    simp only [namedAxis, Value.integer?]
    cases normal : normalizeAxis axis rank with
    | none =>
      have first : positions rank [axis] = .error (.axisOutside (.int axis) rank) := by
        simp [positions, normal, bind, Except.bind]
      rw [first]
      rfl
    | some position =>
      have first : positions rank [axis] = .ok [position] :=
        positions_eq_ok_iff.mpr (by simp [normal])
      rw [first]
      cases positions rank rest <;> rfl

theorem squeezed_ranked {squeezing : Fields} (names : squeezing.find? "axes" = some (.ofInts values))
    {t : Facts} (ranked : t.shape = .ranked dims) :
    squeezed squeezing [t] = (positions dims.length values).map fun dropped =>
      (t.dtype, .ranked (keepOthers dropped dims)) := by
  have read : squeezed squeezing [t] =
      ((values.map Value.int).mapM (namedAxis dims.length)).bind fun dropped =>
        .ok (t.dtype, .ranked (keepOthers (dropped.filterMap id) dims)) := by
    unfold squeezed
    simp only [ranked, names, Option.getD_some]
    rfl
  rw [read, mapM_namedAxis]
  cases positions dims.length values with
  | error failure => rfl
  | ok dropped => simp [Except.map, Except.bind]

/-- To drop dims is to keep them first. -/
theorem reducedOver_squeeze {squeezing : Fields}
    (names : squeezing.find? "axes" = some (.ofInts values)) :
    (do
      let out ← reducedOver true dtype dims values
      infer "Squeeze" [.ofInferred out] squeezing) = reducedOver false dtype dims values := by
  unfold reducedOver
  cases found : positions dims.length values with
  | error failure => rfl
  | ok reduced =>
    have next : squeezed squeezing
        [.ofInferred (dtype, .ranked (reducedDims true reduced dims))] =
          .ok (dtype, .ranked (keepOthers reduced (reducedDims true reduced dims))) := by
      have ranks : positions (reducedDims true reduced dims).length values = .ok reduced := by
        rw [length_reducedDims_keep, found]
      rw [squeezed_ranked names rfl, ranks]
      rfl
    rw [keepOthers_reducedDims_keep] at next
    exact congrArg Fault.lift next

end Inference

open Inference in
/-- A reduction over known axes is inferred when they are in range, and then the positions that they
    name are all that counts. While the dims are kept, reductions add up, in any order; dims are
    dropped as if they were squeezed away afterwards, one for each position, and the others stay
    in order. -/
theorem static_reduction_laws (kind : ReduceKind) {data axes : Facts} {dims : List Dim}
    {values : List Int} (ranked : data.shape = .ranked dims) (held : axes.Holds values) :
    (∀ attributes, (∃ out, infer kind.opType [data, axes] attributes = .ok out) ↔
      ∀ axis ∈ values, -(dims.length : Int) ≤ axis ∧ axis ≤ dims.length - 1) ∧
    (∀ attributes others otherValues S, Facts.Holds others otherValues →
      axisSet? dims.length values = some S → axisSet? dims.length otherValues = some S →
      infer kind.opType [data, axes] attributes = infer kind.opType [data, others] attributes) ∧
    (∀ keeping more both moreValues, keepsDims keeping = true → Facts.Holds more moreValues →
      both.Holds (values ++ moreValues) →
      (do
        let out ← infer kind.opType [data, axes] keeping
        infer kind.opType [.ofInferred out, more] keeping) =
          infer kind.opType [data, both] keeping) ∧
    (∀ keeping more moreValues, keepsDims keeping = true → Facts.Holds more moreValues →
      (do
        let out ← infer kind.opType [data, axes] keeping
        infer kind.opType [.ofInferred out, more] keeping).toOption =
          (do
            let out ← infer kind.opType [data, more] keeping
            infer kind.opType [.ofInferred out, axes] keeping).toOption) ∧
    (∀ keeping dropping squeezing, keepsDims keeping = true → keepsDims dropping = false →
      Fields.find? squeezing "axes" = some (.ofInts values) →
      (do
        let out ← infer kind.opType [data, axes] keeping
        infer "Squeeze" [.ofInferred out] squeezing) =
          infer kind.opType [data, axes] dropping) ∧
    ∀ dropping out, keepsDims dropping = false →
      infer kind.opType [data, axes] dropping = .ok out →
      ∃ S left, axisSet? dims.length values = some S ∧ out = (data.dtype, .ranked left) ∧
        left.length + S.card = dims.length ∧ left = dimsReduced S false dims ∧
        left.Sublist dims := by
  have rule : ∀ {attributes others otherValues keepDims}, keepsDims attributes = keepDims →
      Facts.Holds others otherValues → infer kind.opType [data, others] attributes =
        reducedOver keepDims data.dtype dims otherValues :=
    fun keeps held => infer_reduce_holds kind keeps ranked held
  -- with kept dims a second reduction sees the same rank
  have chained : ∀ {keeping first firstValues next nextValues}, keepsDims keeping = true →
      Facts.Holds first firstValues → Facts.Holds next nextValues →
      (do
        let out ← infer kind.opType [data, first] keeping
        infer kind.opType [.ofInferred out, next] keeping) =
          reducedOver true data.dtype dims (firstValues ++ nextValues) := by
    intro keeping first firstValues next nextValues keeps one two
    rw [rule keeps one]
    exact reducedOver_append kind keeps two
  refine ⟨?_, ?_, ?_, ?_, ?_, ?_⟩
  · intro attributes
    rw [rule rfl held]
    exact reducedOver_ok_iff
  · intro attributes others otherValues S otherHeld named same
    rw [rule rfl held, rule rfl otherHeld, reducedOver_of_axisSet? named,
      reducedOver_of_axisSet? same]
  · intro keeping more both moreValues keeps moreHeld bothHeld
    rw [chained keeps held moreHeld, rule keeps bothHeld]
  · intro keeping more moreValues keeps moreHeld
    rw [chained keeps held moreHeld, chained keeps moreHeld held]
    exact reducedOver_append_comm
  · intro keeping dropping squeezing keeps drops names
    rw [rule keeps held, rule drops held]
    exact reducedOver_squeeze names
  · intro dropping out drops done
    rw [rule drops held] at done
    obtain ⟨S, named⟩ := axisSet?_of_reducedOver done
    rw [reducedOver_of_axisSet? named] at done
    refine ⟨S, _, named, (Except.ok.inj done).symm, ?_, rfl, dimsReduced_drop_sublist S dims⟩
    exact length_dimsReduced_drop (axisSet?_lt named)

/-- Data of rank 3 with one known length. -/
def Facts.partlyKnown : Facts where
  dtype := .float32
  shape := .ranked [.named "n", .anonymous, .known 4]
  data := none

/-- Four axes that name the two outer positions, each from both ends. -/
theorem outer_axes_count_once :
    infer "ReduceMax" [.partlyKnown, .vector [-1, 0, 2, -3]] [("keep_dims", .bool false)] =
        infer "ReduceMax" [.partlyKnown, .vector [2, 0]] [("keep_dims", .bool false)] ∧
      (do
        let out ← infer "ReduceMax" [.partlyKnown, .vector [-1, 0, 2, -3]] []
        infer "Squeeze" [.ofInferred out] [("axes", .ofInts [-1, 0, 2, -3])]) =
          .ok (.float32, .ranked [.anonymous]) := by
  have ranked : Facts.partlyKnown.shape = .ranked [.named "n", .anonymous, .known 4] := rfl
  obtain ⟨_, same, _, _, squeezed, _⟩ :=
    static_reduction_laws .max ranked (Facts.vector_holds [-1, 0, 2, -3])
  constructor
  · exact same _ _ [2, 0] {0, 2} (Facts.vector_holds [2, 0]) (by decide) (by decide)
  · exact (squeezed [] [("keep_dims", .bool false)] _ rfl rfl rfl).trans rfl

end ReductionIR
