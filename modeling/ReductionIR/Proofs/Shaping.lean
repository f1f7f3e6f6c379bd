import ReductionIR.Proofs.Describing
/-
What a lowering says of its result. The element type is that of the data; the shape is what the
core makes of the shape of the data and of what is known of the axes, for the elementwise steps
around it keep both.
-/
namespace ReductionIR

open Stepwise

/-- The dims that a reduction over some positions leaves. -/
def dimsReduced (positions : Finset Nat) (keepDims : Bool) (dims : List Dim) : List Dim :=
  if keepDims then dims.zipIdx.map fun d => if d.2 ∈ positions then .known 1 else d.1
  else (dims.zipIdx.filter fun d => d.2 ∉ positions).map Prod.fst

namespace Inference

/-- The shape that a reduction leaves, given what is known of its axes. -/
def reducedShape (keepDims : Bool) (shape : Shape) (axes : Facts) : Except Fault Shape :=
  match shape with
  | .unknownRank => .ok .unknownRank
  | .ranked dims => do
    match ← Fault.lift (constantValues axes) with
    | none => openReduction keepDims dims.length axes.shape
    | some values =>
      let reduced ← Fault.lift (positions dims.length values)
      return .ranked (reducedDims keepDims reduced dims)

/-- Do the attributes keep the dims that are reduced? They do when they say nothing. -/
def keepsDims (attributes : Fields) : Bool :=
  ((attributes.find? "keep_dims").getD (.bool true)).holds

/-- Inference looks at nothing else of the data, and keeps its element type. -/
theorem reduced_eq_map (attributes : Fields) (data axes : Facts) :
    reduced attributes [data, axes] =
      (reducedShape (keepsDims attributes) data.shape axes).map fun shape =>
        (data.dtype, shape) := by
  unfold reduced reducedShape
  dsimp only
  rw [← keepsDims]
  cases data.shape with
  | unknownRank => rfl
  | ranked dims =>
    dsimp only
    cases Fault.lift (constantValues axes) with
    | error fault => rfl
    | ok values? =>
      cases values? with
      | none =>
        dsimp only [bind, Except.bind]
        cases openReduction (keepsDims attributes) dims.length axes.shape <;> rfl
      | some values =>
        dsimp only [bind, Except.bind]
        cases Fault.lift (positions dims.length values) <;> rfl

theorem reduced_eq (keepDims : Bool) (data axes : Facts) :
    reduced [("keep_dims", .bool keepDims)] [data, axes] =
      (reducedShape keepDims data.shape axes).map fun shape => (data.dtype, shape) :=
  reduced_eq_map [("keep_dims", .bool keepDims)] data axes

theorem reduced_eq_ok_iff {keepDims : Bool} {data axes : Facts} {inferred : Inferred} :
    reduced [("keep_dims", .bool keepDims)] [data, axes] = .ok inferred ↔
      inferred.1 = data.dtype ∧ reducedShape keepDims data.shape axes = .ok inferred.2 := by
  rw [reduced_eq]
  obtain ⟨dtype, shape⟩ := inferred
  cases reducedShape keepDims data.shape axes with
  | error fault => simp [Except.map]
  | ok left => simp [Except.map, eq_comm]

theorem reducedDims_eq {reduced : List Int} (natural : ∀ n ∈ reduced, 0 ≤ n) (keepDims : Bool)
    (dims : List Dim) :
    reducedDims keepDims reduced dims =
      dimsReduced (reduced.map Int.toNat).toFinset keepDims dims := by
  have member : ∀ i : Nat, reduced.contains (i : Int) =
      decide (i ∈ (reduced.map Int.toNat).toFinset) := by
    intro i
    rw [Bool.eq_iff_iff, contains_iff_mem natural, decide_eq_true_iff]
  unfold reducedDims keepOthers dimsReduced
  cases keepDims with
  | true => simp only [member, decide_eq_true_eq, ↓reduceIte]
  | false => simp only [member, Bool.false_eq_true, ↓reduceIte, decide_not]

theorem positions_eq_ok_iff {rank : Nat} {axes reduced : List Int} :
    positions rank axes = .ok reduced ↔
      axes.mapM (fun axis => normalizeAxis axis rank) = some reduced := by
  refine ⟨mapM_of_positions, ?_⟩
  unfold positions
  induction axes generalizing reduced with
  | nil => exact fun same => congrArg Except.ok (Option.some.inj same)
  | cons axis rest ih =>
    rw [List.mapM_cons, List.mapM_cons]
    simp only [bind, Option.bind_eq_some_iff, pure, Option.some.injEq]
    rintro ⟨first, normal, later, others, rfl⟩
    rw [normal, ih others]
    rfl

theorem reducedShape_constant {keepDims : Bool} {dims : List Dim} {axes : Facts} {data : Dense}
    {values : List Int} (held : axes.data = some data) (integers : data.integers = .ok values)
    {S : Finset Nat} (named : axisSet? dims.length values = some S) :
    reducedShape keepDims (.ranked dims) axes = .ok (.ranked (dimsReduced S keepDims dims)) := by
  obtain ⟨reduced, each, rfl⟩ := Option.map_eq_some_iff.mp named
  have positioned := positions_eq_ok_iff.mpr each
  have read : constantValues axes = .ok (some values) := by
    simp [constantValues, held, integers, Except.map]
  simp only [reducedShape, read, Fault.lift, bind, Except.bind, Except.mapError, positioned, pure,
    Except.pure]
  rw [reducedDims_eq (natural_of_mapM each)]

theorem named_of_reducedShape {keepDims : Bool} {dims : List Dim} {axes : Facts} {data : Dense}
    {shape : Shape} (held : axes.data = some data)
    (done : reducedShape keepDims (.ranked dims) axes = .ok shape) :
    ∃ values S, data.integers = .ok values ∧ axisSet? dims.length values = some S ∧
      shape = .ranked (dimsReduced S keepDims dims) := by
  have found := done
  unfold reducedShape at found
  obtain ⟨values?, read, found⟩ := except_bind_eq_ok_iff.mp found
  rcases constantValues_cases (lift_eq_ok_iff.mp read) with
    ⟨unstored, _⟩ | ⟨a, values, same, integers, rfl⟩
  · rw [held] at unstored
    contradiction
  · obtain rfl := Option.some.inj (held.symm.trans same)
    obtain ⟨reduced, positioned, _⟩ := except_bind_eq_ok_iff.mp found
    have each := mapM_of_positions (lift_eq_ok_iff.mp positioned)
    have named : axisSet? dims.length values = some (reduced.map Int.toNat).toFinset := by
      rw [axisSet?, each, Option.map_some]
    rw [reducedShape_constant held integers named, Except.ok.injEq] at done
    exact ⟨values, _, integers, named, done.symm⟩

end Inference

/-! The parts of a lowering -/

/-- A vector of stored integers, as inference sees it. -/
def Facts.vector (values : List Int) : Facts where
  dtype := .int64
  shape := .static [values.length]
  data := some ⟨.int64, [values.length], values.map .int⟩

/-- What inference sees of axes; without axes there is nothing to see. -/
def Axes.facts? : Axes → Option Facts
  | fixed values => some (.vector values)
  | given t | synthesized t => some t.toFacts
  | none => Option.none

/-- The shape that a tensor of a shape has after a reduction over axes. -/
def Axes.leaves (keepDims : Bool) (shape : Shape) (axes : Axes) : Except Fault Shape :=
  match axes.facts? with
  | some facts => Inference.reducedShape keepDims shape facts
  | Option.none => .ok shape

namespace Reduction

variable {r : Reduction} {ctx : Context} {d d' : Draft} {t u : Tensor}

theorem facts_of_elementwise {opType : String} {inputs : List Tensor} {inferred : Inferred}
    (done : ctx.make opType inputs [] d = .ok u d')
    (infers : infer opType (inputs.map Tensor.toFacts) [] = .ok inferred) :
    u.dtype = inferred.1 ∧ u.shape = inferred.2 := by
  have same := (Draft.make_inferred done).1.symm.trans infers
  exact Prod.mk.inj (Except.ok.inj same)

theorem prepare_keeps (done : r.prepare ctx t d = .ok u d') :
    u.dtype = t.dtype ∧ u.shape = t.shape := by
  cases r
  case logSumExp => exact facts_of_elementwise done (infer_unary .exp (Or.inl rfl) t.toFacts)
  case sumSquare => exact facts_of_elementwise done (infer_square t.toFacts)
  all_goals
    cases done
    exact ⟨rfl, rfl⟩

theorem finish_keeps (done : r.finish ctx t d = .ok u d') :
    u.dtype = t.dtype ∧ u.shape = t.shape := by
  cases r
  case logSum => exact facts_of_elementwise done (infer_unary .log (Or.inr rfl) t.toFacts)
  case logSumExp => exact facts_of_elementwise done (infer_unary .log (Or.inr rfl) t.toFacts)
  all_goals
    cases done
    exact ⟨rfl, rfl⟩

theorem operand_facts {g : Graph} {axes : Axes} (done : axes.operand g d = .ok t d') :
    axes.facts? = some t.toFacts := by
  cases axes with
  | fixed values =>
    have made : Draft.constant g (Dense.ofInts values) "axes" d = .ok t d' := done
    rw [Draft.constant_apply] at made
    split at made
    · rename_i a encoded
      obtain rfl := Dense.ofInts_eq_ok encoded
      cases made
      rfl
    · contradiction
  | given v =>
    cases done
    rfl
  | synthesized v =>
    cases done
    rfl
  | none => contradiction

theorem reduce_leaves {keepDims : Bool} {axes : Axes}
    (done : r.reduce ctx keepDims axes t d = .ok u d') :
    u.dtype = t.dtype ∧ axes.leaves keepDims t.shape = .ok u.shape := by
  unfold reduce at done
  split at done
  · cases done
    exact ⟨rfl, rfl⟩
  · obtain ⟨operand, d₁, encoded, made⟩ := bind_eq_ok_iff.mp done
    obtain ⟨inferred, _⟩ := Draft.make_inferred made
    rw [infer_reduce] at inferred
    obtain ⟨dtype, shape⟩ := Inference.reduced_eq_ok_iff.mp inferred
    unfold Axes.leaves
    rw [operand_facts encoded]
    exact ⟨dtype, shape⟩

theorem lower_leaves {regime : Regime} {out : Tensor} (done : r.lower regime ctx d = .ok out d') :
    ∃ data keep axes d₁, ctx.operand? 0 = some data ∧
      ctx.node.attributes.int "keepdims" 1 = .ok keep ∧
      Axes.resolve ctx data regime.policy d = .ok axes d₁ ∧ out.dtype = data.dtype ∧
      axes.leaves (keep != 0) data.shape = .ok out.shape := by
  obtain ⟨data, keep, axes, prepared, reduced, d₁, d₂, d₃, operand, found, resolved, opened, core,
    closed⟩ := lower_ok done
  obtain ⟨opened_dtype, opened_shape⟩ := prepare_keeps opened
  obtain ⟨core_dtype, leaves⟩ := reduce_leaves core
  obtain ⟨closed_dtype, closed_shape⟩ := finish_keeps closed
  refine ⟨data, keep, axes, d₁, operand, found, resolved, ?_, ?_⟩
  · rw [closed_dtype, core_dtype, opened_dtype]
  · rw [closed_shape, ← leaves, opened_shape]

end Reduction

end ReductionIR
