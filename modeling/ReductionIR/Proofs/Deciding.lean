import ReductionIR.Proofs.Describing
import ReductionIR.Proofs.Reasons
/-
The reasons for each step of a lowering to fail. The checks have reasons of their own; of what
comes after them, only the array of fixed axes can fail.
-/
namespace ReductionIR

open Stepwise

open Build Draft

/-! Steps after the checks -/

theorem Dense.integers_ints (values : List Int) :
    (⟨.int64, [values.length], values.map .int⟩ : Dense).integers = .ok values := by
  unfold integers
  dsimp only
  induction values with
  | nil => rfl
  | cons n rest ih =>
    rw [List.map_cons, List.mapM_cons, ih]
    rfl

namespace Inference

theorem infer_lengths (t : Facts) :
    infer "ShapeOf" [t] [] = .ok (.int64, .ofValues [t.shape.rank?.map Int.ofNat]) := rfl

theorem infer_squeeze {t : Facts} (single : t.shape = .static [1]) :
    infer "Squeeze" [t] [("axes", .ofInts [0])] = .ok (t.dtype, .scalar) := by
  cases t
  cases single
  rfl

theorem infer_range {start stop step : Facts} {first width : Dense} {firsts widths : List Int}
    (ofStart : start.data = some first) (integers : first.integers = .ok firsts)
    (ofStop : stop.data = none) (ofStep : step.data = some width)
    (more : width.integers = .ok widths) :
    infer "Range" [start, stop, step] [("output_type", .dtype .int64)] =
      .ok (.int64, .ranked [.anonymous]) := by
  have values : [start, stop, step].mapM constantValues =
      .ok [some firsts, none, some widths] := by
    simp [constantValues, ofStart, ofStop, ofStep, integers, more, Except.map, bind, Except.bind,
      pure, Except.pure]
  have shape : rangeShape [some firsts, none, some widths] = .ok (.ranked [.anonymous]) := by
    unfold rangeShape
    cases (some firsts).bind fun ns : List Int => if ns.length = 1 then ns.head? else none <;>
      simp [*]
  change Fault.lift (ranged [("output_type", .dtype .int64)] [start, stop, step]) = _
  unfold ranged
  rw [values]
  change Fault.lift ((rangeShape [some firsts, none, some widths]) >>= _) = _
  rw [shape]
  rfl

theorem positions_ok {values : List Int} {rank : Nat}
    (inside : ∀ axis ∈ values, -(rank : Int) ≤ axis ∧ axis ≤ rank - 1) :
    ∃ named, positions rank values = .ok named := by
  induction values with
  | nil => exact ⟨[], rfl⟩
  | cons axis rest ih =>
    obtain ⟨named, done⟩ := ih fun axis later => inside axis (List.mem_cons_of_mem _ later)
    have here := inside axis (List.mem_cons_self ..)
    have normal : normalizeAxis axis rank = some (if axis < 0 then axis + rank else axis) :=
      if_pos (by omega)
    unfold positions at done ⊢
    rw [List.mapM_cons, normal, done]
    exact ⟨_, rfl⟩

theorem reduced_ok (data axes : Facts) (attributes : Fields)
    (counted : axes.data = none → ∀ rank, data.shape.rank? = some rank → ∀ count,
      axes.shape = .ranked [.known count] → count ≤ rank)
    (inside : ∀ rank, data.shape.rank? = some rank → ∀ array, axes.data = some array →
      ∃ values, array.integers = .ok values ∧
        ∀ axis ∈ values, -(rank : Int) ≤ axis ∧ axis ≤ rank - 1) :
    ∃ inferred, reduced attributes [data, axes] = .ok inferred := by
  unfold reduced
  dsimp only
  cases shape : data.shape with
  | unknownRank => exact ⟨_, rfl⟩
  | ranked dims =>
    have rank : data.shape.rank? = some dims.length := by rw [shape]; rfl
    cases held : axes.data with
    | none =>
      have opened : ∀ keepDims, ∃ shape,
          openReduction keepDims dims.length axes.shape = .ok shape := by
        intro keepDims
        unfold openReduction
        split
        · exact ⟨_, rfl⟩
        · split
          · rename_i count listed
            rw [if_neg (by have := counted held _ rank count listed; omega)]
            exact ⟨_, rfl⟩
          · exact ⟨_, rfl⟩
      obtain ⟨shape, done⟩ := opened ((attributes.find? "keep_dims").getD (.bool true)).holds
      simp only [constantValues, held]
      change ∃ inferred, (openReduction _ _ _ >>= _) = _
      rw [done]
      exact ⟨_, rfl⟩
    | some array =>
      obtain ⟨values, integers, fits⟩ := inside _ rank array held
      obtain ⟨named, done⟩ := positions_ok fits
      simp only [constantValues, held, integers]
      change ∃ inferred, (Fault.lift (positions dims.length values) >>= _) = _
      rw [done]
      exact ⟨_, rfl⟩

end Inference

namespace Draft

variable {g : Graph} {opType : String} {attributes : Fields}

theorem decided_make (inputs : List Tensor) {inferred : Inferred}
    (fits : infer opType (inputs.map Tensor.toFacts) attributes = .ok inferred) :
    Decided (make g opType inputs attributes) [] fun t =>
      t.shape = inferred.2 ∧ t.data = none := by
  intro d
  rw [make_apply, fits]
  exact ⟨_, _, rfl, rfl, rfl⟩

theorem decided_constant (data : Except Breakdown Dense) {stem : String} :
    Decided (constant g data stem) [(!data.toBool, .broken)] fun t =>
      ∃ a, data = .ok a ∧ t.shape = a.shape ∧ t.data = some a := by
  intro d
  rw [constant_apply]
  cases data with
  | error failure => exact ⟨_, _, rfl, trivial⟩
  | ok a => exact ⟨_, _, rfl, a, rfl, rfl, rfl⟩

end Draft

namespace Context

variable (ctx : Context)

theorem decided_readInt (name : String) (fallback : Int) :
    Decided (ctx.read (ctx.node.attributes.int name fallback))
      [(ctx.node.hasOther name .int, .rejected .attributeTypeMismatch)] fun _ => True := by
  intro d
  unfold SourceNode.hasOther read AttributeStore.int
  cases ctx.node.attributes.find? name with
  | none => exact ⟨_, _, rfl, trivial⟩
  | some a =>
    cases a with
    | int n => exact ⟨_, _, rfl, trivial⟩
    | _ => exact ⟨_, _, rfl, rfl⟩

theorem decided_readAxes : Decided (ctx.read (ctx.node.attributes.ints? "axes"))
    [(ctx.node.hasOther "axes" .ints, .rejected .attributeTypeMismatch)]
    fun values? => values?.getD [] = ctx.node.axesAttribute := by
  intro d
  unfold SourceNode.hasOther SourceNode.axesAttribute read AttributeStore.ints?
  cases ctx.node.attributes.find? "axes" with
  | none => exact ⟨_, _, rfl, rfl⟩
  | some a =>
    cases a with
    | ints axes => exact ⟨_, _, rfl, rfl⟩
    | _ => exact ⟨_, _, rfl, rfl⟩

end Context

namespace Axes

theorem decided_allOf (g : Graph) (data : Tensor) :
    Decided (allOf g data) [] fun t => t.shape = .ranked [.anonymous] ∧ t.data = Option.none := by
  unfold allOf
  refine (decided_make [data] (Inference.infer_lengths _)).bind_ok
    fun lengths ofLengths => ?_
  refine (decided_make [lengths] (Inference.infer_lengths _)).bind_ok
    fun rank ofRank => ?_
  have single : rank.shape = .static [1] := by
    rw [ofRank.1, ofLengths.1]
    rfl
  refine (decided_make [rank] (Inference.infer_squeeze single)).bind_ok
    fun stop ofStop => ?_
  refine ((decided_constant (Dense.ofInt 0)).of_none rfl).bind_ok fun start ⟨zero, isZero, _, startHeld⟩ => ?_
  refine ((decided_constant (Dense.ofInt 1)).of_none rfl).bind_ok fun step ⟨unit, isOne, _, stepHeld⟩ => ?_
  cases isZero
  cases isOne
  exact decided_make [start, stop, step]
    (Inference.infer_range startHeld rfl ofStop.2 stepHeld rfl)

/-- Axes that are known fit a rank that is known. -/
def Suits (rank? : Option Nat) : Axes → Prop
  | fixed values => ∀ rank, rank? = some rank → ∀ axis ∈ values, -rank ≤ axis ∧ axis ≤ rank - 1
  | given t => ∀ rank, rank? = some rank → (∀ count, t.listed? = some count → count ≤ rank) ∧
      ∀ array, t.data = some array → ∃ values, array.integers = .ok values ∧
        ∀ axis ∈ values, -rank ≤ axis ∧ axis ≤ rank - 1
  | synthesized t => t.shape = .ranked [.anonymous] ∧ t.data = Option.none
  | none => True

/-- Axes that no array of integers holds. -/
def overflows : Axes → Bool
  | fixed values => values.any fun axis => !fitsInt64 axis
  | _ => false

variable (ctx : Context) (data : Tensor)

theorem decided_checkFixed (values : List Int) (rank : Nat) :
    Decided (checkFixed ctx values rank) (Ending.ofReasons (misfits (some rank) values))
      fun _ => ∀ axis ∈ values, -(rank : Int) ≤ axis ∧ axis ≤ rank - 1 := by
  intro d
  unfold checkFixed misfit?
  -- the number of axes is checked before their range
  by_cases many : rank < values.length
  · simp only [many, ↓reduceIte, misfits, Ending.ofReasons, List.map_cons, Option.any_some,
      decide_true, firstReason_cons]
    exact ⟨_, _, rfl, rfl⟩
  · cases found : values.find? fun axis =>
        !decide (-(rank : Int) ≤ axis ∧ axis ≤ (rank : Int) - 1) with
    | some axis =>
      have outside : values.any (isOutside rank) = true := by
        refine List.any_eq_true.mpr ⟨axis, List.mem_of_find?_eq_some found, ?_⟩
        have wrong := List.find?_some found
        simp only [Bool.not_eq_true', decide_eq_false_iff_not] at wrong
        simp only [isOutside, decide_eq_true_eq]
        omega
      simp only [many, ↓reduceIte, misfits, Ending.ofReasons, List.map_cons, Option.any_some,
        decide_false, Bool.false_eq_true, firstReason_cons, outside, Option.map_some]
      exact ⟨_, _, rfl, rfl⟩
    | none =>
      have inside : ∀ axis ∈ values, -(rank : Int) ≤ axis ∧ axis ≤ rank - 1 := by
        intro axis member
        simpa using List.find?_eq_none.mp found axis member
      have fitting : values.any (isOutside rank) = false := by
        refine List.any_eq_false.mpr fun axis member => ?_
        have fits := inside axis member
        simp only [isOutside, decide_eq_true_eq]
        omega
      simp only [many, ↓reduceIte, misfits, Ending.ofReasons, List.map_cons, List.map_nil,
        Option.any_some, decide_false, Bool.false_eq_true, firstReason_cons, fitting,
        firstReason_nil, Option.map_none]
      exact ⟨_, _, rfl, inside⟩

theorem decided_whenRanked (reasons : Option Nat → List (Bool × Ending)) {check : Nat → Build Unit}
    {post : Nat → Prop} (ranked : ∀ rank, Decided (check rank) (reasons (some rank)) fun _ => post rank)
    (unranked : firstReason (reasons Option.none) = Option.none) :
    Decided (whenRanked data check) (reasons data.rank?)
      fun _ => ∀ rank, data.rank? = some rank → post rank := by
  unfold whenRanked
  cases data.rank? with
  | some rank =>
    refine (ranked rank).mono rfl fun _ holds other same => ?_
    cases same
    exact holds
  | none =>
    intro d
    simp only [unranked]
    exact ⟨(), d, rfl, fun _ other => nomatch other⟩

theorem decided_every : Decided (every ctx data) [] fun axes =>
    axes.Suits data.rank? ∧
      axes.overflows = data.rank?.any fun rank => decide (9223372036854775808 < rank) := by
  unfold every
  cases data.rank? with
  | some rank =>
    refine decided_pure ⟨?_, ?_⟩
    · intro other same axis member
      cases same
      obtain ⟨n, below, rfl⟩ := List.mem_map.mp member
      have := List.mem_range.mp below
      simp only [Int.ofNat_eq_natCast]
      omega
    · rw [overflows, Option.any_some, Bool.eq_iff_iff]
      simp only [List.any_map, List.any_eq_true, List.mem_range, Function.comp_apply, fitsInt64,
        Bool.not_eq_true', decide_eq_false_iff_not, decide_eq_true_eq, Int.ofNat_eq_natCast]
      constructor
      · rintro ⟨n, below, outside⟩
        omega
      · intro many
        exact ⟨9223372036854775808, many, by omega⟩
  | none =>
    refine (decided_allOf ctx.graph data).bind_ok fun t holds => ?_
    exact decided_pure ⟨holds, rfl⟩

theorem decided_whenAbsent (noop : Int) : Decided (whenAbsent ctx data noop) [] fun axes =>
    axes.Suits data.rank? ∧ axes.overflows = false := by
  unfold whenAbsent
  split
  · exact decided_pure ⟨trivial, rfl⟩
  · refine (decided_allOf ctx.graph data).bind_ok fun t holds => ?_
    exact decided_pure ⟨holds, rfl⟩

theorem decided_fromAttribute : Decided (fromAttribute ctx data)
    (Ending.ofReasons ((ctx.node.hasOther "axes" .ints, .attributeTypeMismatch) ::
      misfits data.rank? ctx.node.axesAttribute))
    fun axes => axes.Suits data.rank? ∧ axes.overflows =
      if ctx.node.axesAttribute = [] then
        data.rank?.any fun rank => decide (9223372036854775808 < rank)
      else ctx.node.axesAttribute.any fun axis => !fitsInt64 axis := by
  unfold fromAttribute
  refine ctx.decided_readAxes.bind fun values? same => ?_
  dsimp only
  rw [same]
  by_cases empty : ctx.node.axesAttribute = []
  · simp only [empty, List.isEmpty_nil, ↓reduceIte]
    refine (decided_every ctx data).mono ?_ fun _ holds => holds
    cases data.rank? <;> rfl
  · simp only [empty, List.isEmpty_iff, ↓reduceIte]
    have checked := decided_whenRanked data
      (fun rank? => Ending.ofReasons (misfits rank? ctx.node.axesAttribute))
      (decided_checkFixed ctx _) rfl
    refine (checked.bind fun _ inside => decided_pure ⟨inside, rfl⟩).mono ?_ fun _ holds => holds
    rw [List.append_nil]
    rfl

/-- The reasons to reject an operand that names axes. -/
def operandReasons (rank? : Option Nat) (t : Tensor) : List (Bool × Ending) :=
  (rank?.any fun rank => t.listed?.any fun count => decide ((rank : Int) < count),
    .rejected .tooManyReductionAxes) ::
  (rank?.isSome && t.isUnreadable, .broken) :: Ending.ofReasons (misfits rank? t.heldAxes)

theorem decided_checkCount (t : Tensor) (rank : Nat) :
    Decided (checkCount ctx t rank)
      [(t.listed?.any fun count => decide ((rank : Int) < count), .rejected .tooManyReductionAxes)]
      fun _ => (t.listed?.any fun count => decide ((rank : Int) < count)) = false := by
  apply decided_check ctx
  · intro many
    obtain ⟨count, listed, above⟩ := (Option.any_eq_true _ _).mp many
    have shape : t.shape = .ranked [.known count] := by
      unfold Tensor.listed? at listed
      split at listed
      · cases listed
        assumption
      · contradiction
    refine ⟨.tooManyAxes count rank, rfl, ?_⟩
    rw [checkCount, shape]
    exact if_pos (of_decide_eq_true above)
  · intro few
    unfold checkCount
    unfold Tensor.listed? at few
    split
    · rename_i count shape
      simp only [shape, Option.any_some, decide_eq_false_iff_not] at few
      exact if_neg few
    · rfl

theorem decided_checkValues (t : Tensor) (rank : Nat) :
    Decided (checkValues ctx t rank)
      ((t.isUnreadable, .broken) :: Ending.ofReasons (misfits (some rank) t.heldAxes))
      fun _ => ∀ array, t.data = some array → ∃ values, array.integers = .ok values ∧
        ∀ axis ∈ values, -(rank : Int) ≤ axis ∧ axis ≤ rank - 1 := by
  unfold checkValues Tensor.isUnreadable Tensor.heldAxes
  cases held : t.data with
  | none =>
    have passed : Decided (pure ()) [] fun _ : Unit => True := decided_pure trivial
    refine passed.mono ?_ fun _ _ _ other => nomatch other
    simp [misfits, Ending.ofReasons]
  | some array =>
    cases read : array.integers with
    | error failure =>
      intro d
      simp only [Option.any_some, read, Except.toOption, Option.isNone_none, firstReason_cons,
        ↓reduceIte]
      exact ⟨_, _, rfl, trivial⟩
    | ok values =>
      simp only [Option.any_some, read, Except.toOption, Option.isNone_some, Option.bind_some,
        Option.getD_some]
      refine (decided_checkFixed ctx values rank).mono rfl fun _ inside other same => ?_
      cases same
      exact ⟨values, read, inside⟩

theorem decided_checkOperand (t : Tensor) (rank : Nat) :
    Decided (checkOperand ctx t rank) (operandReasons (some rank) t) fun _ =>
      (∀ count, t.listed? = some count → count ≤ rank) ∧
        ∀ array, t.data = some array → ∃ values, array.integers = .ok values ∧
          ∀ axis ∈ values, -(rank : Int) ≤ axis ∧ axis ≤ rank - 1 := by
  have both := (decided_checkCount ctx t rank).bind fun _ few =>
    (decided_checkValues ctx t rank).mono rfl fun _ inside => And.intro few inside
  refine both.mono (by simp [operandReasons]) fun _ ⟨few, inside⟩ => ⟨?_, inside⟩
  intro count listed
  simpa [listed] using few

theorem decided_fromInput : Decided (fromInput ctx data)
    ([(ctx.node.hasOther "noop_with_empty_axes" .int, .rejected .attributeTypeMismatch),
      (ctx.operands[1]?.join.any fun t => !t.shape.isFullyKnown,
        .rejected .dynamicAxesShapeUnsupported)] ++
      ((SourceNode.axesOperand? ctx.operands).map (operandReasons data.rank?)).getD [])
    fun axes => axes.Suits data.rank? ∧ axes.overflows = false := by
  unfold fromInput
  refine (ctx.decided_readInt _ _).bind fun noop _ => ?_
  have same : ctx.operand? 1 = ctx.operands[1]?.join := rfl
  unfold SourceNode.axesOperand?
  rw [same]
  cases ctx.operands[1]?.join with
  | none => exact decided_whenAbsent ctx data noop
  | some t =>
    have named : decide (t.shape ≠ .scalar ∧ t.shape ≠ .static [0]) = !isEmptyOperand t.shape := by
      simp [isEmptyOperand]
    simp only [Option.any_some, Option.filter_some, named]
    by_cases known : t.shape.isFullyKnown = true
    · by_cases empty : isEmptyOperand t.shape = true
      · simp only [known, empty, Bool.not_true, Bool.false_eq_true, ↓reduceIte]
        exact (decided_whenAbsent ctx data noop).mono rfl fun _ holds => holds
      · simp only [known, empty, Bool.not_true, Bool.not_false, Bool.false_eq_true, ↓reduceIte]
        have checked := decided_whenRanked data (operandReasons · t) (decided_checkOperand ctx t) rfl
        exact (checked.bind fun _ fits => decided_pure ⟨fits, rfl⟩).mono (by simp)
          fun _ holds => holds
    · simp only [known, Bool.not_false, ↓reduceIte]
      intro d
      exact ⟨_, d, rfl, rfl⟩

end Axes

namespace Reduction

variable (r : Reduction) (ctx : Context)

theorem decided_prepare (x : Tensor) :
    Decided (r.prepare ctx x) [] fun t => t.shape = x.shape := by
  cases r
  case logSumExp =>
    exact (decided_make [x] (infer_unary .exp (Or.inl rfl) _)).mono rfl
      fun _ holds => holds.1
  case sumSquare =>
    exact (decided_make [x, x] (infer_square _)).mono rfl fun _ holds => holds.1
  all_goals exact decided_pure rfl

theorem decided_finish (x : Tensor) : Decided (r.finish ctx x) [] fun _ => True := by
  have logged : Decided (ctx.make "Log" [x] []) [] fun _ => True :=
    (decided_make [x] (infer_unary .log (Or.inr rfl) _)).mono rfl fun _ _ => trivial
  cases r
  case logSum => exact logged
  case logSumExp => exact logged
  all_goals exact decided_pure trivial

theorem decided_core (keepDims : Bool) (x t : Tensor)
    (counted : t.data = none → ∀ rank, x.rank? = some rank → ∀ count,
      t.shape = .ranked [.known count] → count ≤ rank)
    (inside : ∀ rank, x.rank? = some rank → ∀ array, t.data = some array →
      ∃ values, array.integers = .ok values ∧
        ∀ axis ∈ values, -(rank : Int) ≤ axis ∧ axis ≤ rank - 1) :
    Decided (ctx.make r.kernel.opType [x, t] [("keep_dims", .bool keepDims)]) []
      fun _ => True := by
  obtain ⟨inferred, done⟩ := Inference.reduced_ok x.toFacts t.toFacts
    [("keep_dims", .bool keepDims)] counted inside
  have fits := (infer_reduce r.kernel [x.toFacts, t.toFacts] _).trans done
  exact (decided_make [x, t] fits).mono rfl fun _ _ => trivial

theorem decided_reduce (keepDims : Bool) (axes : Axes) (x : Tensor) (suits : axes.Suits x.rank?) :
    Decided (r.reduce ctx keepDims axes x) [(axes.overflows, .broken)] fun _ => True := by
  cases axes with
  | none => exact (decided_pure trivial).mono rfl fun _ holds => holds
  | fixed values =>
    have encodes := Dense.toBool_ofInts values
    refine ((decided_constant (Dense.ofInts values)).bind
      fun t ⟨array, encoded, _, held⟩ => decided_core r ctx keepDims x t ?_ ?_).mono ?_
        fun _ holds => holds
    · intro unheld
      rw [held] at unheld
      contradiction
    · intro rank known array' same
      obtain rfl := Option.some.inj (held.symm.trans same)
      obtain rfl := Dense.ofInts_eq_ok encoded
      exact ⟨values, Dense.integers_ints values, suits rank known⟩
    · rw [List.append_nil, encodes, Axes.overflows, List.not_all_eq_any_not]
  | given t =>
    refine (decided_core r ctx keepDims x t ?_ ?_).mono rfl fun _ holds => holds
    · intro _ rank known count listed
      exact (suits rank known).1 count (by rw [Tensor.listed?, listed])
    · intro rank known array held
      exact (suits rank known).2 array held
  | synthesized t =>
    obtain ⟨shape, held⟩ := suits
    refine (decided_core r ctx keepDims x t ?_ ?_).mono rfl fun _ holds => holds
    · intro _ rank known count listed
      rw [shape] at listed
      cases listed
    · intro rank known array same
      rw [held] at same
      contradiction

/-- What a lowering does once its axes are resolved fails for an overflow only. -/
theorem decided_reduced (keepDims : Bool) (axes : Axes) (data : Tensor)
    (suits : axes.Suits data.rank?) :
    Decided (do
        let prepared ← r.prepare ctx data
        let reduced ← r.reduce ctx keepDims axes prepared
        r.finish ctx reduced)
      [(axes.overflows, .broken)] fun _ => True := by
  refine (decided_prepare r ctx data).bind_ok fun prepared shape => ?_
  have ranks : prepared.rank? = data.rank? := by
    rw [Tensor.rank?, shape]
    rfl
  exact ((decided_reduce r ctx keepDims axes prepared (ranks ▸ suits)).bind
    fun reduced _ => decided_finish r ctx reduced).mono (by simp) fun _ holds => holds

variable {r} {ctx}

theorem takesOperand_eq (known : ctx.node.opType = r.operator) :
    ctx.node.takesOperand = decide (r.operandSince ≤ ctx.node.opset) := by
  unfold SourceNode.takesOperand
  rw [known]
  cases r <;> rfl

theorem acceptedTypes_eq (known : ctx.node.opType = r.operator) :
    ctx.node.acceptedTypes = (r.entryAt ctx.node.opset).types := by
  unfold SourceNode.acceptedTypes entryAt
  rw [takesOperand_eq known]
  by_cases early : ctx.node.opset < r.operandSince
  · have before : ¬ r.operandSince ≤ ctx.node.opset := by omega
    simp [early, before, attributeEntry, baseTypes]
  · have after : r.operandSince ≤ ctx.node.opset := by omega
    simp [early, after, inputEntry, extendedTypes, baseTypes]

theorem decided_resolve (known : ctx.node.opType = r.operator) {data : Tensor}
    (found : SourceNode.data? ctx.operands = some data) :
    Decided (Axes.resolve ctx data (r.entryAt ctx.node.opset).policy)
      (if ctx.node.takesOperand then
        [(ctx.node.hasOther "noop_with_empty_axes" .int, .rejected .attributeTypeMismatch),
         (ctx.operands[1]?.join.any fun t => !t.shape.isFullyKnown,
            .rejected .dynamicAxesShapeUnsupported)] ++
          ((SourceNode.axesOperand? ctx.operands).map (Axes.operandReasons data.rank?)).getD []
      else Ending.ofReasons ((ctx.node.hasOther "axes" .ints, .attributeTypeMismatch) ::
        misfits data.rank? ctx.node.axesAttribute))
      fun axes => axes.Suits data.rank? ∧
        axes.overflows = ctx.node.isOverflowing ctx.operands := by
  have rank : SourceNode.rank? ctx.operands = data.rank? := by
    rw [SourceNode.rank?, found, Option.bind_some]
  unfold SourceNode.isOverflowing entryAt
  rw [takesOperand_eq known, rank]
  by_cases early : ctx.node.opset < r.operandSince
  · have before : ¬ r.operandSince ≤ ctx.node.opset := by omega
    simp only [early, before, ↓reduceIte, decide_false, Bool.false_eq_true, Bool.not_false,
      Bool.true_and]
    exact Axes.decided_fromAttribute ctx data
  · have after : r.operandSince ≤ ctx.node.opset := by omega
    simp only [early, after, ↓reduceIte, decide_true, Bool.not_true, Bool.false_and]
    exact Axes.decided_fromInput ctx data

theorem decided_checkType (known : ctx.node.opType = r.operator) (data : Tensor) :
    Decided (checkType (r.entryAt ctx.node.opset).toRegime ctx data)
      [(!ctx.node.acceptedTypes.contains data.dtype, .rejected .unsupportedElementType)]
      fun _ => True := by
  rw [acceptedTypes_eq known]
  refine (decided_check ctx ?_ ?_).mono rfl fun _ _ => trivial
  · intro other
    exact ⟨.elementType data.dtype, rfl, if_neg (by simpa using other)⟩
  · intro accepted
    exact if_pos (by simpa using accepted)

theorem decided_lower (ctx : Context) (known : ctx.node.opType = r.operator)
    (late : 1 ≤ ctx.node.opset) :
    Decided (r.lower (r.entryAt ctx.node.opset).toRegime ctx)
      (ctx.node.endings ctx.operands) fun _ => True := by
  have isKnown : ctx.node.opType ∈ SourceNode.operators := by
    rw [known]
    cases r <;> decide
  have isLate : ¬ ctx.node.opset < 1 := by omega
  cases found : SourceNode.data? ctx.operands with
  | none =>
    have missing : ctx.operand 0 = ctx.fail (.missingInput 0) := by
      unfold Context.operand
      rw [show ctx.operand? 0 = none from found]
    intro d
    unfold lower
    simp only [SourceNode.endings, SourceNode.formReasons, Ending.ofReasons, List.cons_append,
      List.map_cons, firstReason_cons, List.contains_eq_mem, isKnown, decide_true, isLate, found,
      Bool.not_true, Bool.false_eq_true, decide_false, Option.isNone_none, ↓reduceIte, missing]
    exact ⟨_, d, rfl, rfl⟩
  | some data =>
    have given : ctx.operand 0 = pure data := by
      unfold Context.operand
      rw [show ctx.operand? 0 = some data from found]
    have chain := (decided_checkType known data).bind fun _ _ =>
      (ctx.decided_readInt "keepdims" 1).bind fun keep _ =>
        (decided_resolve known found).bind fun axes ⟨suits, same⟩ =>
          (decided_reduced r ctx (keep != 0) axes data suits).mono (congrArg _ (by rw [same]))
            fun _ holds => holds
    unfold lower
    rw [given, pure_bind]
    refine chain.mono ?_ fun _ _ => trivial
    -- the reasons of the parts are those of the node, in the same order
    simp only [SourceNode.endings, SourceNode.formReasons, SourceNode.knownAxes,
      SourceNode.isUnreadable, SourceNode.rank?, found]
    cases ctx.node.takesOperand with
    | false => simp [Ending.ofReasons, isKnown, isLate]
    | true =>
      cases SourceNode.axesOperand? ctx.operands with
      | none => simp [Ending.ofReasons, isKnown, isLate, misfits]
      | some t => simp [Ending.ofReasons, isKnown, isLate, Axes.operandReasons]

end Reduction

end ReductionIR
