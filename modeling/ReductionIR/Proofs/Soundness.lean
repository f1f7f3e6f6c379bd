import ReductionIR.Proofs.Acceptance
import ReductionIR.Proofs.Meaning
import ReductionIR.Proofs.Shaping
/-
The shape of a lowered result against the lengths that it has at run time. Symbols stand for
lengths; axes that are read at run time may be any that fit their operand. Where the axes are
known before anything runs, the shape leaves nothing open that the data did not.
-/
namespace ReductionIR

open Stepwise

/-- A dim that has a length, once its symbol has a value. -/
def Dim.HasLength (symbols : String → Nat) : Dim → Nat → Prop
  | known k, n => k = n
  | named symbol, n => symbols symbol = n
  | anonymous, _ => True

def Shape.HasLengths (symbols : String → Nat) (s : Shape) (lengths : List Nat) : Prop :=
  s.Relates (Dim.HasLength symbols) lengths

/-- Axes that an operand may hold at run time: integers that fill its shape, the stored ones if it
    is a constant, each one in range and no two of them the same. -/
structure Tensor.MayHold (symbols : String → Nat) (t : Tensor) (rank : Nat) (axes : List Int) :
    Prop where
  filled : ∃ lengths, t.shape.HasLengths symbols lengths ∧ axes.length = lengths.prod
  stored : ∀ data, t.data = some data → data.integers = .ok axes
  inside : ∀ axis ∈ axes, -(rank : Int) ≤ axis ∧ axis ≤ rank - 1
  once : NamesOnce rank axes

/-- The positions that are reduced, given the axes that are read at run time; `none` inside for an
    untouched tensor. Axes out of range name no positions. -/
def Reading.positions? (rank : Nat) (axes : List Int) : Reading → Option (Option (Finset Nat))
  | untouched => some none
  | all => some (some (Finset.range rank))
  | fixed values => (axisSet? rank values).map some
  | operand => (axisSet? rank axes).map some

def lengthsLeft (named : Option (Finset Nat)) (keepDims : Bool) (lengths : List Nat) : List Nat :=
  match named with
  | some positions => lengthsReduced positions keepDims lengths
  | none => lengths

theorem axisSet?_of_inside {rank : Nat} {axes : List Int}
    (inside : ∀ axis ∈ axes, -(rank : Int) ≤ axis ∧ axis ≤ rank - 1) :
    ∃ S, axisSet? rank axes = some S := by
  obtain ⟨reduced, positioned⟩ := Inference.positions_ok inside
  exact ⟨_, congrArg _ (Inference.mapM_of_positions positioned)⟩

theorem Tensor.MayHold.count_eq {symbols : String → Nat} {t : Tensor} {rank : Nat} {axes : List Int}
    (holds : t.MayHold symbols rank axes) {count : Int} (shape : t.shape = .ranked [.known count]) :
    count = axes.length := by
  obtain ⟨lengths, has, filled⟩ := holds.filled
  have each := has _ shape
  cases each with
  | cons first others =>
    cases others
    have only : count = _ := first
    rw [filled, only]
    simp

namespace Axes

variable {ctx : Context} {data : Tensor} {d d' : Draft} {reading : Reading} {axes : Axes}
  {keepDims : Bool} {shape : Shape}

theorem reducedShape_hasLengths {facts : Facts} {symbols : String → Nat} {lengths : List Nat}
    {S : Finset Nat} (leaves : Inference.reducedShape keepDims data.shape facts = .ok shape)
    (has : data.shape.HasLengths symbols lengths) (inside : ∀ i ∈ S, i < lengths.length)
    (fixed : ∀ a values, facts.data = some a → a.integers = .ok values →
      axisSet? lengths.length values = some S)
    (counted : facts.data = Option.none → keepDims = false → ∀ count,
      facts.shape = .ranked [.known count] → count = S.card) :
    shape.HasLengths symbols (lengthsReduced S keepDims lengths) := by
  have done : Inference.reduced [("keep_dims", .bool keepDims)] [data.toFacts, facts] =
      .ok (data.dtype, shape) := Inference.reduced_eq_ok_iff.mpr ⟨rfl, leaves⟩
  refine Inference.reduced_relates ?_ ?_ done has inside fixed counted
  · rfl
  · exact fun _ => trivial

theorem positions_of_fixed {fixedValues values : List Int} {symbols : String → Nat}
    {lengths : List Nat} (resolved : Resolved ctx data d d' reading (.fixed fixedValues))
    (has : data.shape.HasLengths symbols lengths) {named : Option (Finset Nat)}
    (names : reading.positions? lengths.length values = some named) :
    ∃ S, named = some S ∧ axisSet? lengths.length fixedValues = some S := by
  obtain ⟨_, rfl | ⟨rfl, rank, known, rfl⟩⟩ := resolved
  · obtain ⟨S, positions, rfl⟩ := Option.map_eq_some_iff.mp names
    exact ⟨S, rfl, positions⟩
  · cases names
    obtain ⟨dims, ranked, rfl⟩ := Shape.rank?_eq_some_iff.mp known
    rw [← (has dims ranked).length_eq]
    exact ⟨_, rfl, axisSet?_range dims.length⟩

/-- What resolved axes leave has the lengths that are left. -/
theorem leaves_hasLengths (resolved : Resolved ctx data d d' reading axes)
    (leaves : axes.leaves keepDims data.shape = .ok shape) {symbols : String → Nat}
    {lengths : List Nat} {values : List Int} (has : data.shape.HasLengths symbols lengths)
    (fit : ∀ t, reading.source? (ctx.operand? 1) = some t →
      t.MayHold symbols lengths.length values)
    {named : Option (Finset Nat)} (names : reading.positions? lengths.length values = some named) :
    shape.HasLengths symbols (lengthsLeft named keepDims lengths) := by
  -- inference sees known axes, the number of fed ones, and neither for all axes
  cases axes with
  | none =>
    obtain ⟨_, rfl⟩ := resolved
    cases names
    cases leaves
    exact has
  | fixed fixedValues =>
    obtain ⟨S, rfl, positions⟩ := positions_of_fixed resolved has names
    refine reducedShape_hasLengths leaves has (axisSet?_lt positions) ?_ ?_
    · intro a values held integers
      cases held
      rw [Dense.integers_ints, Except.ok.injEq] at integers
      exact integers ▸ positions
    · intro unstored
      cases unstored
  | given t =>
    obtain ⟨_, rfl, there, _⟩ := resolved
    have holds := fit t there
    obtain ⟨S, positions, rfl⟩ := Option.map_eq_some_iff.mp names
    refine reducedShape_hasLengths leaves has (axisSet?_lt positions) ?_ ?_
    · intro a others held integers
      rw [holds.stored a held, Except.ok.injEq] at integers
      exact integers ▸ positions
    · intro _ _ count listed
      rw [card_of_namesOnce positions holds.once]
      exact holds.count_eq listed
  | synthesized t =>
    obtain ⟨rfl, _, _, _, _, _, _, drafted⟩ := resolved
    cases names
    refine reducedShape_hasLengths leaves has (fun i => Finset.mem_range.mp) ?_ ?_
    · intro a others held
      rw [drafted.unstored] at held
      contradiction
    · intro _ _ count listed
      rw [drafted.shape_eq] at listed
      cases listed

theorem fixed_of_fromAttribute (done : fromAttribute ctx data d = .ok axes d') {rank : Nat}
    (known : data.rank? = some rank) : ∃ values, axes = .fixed values := by
  unfold fromAttribute at done
  obtain ⟨values?, _, done⟩ := Context.read_bind_ok done
  dsimp only at done
  split at done
  · unfold every at done
    simp only [known, pure_apply] at done
    cases done
    exact ⟨_, rfl⟩
  · obtain ⟨_, _, done⟩ :=
      (readOnly_whenRanked fun _ => readOnly_checkFixed ctx _ _).bind_ok done
    cases done
    exact ⟨_, rfl⟩

theorem exact_of_fixed {fixedValues values : List Int} {dims : List Dim}
    (resolved : Resolved ctx data d d' reading (.fixed fixedValues))
    (leaves : (Axes.fixed fixedValues).leaves keepDims data.shape = .ok shape)
    (ranked : data.shape = .ranked dims) :
    ∃ S, reading.positions? dims.length values = some (some S) ∧
      shape = .ranked (dimsReduced S keepDims dims) := by
  rw [ranked] at leaves
  obtain ⟨held, S, integers, named, left⟩ := Inference.named_of_reducedShape rfl leaves
  rw [Dense.integers_ints, Except.ok.injEq] at integers
  subst integers
  refine ⟨S, ?_, left⟩
  obtain ⟨_, rfl | ⟨rfl, rank, known, rfl⟩⟩ := resolved
  · exact congrArg (Option.map some) named
  · obtain ⟨others, same, rfl⟩ := Shape.rank?_eq_some_iff.mp known
    obtain rfl : dims = others := Shape.ranked.inj (ranked.symm.trans same)
    rw [axisSet?_range] at named
    exact congrArg some named

theorem exact_of_constant {t : Tensor} {stored : Dense} {dims : List Dim}
    (resolved : Resolved ctx data d d' .operand axes) (operand : ctx.operand? 1 = some t)
    (leaves : axes.leaves keepDims data.shape = .ok shape) (ranked : data.shape = .ranked dims)
    (constant : t.data = some stored) :
    ∃ values S, stored.integers = .ok values ∧ axisSet? dims.length values = some S ∧
      shape = .ranked (dimsReduced S keepDims dims) := by
  cases axes with
  | given u =>
    obtain ⟨_, _, there, _⟩ := resolved
    obtain rfl : t = u := Option.some.inj (operand.symm.trans there)
    rw [ranked] at leaves
    exact Inference.named_of_reducedShape constant leaves
  | fixed values =>
    obtain ⟨_, same | ⟨same, _⟩⟩ := resolved <;> cases same
  | synthesized u => exact nomatch resolved.1
  | none => exact nomatch resolved.2

end Axes

/-- From the opset on that takes axes as an operand, a node reads that operand, or names all axes
    or none. -/
theorem Reduction.reading_of_late {r : Reduction} {opset : Int} {attributes : AttributeStore}
    {empty? : Option Bool} {reading : Reading} (late : r.operandSince ≤ opset)
    (reads : r.reading opset attributes empty? = .ok reading) :
    if empty? = some false then reading = .operand else reading = .untouched ∨ reading = .all := by
  rw [Reduction.reading, if_neg (by omega)] at reads
  obtain ⟨noop, _, same⟩ := except_bind_eq_ok_iff.mp reads
  cases same
  split
  · rfl
  · by_cases set : noop ≠ 0 <;> simp [set]

theorem Axes.exists_positions {ctx : Context} {data : Tensor} {d d' : Draft} {reading : Reading}
    {axes : Axes} {keepDims : Bool} {shape : Shape} {r : Reduction} {opset : Int}
    {attributes : AttributeStore} {empty? : Option Bool}
    (resolved : Resolved ctx data d d' reading axes)
    (leaves : axes.leaves keepDims data.shape = .ok shape)
    (reads : r.reading opset attributes empty? = .ok reading) {symbols : String → Nat}
    {lengths : List Nat} {values : List Int} (has : data.shape.HasLengths symbols lengths)
    (fit : ∀ t, reading.source? (ctx.operand? 1) = some t →
      t.MayHold symbols lengths.length values)
    (ranked : data.shape ≠ .unknownRank ∨ r.operandSince ≤ opset) :
    ∃ named, reading.positions? lengths.length values = some named := by
  cases axes with
  | none => exact ⟨_, by rw [resolved.2]; rfl⟩
  | synthesized t => exact ⟨_, by rw [resolved.1]; rfl⟩
  | given t =>
    obtain ⟨_, same, there, _⟩ := resolved
    rw [same] at fit ⊢
    obtain ⟨S, positions⟩ := axisSet?_of_inside (fit t there).inside
    exact ⟨some S, congrArg (Option.map some) positions⟩
  | fixed fixedValues =>
    cases shape : data.shape with
    | ranked dims =>
      -- inference went through, so the fixed axes were in range
      obtain ⟨S, names, _⟩ := exact_of_fixed resolved leaves shape
      rw [(has dims shape).length_eq.symm]
      exact ⟨_, names⟩
    | unknownRank =>
      have late := Reduction.reading_of_late (ranked.resolve_left fun other => other shape) reads
      obtain ⟨_, same | ⟨_, rank, known, _⟩⟩ := resolved
      · rw [same] at late
        split at late <;> simp at late
      · obtain ⟨dims, other, _⟩ := Shape.rank?_eq_some_iff.mp known
        rw [shape] at other
        contradiction

/-- What is promised of the element type and shape of a lowered node. -/
structure LoweredNode.TrulyTyped (s : LoweredNode) (node : SourceNode)
    (operands : List (Option Tensor)) : Prop where
  dtype_eq : s.out.dtype = s.data.dtype
  /-- Fitting axes name positions, unless those of an attribute meet an unknown rank. -/
  defined : ∀ symbols lengths values, s.data.shape.HasLengths symbols lengths →
    (∀ t, s.axes? = some t → t.MayHold symbols lengths.length values) →
    s.data.shape ≠ .unknownRank ∨ s.reduction.operandSince ≤ node.opset →
    ∃ named, s.reading.positions? lengths.length values = some named
  /-- The lengths at run time are those that the shape says. -/
  sound : ∀ symbols lengths values, s.data.shape.HasLengths symbols lengths →
    (∀ t, s.axes? = some t → t.MayHold symbols lengths.length values) →
    ∀ named, s.reading.positions? lengths.length values = some named →
      s.out.shape.HasLengths symbols (lengthsLeft named s.keepDims lengths)
  /-- Axes of the attribute regime leave each dim as it is, or a 1 in its place. -/
  exact_of_attribute : ∀ dims, s.data.shape = .ranked dims →
    node.opset < s.reduction.operandSince →
    ∃ S, s.reading.positions? dims.length [] = some (some S) ∧
      s.out.shape = .ranked (dimsReduced S s.keepDims dims)
  /-- So do constant axes. -/
  exact_of_constant : ∀ dims, s.data.shape = .ranked dims →
    s.reduction.operandSince ≤ node.opset → ∀ t stored, operands[1]?.join = some t →
    t.shape ≠ .scalar → t.shape ≠ .static [0] → t.data = some stored →
    ∃ values S, stored.integers = .ok values ∧ axisSet? dims.length values = some S ∧
      s.out.shape = .ranked (dimsReduced S s.keepDims dims)

/-- The shape of a lowered node holds of every run, and with axes that are known it is as exact as
    the shape of the data. -/
theorem lowered_shape_is_sound_and_exact (node : SourceNode) (operands : List (Option Tensor))
    (g g' : Graph) (outputs : List Tensor)
    (done : lowerNode .standard node operands g = (.ok outputs, g')) :
    ∃ s : LoweredNode, s.Describes node operands g outputs g' ∧ s.TrulyTyped node operands := by
  obtain ⟨s, describes, d, ops, axesId?, first, middle, last, source?, drafted, _⟩ :=
    LoweredNode.built_of_lowered done
  refine ⟨s, describes, ?_⟩
  obtain ⟨data, keep, axes, d₁, operand, found, resolve, dtype, leaves⟩ :=
    Reduction.lower_leaves drafted.lowered
  obtain ⟨reading, reads, resolved⟩ := Axes.resolve_ok resolve
  obtain rfl : data = s.data := Option.some.inj (operand.symm.trans describes.data_eq)
  obtain rfl : reading = s.reading := Except.ok.inj (reads.symm.trans describes.reading_eq)
  have keeps : (keep != 0) = s.keepDims := by
    obtain ⟨keep', found', same⟩ := describes.keepDims_eq
    rw [same, Except.ok.inj (found.symm.trans found')]
  rw [keeps] at leaves
  have source : s.axes? = s.reading.source? operands[1]?.join := describes.axes_eq
  refine ⟨dtype, ?_, ?_, ?_, ?_⟩
  · intro symbols lengths values has fit ranked
    rw [source] at fit
    exact Axes.exists_positions resolved leaves reads has fit ranked
  · intro symbols lengths values has fit named names
    rw [source] at fit
    exact Axes.leaves_hasLengths resolved leaves has fit names
  -- before the operand the axes of an attribute are known, so nothing is left open
  · intro dims ranked early
    unfold Reduction.entryAt at resolve
    rw [if_pos early] at resolve
    have known : s.data.rank? = some dims.length :=
      Shape.rank?_eq_some_iff.mpr ⟨dims, ranked, rfl⟩
    obtain ⟨values, rfl⟩ := Axes.fixed_of_fromAttribute resolve known
    exact Axes.exact_of_fixed resolved leaves ranked
  · intro dims ranked late t stored given notScalar notEmpty constant
    have nonempty : Axes.isEmptyOperand t.shape = false := by
      simp [Axes.isEmptyOperand, notScalar, notEmpty]
    have given' : Axes.emptiness { node, operands, graph := g } = some false := by
      unfold Axes.emptiness Context.operand?
      rw [given, Option.map_some, nonempty]
    have reading := Reduction.reading_of_late late reads
    rw [if_pos given'] at reading
    rw [reading] at resolved
    exact Axes.exact_of_constant resolved given leaves ranked constant

/-- A log-sum-exp that drops the dims of its axes operand. -/
def droppingLogSumExp : SourceNode :=
  { opType := "ReduceLogSumExp", opset := 18, attributes := .ofList [("keepdims", .int 0)] }

/-- A cube whose first two lengths are open, and whose first one has a name. -/
def openCube : Tensor :=
  { dtype := .bfloat16, shape := .ranked [.named "n", .anonymous, .known 4], data := none,
    origin := .given 0, id := "x", name := "x" }

/-- Two axes that are known at run time only. -/
def twoAxes : Tensor :=
  { dtype := .int64, shape := .static [2], data := none, origin := .given 1, id := "a", name := "a" }

/-- When the first and the last axis turn out to be named, the length between them is left. -/
theorem middle_length_of_openCube_is_left : ∃ out g',
    lowerNode .standard droppingLogSumExp [some openCube, some twoAxes] { name := "g" } =
      (.ok [out], g') ∧
    out.dtype = .bfloat16 ∧ out.shape.HasLengths (fun _ => 3) [5] := by
  have unopposed : firstReason
      (droppingLogSumExp.endings [some openCube, some twoAxes]) = none := by
    decide +kernel
  have decided := lowerNode_decided droppingLogSumExp [some openCube, some twoAxes] { name := "g" }
  rw [unopposed] at decided
  obtain ⟨out, g', done⟩ := decided
  obtain ⟨s, describes, typed⟩ := lowered_shape_is_sound_and_exact _ _ _ _ _ done
  obtain ⟨reduction, keepDims, reading, data, axes?, out', graph, ops⟩ := s
  obtain rfl : Reduction.logSumExp = reduction :=
    Reduction.operator_injective describes.operator_eq
  obtain rfl : openCube = data := Option.some.inj describes.data_eq
  obtain rfl : Reading.operand = reading := Except.ok.inj describes.reading_eq
  obtain rfl : axes? = some twoAxes := describes.axes_eq
  obtain rfl : out = out' := List.singleton_inj.mp describes.outputs_eq
  obtain ⟨keep, found, rfl⟩ := describes.keepDims_eq
  obtain rfl : 0 = keep := Except.ok.inj found
  refine ⟨out, g', done, typed.dtype_eq, ?_⟩
  refine typed.sound (fun _ => 3) [3, 5, 4] [0, -1] ?_ ?_ (some {0, 2}) rfl
  · intro dims shape
    cases shape
    exact .cons rfl (.cons trivial (.cons rfl .nil))
  · intro t same
    cases same
    refine ⟨⟨[2], ?_, rfl⟩, ?_, by decide, ?_⟩
    · intro dims shape
      cases shape
      exact .cons rfl .nil
    · intro data stored
      contradiction
    · unfold NamesOnce
      decide

end ReductionIR
