import ReductionIR.Proofs.Dispatch
import ReductionIR.Proofs.IntegerArrays
import ReductionIR.Proofs.Reading
/-
The operators a successful lowering drafts, one part after the other: those that compute all
axes, the step before the core, the core, and the step after it. Numbers grow from part to
part, and each constant stays in the draft under its id.
-/
namespace ReductionIR

open Stepwise

namespace Draft

/-- The operator that is drafted with a number. -/
def opOf (opType : String) (n : Nat) (inputs : List String) (attributes : Fields)
    (source? : Option String) : Op :=
  { id := Graph.numbered opType n, opType, inputs,
    outputs := [Graph.resultId (Graph.numbered opType n)], attributes, source? }

/-- A draft that went on with some operators. -/
structure Extends (d d' : Draft) (ops : List Op) : Prop where
  ops_eq : d'.ops = d.ops ++ ops
  tensors_kept : d.tensors ⊆ d'.tensors
  counter_le : d.counter ≤ d'.counter
  source_eq : d'.source? = d.source?

/-- A draft that holds a constant of a number. -/
def Holds (d : Draft) (stem : String) (n : Nat) (data : Dense) : Prop :=
  ∃ t ∈ d.tensors, t.id = Graph.numbered stem n ∧ t.data = some data

theorem Extends.refl (d : Draft) : Extends d d [] :=
  ⟨by simp, List.Subset.refl _, Nat.le_refl _, rfl⟩

theorem Extends.trans {d d' d'' : Draft} {ops more : List Op} (first : Extends d d' ops)
    (second : Extends d' d'' more) : Extends d d'' (ops ++ more) where
  ops_eq := by rw [second.ops_eq, first.ops_eq, List.append_assoc]
  tensors_kept := List.Subset.trans first.tensors_kept second.tensors_kept
  counter_le := Nat.le_trans first.counter_le second.counter_le
  source_eq := second.source_eq.trans first.source_eq

theorem Holds.mono {d d' : Draft} {ops : List Op} {stem : String} {n : Nat} {data : Dense}
    (holds : Holds d stem n data) (extended : Extends d d' ops) : Holds d' stem n data := by
  obtain ⟨t, member, named, stored⟩ := holds
  exact ⟨t, extended.tensors_kept member, named, stored⟩

variable {g : Graph} {d d' : Draft} {t : Tensor}

theorem make_ok {opType : String} {inputs : List Tensor} {attributes : Fields}
    (done : make g opType inputs attributes d = .ok t d') :
    ∃ n, d.counter < n ∧ d'.counter = n ∧
      Extends d d' [opOf opType n (inputs.map Tensor.id) attributes d.source?] ∧
      t.id = Graph.resultId (Graph.numbered opType n) := by
  rw [make_apply] at done
  split at done
  · cases done
    have above := Graph.counter_lt_freeNumber g opType d.counter
    exact ⟨_, above, rfl, ⟨rfl, List.subset_append_left _ _, Nat.le_of_lt above, rfl⟩, rfl⟩
  · contradiction

theorem make_inferred {opType : String} {inputs : List Tensor} {attributes : Fields} (done : make g opType inputs attributes d = .ok t d') :
    infer opType (inputs.map Tensor.toFacts) attributes = .ok (t.dtype, t.shape) ∧
      t.data = none := by
  rw [make_apply] at done
  split at done
  · rename_i inferred fine
    cases done
    exact ⟨fine, rfl⟩
  · contradiction

theorem constant_ok {data : Except Breakdown Dense} {stem : String}
    (done : constant g data stem d = .ok t d') :
    ∃ n a, data = .ok a ∧ d.counter < n ∧ d'.counter = n ∧ Extends d d' [] ∧
      t.id = Graph.numbered stem n ∧ Holds d' stem n a := by
  rw [constant_apply] at done
  split at done
  · rename_i a
    cases done
    have above := Graph.counter_lt_freeNumber g stem d.counter
    refine ⟨_, a, rfl, above, rfl, ⟨?_, List.subset_append_left _ _, Nat.le_of_lt above, rfl⟩, rfl,
      d.nextConstant g stem a, List.mem_append_right _ (List.mem_singleton_self _), rfl, rfl⟩
    exact (List.append_nil d.ops).symm
  · contradiction

theorem constant_data {data : Except Breakdown Dense} {stem : String}
    (done : constant g data stem d = .ok t d') : ∃ a, data = .ok a ∧ t.data = some a := by
  rw [constant_apply] at done
  split at done
  · rename_i a
    cases done
    exact ⟨a, rfl, rfl⟩
  · contradiction

end Draft

open Draft

theorem Inference.ranged_open {start stop step : Facts} {attributes : Fields} {inferred : Inferred}
    (unstored : stop.data = none)
    (done : Inference.ranged attributes [start, stop, step] = .ok inferred) :
    inferred.2 = .ranked [.anonymous] := by
  have unknown : Inference.constantValues stop = .ok none := by
    rw [Inference.constantValues, unstored]
  unfold Inference.ranged at done
  obtain ⟨values, read, done⟩ := except_bind_eq_ok_iff.mp done
  rw [List.mapM_cons] at read
  obtain ⟨first, _, read⟩ := except_bind_eq_ok_iff.mp read
  rw [List.mapM_cons, unknown] at read
  obtain ⟨later, read, same⟩ := except_bind_eq_ok_iff.mp read
  obtain ⟨middle, here, read⟩ := except_bind_eq_ok_iff.mp read
  cases here
  obtain ⟨last, _, more⟩ := except_bind_eq_ok_iff.mp read
  cases more
  cases same
  have shape : Inference.rangeShape (first :: none :: last) = .ok (.ranked [.anonymous]) := by
    cases first with
    | none => rfl
    | some ns =>
      by_cases single : ns.length = 1 <;> cases head : ns.head? <;>
        simp [Inference.rangeShape, single, head]
  obtain ⟨result, ranked, done⟩ := except_bind_eq_ok_iff.mp done
  rw [shape] at ranked
  cases ranked
  split at done
  · cases done
    rfl
  · contradiction

namespace Axes

/-- The operators that compute all axes of a tensor, by their numbers and those of the two
    constants. -/
def allOps (data : String) (lengths rank stop start step last : Nat)
    (source? : Option String) : List Op :=
  [opOf "ShapeOf" lengths [data] [] source?,
    opOf "ShapeOf" rank [Graph.resultId (Graph.numbered "ShapeOf" lengths)] [] source?,
    opOf "Squeeze" stop [Graph.resultId (Graph.numbered "ShapeOf" rank)]
      [("axes", .ofInts [0])] source?,
    opOf "Range" last
      [Graph.numbered "range_start" start, Graph.resultId (Graph.numbered "Squeeze" stop),
        Graph.numbered "range_step" step] [("output_type", .dtype .int64)] source?]

/-- The scalar of an integer. -/
def scalarOf (n : Int) : Dense := ⟨.int64, [], [.int n]⟩

/-- What computing all axes leaves in a draft. -/
structure AllDrafted (d d' : Draft) (data : String) (t : Tensor)
    (lengths rank stop start step last : Nat) : Prop where
  above : d.counter < lengths
  growing : lengths < rank ∧ rank < stop ∧ stop < start ∧ start < step ∧ step < last
  counter_eq : d'.counter = last
  extended : Extends d d' (allOps data lengths rank stop start step last d.source?)
  id_eq : t.id = Graph.resultId (Graph.numbered "Range" last)
  unstored : t.data = Option.none
  shape_eq : t.shape = .ranked [.anonymous]
  first : Holds d' "range_start" start (scalarOf 0)
  width : Holds d' "range_step" step (scalarOf 1)

variable {g : Graph} {d d' : Draft} {data t : Tensor}

theorem allOf_ok (done : allOf g data d = .ok t d') :
    ∃ lengths rank stop start step last,
      AllDrafted d d' data.id t lengths rank stop start step last := by
  unfold allOf at done
  obtain ⟨t₁, d₁, one, done⟩ := bind_eq_ok_iff.mp done
  obtain ⟨t₂, d₂, two, done⟩ := bind_eq_ok_iff.mp done
  obtain ⟨t₃, d₃, three, done⟩ := bind_eq_ok_iff.mp done
  obtain ⟨t₄, d₄, four, done⟩ := bind_eq_ok_iff.mp done
  obtain ⟨t₅, d₅, five, six⟩ := bind_eq_ok_iff.mp done
  obtain ⟨lengths, above₁, counter₁, ext₁, id₁⟩ := make_ok one
  obtain ⟨rank, above₂, counter₂, ext₂, id₂⟩ := make_ok two
  obtain ⟨stop, above₃, counter₃, ext₃, id₃⟩ := make_ok three
  obtain ⟨start, zero, isZero, above₄, counter₄, ext₄, id₄, holds₄⟩ := constant_ok four
  obtain ⟨step, unit, isOne, above₅, counter₅, ext₅, id₅, holds₅⟩ := constant_ok five
  obtain ⟨last, above₆, counter₆, ext₆, id₆⟩ := make_ok six
  obtain rfl : scalarOf 0 = zero := Except.ok.inj isZero
  obtain rfl : scalarOf 1 = unit := Except.ok.inj isOne
  obtain ⟨inferred, unstored⟩ := make_inferred six
  have opened : t.shape = .ranked [.anonymous] :=
    Inference.ranged_open (make_inferred three).2 (lift_eq_ok_iff.mp inferred)
  refine ⟨lengths, rank, stop, start, step, last, above₁, by omega, counter₆, ?_, id₆, unstored,
    opened, (holds₄.mono ext₅).mono ext₆, holds₅.mono ext₆⟩
  have chain := ((((ext₁.trans ext₂).trans ext₃).trans ext₄).trans ext₅).trans ext₆
  simpa [allOps, id₁, id₂, id₃, id₄, id₅, ext₁.source_eq, ext₂.source_eq, ext₃.source_eq,
    ext₄.source_eq, ext₅.source_eq] using chain

variable {ctx : Context}

/-- How the axes that a node names and the form they are resolved to go together, and what was
    drafted on the way. -/
def Resolved (ctx : Context) (data : Tensor) (d d' : Draft) (reading : Reading) : Axes → Prop
  | fixed values => d' = d ∧ (reading = .fixed values ∨ reading = .all ∧
      ∃ rank, data.rank? = some rank ∧ values = (List.range rank).map Int.ofNat)
  | given t => d' = d ∧ reading = .operand ∧ ctx.operand? 1 = some t ∧ t.shape.isFullyKnown
  | synthesized t => reading = .all ∧ ∃ lengths rank stop start step last,
      AllDrafted d d' data.id t lengths rank stop start step last
  | none => d' = d ∧ reading = .untouched

/-- Is the second operand there and, if so, empty? -/
def emptiness (ctx : Context) : Option Bool :=
  (ctx.operand? 1).map fun axes => isEmptyOperand axes.shape

theorem whenAbsent_ok {noop : Int} {axes : Axes}
    (done : whenAbsent ctx data noop d = .ok axes d') :
    Resolved ctx data d d' (if noop ≠ 0 then .untouched else .all) axes := by
  unfold whenAbsent at done
  split at done
  · rename_i set
    rw [pure_apply] at done
    cases done
    exact ⟨rfl, by simp [set]⟩
  · rename_i unset
    obtain ⟨t, d₁, drafted, done⟩ := bind_eq_ok_iff.mp done
    rw [pure_apply] at done
    cases done
    exact ⟨by simp [unset], allOf_ok drafted⟩

theorem fromAttribute_ok {axes : Axes} (done : fromAttribute ctx data d = .ok axes d') :
    ∃ values?, ctx.node.attributes.ints? "axes" = .ok values? ∧
      Resolved ctx data d d'
        (if (values?.getD []).isEmpty then .all else .fixed (values?.getD [])) axes := by
  unfold fromAttribute at done
  obtain ⟨values?, found, done⟩ := Context.read_bind_ok done
  refine ⟨values?, found, ?_⟩
  dsimp only at done
  split at done
  · rename_i empty
    rw [if_pos empty]
    unfold every at done
    cases known : data.rank? with
    | some rank =>
      simp only [known, pure_apply] at done
      cases done
      exact ⟨rfl, Or.inr ⟨rfl, rank, known, rfl⟩⟩
    | none =>
      simp only [known] at done
      obtain ⟨t, d₂, drafted, done⟩ := bind_eq_ok_iff.mp done
      rw [pure_apply] at done
      cases done
      exact ⟨rfl, allOf_ok drafted⟩
  · rename_i filled
    rw [if_neg filled]
    obtain ⟨_, _, done⟩ :=
      (readOnly_whenRanked fun _ => readOnly_checkFixed ctx _ _).bind_ok done
    rw [pure_apply] at done
    cases done
    exact ⟨rfl, Or.inl rfl⟩

theorem fromInput_ok {axes : Axes} (done : fromInput ctx data d = .ok axes d') :
    ∃ noop, ctx.node.attributes.int "noop_with_empty_axes" 0 = .ok noop ∧
      Resolved ctx data d d' (if emptiness ctx = some false then .operand
        else if noop ≠ 0 then .untouched else .all) axes := by
  unfold fromInput at done
  obtain ⟨noop, found, done⟩ := Context.read_bind_ok done
  refine ⟨noop, found, ?_⟩
  unfold emptiness
  cases operand : ctx.operand? 1 with
  | none =>
    simp only [operand] at done
    exact whenAbsent_ok done
  | some t =>
    simp only [operand, Option.map_some] at done ⊢
    split at done
    · exact absurd done (by simp [Context.fail, throw_apply])
    · rename_i known
      split at done
      · rename_i empty
        simpa [empty] using whenAbsent_ok done
      · rename_i filled
        obtain ⟨_, _, done⟩ :=
          (readOnly_whenRanked fun _ => readOnly_checkOperand ctx _ _).bind_ok done
        rw [pure_apply] at done
        cases done
        exact ⟨rfl, by simp [filled], operand, by simpa using known⟩

/-- An operand that axes could be read from has a known shape, even when it is empty. -/
theorem known_of_fromInput {axes : Axes} (done : fromInput ctx data d = .ok axes d') {t : Tensor}
    (operand : ctx.operand? 1 = some t) : t.shape.isFullyKnown = true := by
  unfold fromInput at done
  obtain ⟨_, _, done⟩ := Context.read_bind_ok done
  simp only [operand] at done
  split at done
  · exact absurd done (by simp [Context.fail, throw_apply])
  · rename_i known
    simpa using known

/-- The resolved axes are those the node names at its opset. -/
theorem resolve_ok {r : Reduction} {axes : Axes}
    (done : resolve ctx data (r.entryAt ctx.node.opset).policy d = .ok axes d') :
    ∃ reading, r.reading ctx.node.opset ctx.node.attributes (emptiness ctx) = .ok reading ∧
      Resolved ctx data d d' reading axes := by
  unfold Reduction.entryAt at done
  unfold Reduction.reading
  split at done
  · rename_i early
    rw [if_pos early]
    obtain ⟨values?, found, resolved⟩ := fromAttribute_ok done
    rw [found]
    exact ⟨_, rfl, resolved⟩
  · rename_i late
    rw [if_neg late]
    obtain ⟨noop, found, resolved⟩ := fromInput_ok done
    rw [found]
    exact ⟨_, rfl, resolved⟩

/-- Where the core reads its axes, and what was drafted for them. -/
def Operand (d d' : Draft) (t : Tensor) : Axes → Prop
  | fixed values => ∃ n, d.counter < n ∧ d'.counter = n ∧ t.id = Graph.numbered "axes" n ∧
      Holds d' "axes" n ⟨.int64, [values.length], values.map .int⟩
  | given u | synthesized u => t = u ∧ d' = d
  | none => False

theorem operand_ok {g : Graph} {axes : Axes} (done : axes.operand g d = .ok t d') :
    Extends d d' [] ∧ Operand d d' t axes := by
  cases axes with
  | fixed values =>
    obtain ⟨n, a, encoded, above, counter, extended, named, holds⟩ := constant_ok done
    obtain rfl := Dense.ofInts_eq_ok encoded
    exact ⟨extended, n, above, counter, named, holds⟩
  | given u =>
    cases done
    exact ⟨Extends.refl _, rfl, rfl⟩
  | synthesized u =>
    cases done
    exact ⟨Extends.refl _, rfl, rfl⟩
  | none => contradiction

end Axes

namespace Reduction

/-- The kind of operator before the core, if there is one, and what it reads. -/
def opener? : Reduction → Option OpKind
  | logSumExp => some .exp
  | sumSquare => some .multiply
  | _ => none

def openerInputs (kind : OpKind) (x : String) : List String :=
  match kind with
  | .multiply => [x, x]
  | _ => [x]

/-- The operators before the core, in it and after it, and the ids of their results. Without
    axes there is no core. -/
def openerOps (r : Reduction) (x : String) (n : Nat) (source? : Option String) : List Op :=
  match r.opener? with
  | none => []
  | some kind => [opOf kind.opType n (openerInputs kind x) [] source?]

def preparedId (r : Reduction) (x : String) (n : Nat) : String :=
  match r.opener? with
  | none => x
  | some kind => Graph.resultId (Graph.numbered kind.opType n)

def coreOps (r : Reduction) (keepDims : Bool) (x : String) (axes? : Option String) (n : Nat)
    (source? : Option String) : List Op :=
  match axes? with
  | none => []
  | some axes => [opOf r.kernel.opType n [x, axes] [("keep_dims", .bool keepDims)] source?]

def reducedId (r : Reduction) (x : String) (axes? : Option String) (n : Nat) : String :=
  match axes? with
  | none => x
  | some _ => Graph.resultId (Graph.numbered r.kernel.opType n)

def closerOps (r : Reduction) (x : String) (n : Nat) (source? : Option String) : List Op :=
  match r with
  | logSum | logSumExp => [opOf "Log" n [x] [] source?]
  | _ => []

def finishedId (r : Reduction) (x : String) (n : Nat) : String :=
  match r with
  | logSum | logSumExp => Graph.resultId (Graph.numbered "Log" n)
  | _ => x

variable {ctx : Context} {d d' : Draft} {x t : Tensor}

theorem prepare_ok {r : Reduction} (done : r.prepare ctx x d = .ok t d') :
    ∃ n, Extends d d' (r.openerOps x.id n d.source?) ∧ t.id = r.preparedId x.id n := by
  cases r
  case logSumExp =>
    obtain ⟨n, _, _, extended, named⟩ := make_ok done
    exact ⟨n, extended, named⟩
  case sumSquare =>
    obtain ⟨n, _, _, extended, named⟩ := make_ok done
    exact ⟨n, extended, named⟩
  all_goals
    cases done
    exact ⟨0, Extends.refl _, rfl⟩

theorem finish_ok {r : Reduction} (done : r.finish ctx x d = .ok t d') :
    ∃ n, Extends d d' (r.closerOps x.id n d.source?) ∧ t.id = r.finishedId x.id n := by
  cases r
  case logSum =>
    obtain ⟨n, _, _, extended, named⟩ := make_ok done
    exact ⟨n, extended, named⟩
  case logSumExp =>
    obtain ⟨n, _, _, extended, named⟩ := make_ok done
    exact ⟨n, extended, named⟩
  all_goals
    cases done
    exact ⟨0, Extends.refl _, rfl⟩

theorem reduce_ok {r : Reduction} {keepDims : Bool} {axes : Axes}
    (done : r.reduce ctx keepDims axes x d = .ok t d') :
    (axes = .none ∧ t = x ∧ d' = d) ∨
      ∃ operand d₁ n, axes.operand ctx.graph d = .ok operand d₁ ∧
        Extends d₁ d' [opOf r.kernel.opType n [x.id, operand.id] [("keep_dims", .bool keepDims)]
          d₁.source?] ∧
        t.id = Graph.resultId (Graph.numbered r.kernel.opType n) := by
  unfold reduce at done
  split at done
  · rw [pure_apply] at done
    cases done
    exact Or.inl ⟨rfl, rfl, rfl⟩
  · obtain ⟨operand, d₁, first, second⟩ := bind_eq_ok_iff.mp done
    obtain ⟨n, _, _, extended, named⟩ := make_ok second
    exact Or.inr ⟨operand, d₁, n, first, extended, named⟩

theorem lower_ok {r : Reduction} {regime : Regime} {out : Tensor}
    (done : r.lower regime ctx d = .ok out d') :
    ∃ data keep axes prepared reduced d₁ d₂ d₃, ctx.operand? 0 = some data ∧
      ctx.node.attributes.int "keepdims" 1 = .ok keep ∧
      Axes.resolve ctx data regime.policy d = .ok axes d₁ ∧
      r.prepare ctx data d₁ = .ok prepared d₂ ∧
      r.reduce ctx (keep != 0) axes prepared d₂ = .ok reduced d₃ ∧
      r.finish ctx reduced d₃ = .ok out d' := by
  unfold lower at done
  obtain ⟨data, operand, done⟩ := (ctx.readOnly_operand 0).bind_ok done
  obtain ⟨_, _, done⟩ := (readOnly_checkType regime ctx data).bind_ok done
  obtain ⟨keep, found, done⟩ := Context.read_bind_ok done
  obtain ⟨axes, d₁, resolved, done⟩ := bind_eq_ok_iff.mp done
  obtain ⟨prepared, d₂, opened, done⟩ := bind_eq_ok_iff.mp done
  obtain ⟨reduced, d₃, core, closed⟩ := bind_eq_ok_iff.mp done
  exact ⟨data, keep, axes, prepared, reduced, d₁, d₂, d₃,
    (Context.operand_eq_ok_iff.mp operand).1, found, resolved, opened, core, closed⟩

theorem known_of_lower {r : Reduction} {out : Tensor}
    (done : r.lower (r.entryAt ctx.node.opset).toRegime ctx d = .ok out d')
    (late : ¬ ctx.node.opset < r.operandSince) (operand : ctx.operand? 1 = some t) :
    t.shape.isFullyKnown = true := by
  obtain ⟨_, _, _, _, _, _, _, _, _, _, resolved, _⟩ := lower_ok done
  unfold entryAt at resolved
  rw [if_neg late] at resolved
  exact Axes.known_of_fromInput resolved operand

/-- How the axes come in: what was drafted to compute them, and the id they are read under. -/
inductive AxesParts (d : Draft) (data : Tensor) (operand? : Option Tensor)
    (source? : Option String) : Reading → List Op → Option String → Prop where
  | untouched : AxesParts d data operand? source? .untouched [] none
  | fixed {values : List Int} {n : Nat}
      (holds : Holds d "axes" n ⟨.int64, [values.length], values.map .int⟩) :
      AxesParts d data operand? source? (.fixed values) [] (some (Graph.numbered "axes" n))
  | ranked {rank n : Nat} (known : data.rank? = some rank)
      (holds : Holds d "axes" n
        ⟨.int64, [rank], ((List.range rank).map Int.ofNat).map .int⟩) :
      AxesParts d data operand? source? .all [] (some (Graph.numbered "axes" n))
  | synthesized {lengths rank stop start step last : Nat} (ordered : lengths < rank)
      (first : Holds d "range_start" start (Axes.scalarOf 0))
      (width : Holds d "range_step" step (Axes.scalarOf 1)) :
      AxesParts d data operand? source? .all
        (Axes.allOps data.id lengths rank stop start step last source?)
        (some (Graph.resultId (Graph.numbered "Range" last)))
  | given {t : Tensor} (there : operand? = some t) (known : t.shape.isFullyKnown) :
      AxesParts d data operand? source? .operand [] (some t.id)

theorem axesParts_of_resolved {r : Reduction} {data prepared reduced : Tensor} {keepDims : Bool}
    {axes : Axes} {reading : Reading} {d₁ d₂ d₃ : Draft} {more : List Op}
    (resolved : Axes.Resolved ctx data d d₁ reading axes) (opened : Extends d₁ d₂ more)
    (core : r.reduce ctx keepDims axes prepared d₂ = .ok reduced d₃) {rest : List Op}
    (closed : Extends d₃ d' rest) :
    ∃ ops axes? n, AxesParts d' data (ctx.operand? 1) d.source? reading ops axes? ∧
      Extends d d₁ ops ∧
      Extends d₂ d₃ (r.coreOps keepDims prepared.id axes? n d.source?) ∧
      reduced.id = r.reducedId prepared.id axes? n := by
  -- resolving the axes leaves the place that drafted operators are marked with
  have source : d₁.source? = d.source? := by
    cases axes with
    | synthesized t =>
      obtain ⟨_, _, _, _, _, _, _, drafted⟩ := resolved
      exact drafted.extended.source_eq
    | _ => rw [resolved.1]
  rcases reduce_ok core with ⟨rfl, rfl, rfl⟩ | ⟨operand, d₄, n, encoded, extended, named⟩
  · obtain ⟨rfl, rfl⟩ := resolved
    exact ⟨[], none, 0, .untouched, Extends.refl _, Extends.refl _, rfl⟩
  · obtain ⟨still, read⟩ := Axes.operand_ok encoded
    have ofCore : Extends d₂ d₃ (r.coreOps keepDims prepared.id (some operand.id) n d.source?) := by
      have both := still.trans extended
      rwa [still.source_eq, opened.source_eq, source] at both
    cases axes with
    | fixed values =>
      obtain ⟨rfl, named_values⟩ := resolved
      obtain ⟨k, _, _, id_eq, holds⟩ := read
      have kept := (holds.mono extended).mono closed
      rw [id_eq] at ofCore
      rcases named_values with rfl | ⟨rfl, rank, known, rfl⟩
      · exact ⟨[], _, n, .fixed kept, Extends.refl _, ofCore, named⟩
      · rw [List.length_map, List.length_range] at kept
        exact ⟨[], _, n, .ranked known kept, Extends.refl _, ofCore, named⟩
    | given u =>
      obtain ⟨rfl, rfl, there, known⟩ := resolved
      obtain ⟨rfl, _⟩ := read
      exact ⟨[], _, n, .given there known, Extends.refl _, ofCore, named⟩
    | synthesized u =>
      obtain ⟨rfl, lengths, rank, stop, start, step, last, drafted⟩ := resolved
      obtain ⟨rfl, _⟩ := read
      rw [drafted.id_eq] at ofCore
      have first := (((drafted.first.mono opened).mono (still.trans extended))).mono closed
      have width := (((drafted.width.mono opened).mono (still.trans extended))).mono closed
      exact ⟨_, _, n, .synthesized drafted.growing.1 first width, drafted.extended, ofCore, named⟩
    | none => exact absurd read not_false

/-- The operators of a lowering are those for the axes, the one before the core, the core and
    the one after it, as far as there are such. -/
theorem lower_parts {r : Reduction} {out : Tensor}
    (done : r.lower (r.entryAt ctx.node.opset).toRegime ctx d = .ok out d') :
    ∃ data keep reading ops axes? first middle last, ctx.operand? 0 = some data ∧
      ctx.node.attributes.int "keepdims" 1 = .ok keep ∧
      r.reading ctx.node.opset ctx.node.attributes (Axes.emptiness ctx) = .ok reading ∧
      AxesParts d' data (ctx.operand? 1) d.source? reading ops axes? ∧
      d'.ops = d.ops ++ (ops ++ (r.openerOps data.id first d.source? ++
        (r.coreOps (keep != 0) (r.preparedId data.id first) axes? middle d.source? ++
          r.closerOps (r.reducedId (r.preparedId data.id first) axes? middle) last
            d.source?))) ∧
      out.id = r.finishedId (r.reducedId (r.preparedId data.id first) axes? middle) last := by
  obtain ⟨data, keep, axes, prepared, reduced, d₁, d₂, d₃, operand, found, resolved, opened, core,
    closed⟩ := lower_ok done
  obtain ⟨reading, named, resolved⟩ := Axes.resolve_ok resolved
  obtain ⟨first, ofOpener, prepared_id⟩ := prepare_ok opened
  obtain ⟨last, ofCloser, out_id⟩ := finish_ok closed
  obtain ⟨ops, axes?, middle, parts, ofAxes, ofCore, reduced_id⟩ :=
    axesParts_of_resolved resolved ofOpener core ofCloser
  refine ⟨data, keep, reading, ops, axes?, first, middle, last, operand, found, named, parts, ?_, ?_⟩
  · have chain := ((ofAxes.trans ofOpener).trans ofCore).trans ofCloser
    have whole := chain.ops_eq
    have source₁ := ofAxes.source_eq
    have source₃ := ((ofAxes.trans ofOpener).trans ofCore).source_eq
    simpa [prepared_id, reduced_id, source₁, source₃] using whole
  · rw [out_id, reduced_id, prepared_id]

end Reduction

end ReductionIR
