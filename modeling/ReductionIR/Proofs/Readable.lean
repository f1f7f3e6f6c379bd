import ReductionIR.Proofs.Congruence
import ReductionIR.Proofs.Exportable
import ReductionIR.Proofs.Regimes
/-
Graphs that can be lowered again. What was checked when a reduction was drafted still shows on
the tensors it reads, so that a node with operands like them passes the same checks. Every
conversion whose graph has nothing but reductions leaves such a graph.
-/
namespace ReductionIR

open Build Draft Stepwise

variable {codec : Codec}

theorem Build.Decided.of_ok {α : Type} {m : Build α} {reasons : List (Bool × Ending)}
    {post : α → Prop} (decided : Decided m reasons post) {a : α} {d d' : Draft}
    (done : m d = .ok a d') : firstReason reasons = none ∧ post a := by
  have decision := decided d
  cases reason : firstReason reasons with
  | some ending =>
    rw [reason] at decision
    obtain ⟨fault, e, failed, _⟩ := decision
    rw [done] at failed
    contradiction
  | none =>
    rw [reason] at decision
    obtain ⟨b, e, finished, holds⟩ := decision
    rw [done] at finished
    cases finished
    exact ⟨rfl, holds⟩

/-! Reductions without steps around the core -/

namespace ReduceKind

/-- The reduction that is nothing but a core of this kind. -/
def reduction : ReduceKind → Reduction
  | sum => .sum
  | mean => .mean
  | max => .max
  | min => .min
  | prod => .prod
  | l1 => .l1
  | l2 => .l2

theorem operator_reduction (kind : ReduceKind) : kind.reduction.operator = kind.opType := by
  cases kind <;> rfl

theorem kernel_reduction (kind : ReduceKind) : kind.reduction.kernel = kind := by
  cases kind <;> rfl

variable {kind : ReduceKind} {regime : Regime} {ctx : Context} {d d' : Draft} {out : Tensor}

/-- Without steps around the core, a lowering checks the data, resolves the axes and reduces. -/
theorem lower_eq_ok_iff : kind.reduction.lower regime ctx d = .ok out d' ↔
    ∃ data keep axes d₁, ctx.operand? 0 = some data ∧ data.dtype ∈ regime.types ∧
      ctx.node.attributes.int "keepdims" 1 = .ok keep ∧
      Axes.resolve ctx data regime.policy d = .ok axes d₁ ∧
      kind.reduction.reduce ctx (keep != 0) axes data d₁ = .ok out d' := by
  have plain : kind.reduction.lower regime ctx = ctx.operand 0 >>= fun data =>
      Reduction.checkType regime ctx data >>= fun _ =>
        ctx.read (ctx.node.attributes.int "keepdims" 1) >>= fun keepDims =>
          Axes.resolve ctx data regime.policy >>= fun axes =>
            kind.reduction.reduce ctx (keepDims != 0) axes data := by
    cases kind <;>
      simp only [Reduction.lower, reduction, Reduction.prepare, Reduction.finish, pure_bind,
        bind_pure]
  have accepts : ∀ data : Tensor, Reduction.checkType regime ctx data d = .ok () d ↔
      data.dtype ∈ regime.types := by
    intro data
    unfold Reduction.checkType
    split
    · rename_i listed
      simp [listed, pure_apply]
    · rename_i unlisted
      simp [unlisted, Context.fail, throw_apply]
  rw [plain]
  constructor
  · intro done
    obtain ⟨data, operand, done⟩ := (ctx.readOnly_operand 0).bind_ok done
    obtain ⟨_, accepted, done⟩ := (Reduction.readOnly_checkType regime ctx data).bind_ok done
    obtain ⟨keep, read, done⟩ := Context.read_bind_ok done
    obtain ⟨axes, d₁, resolved, core⟩ := bind_eq_ok_iff.mp done
    exact ⟨data, keep, axes, d₁, (Context.operand_eq_ok_iff.mp operand).1,
      (accepts data).mp accepted, read, resolved, core⟩
  · rintro ⟨data, keep, axes, d₁, found, accepted, read, resolved, core⟩
    refine bind_eq_ok_iff.mpr ⟨data, d, Context.operand_eq_ok_iff.mpr ⟨found, rfl⟩, ?_⟩
    refine bind_eq_ok_iff.mpr ⟨(), d, (accepts data).mpr accepted, ?_⟩
    refine bind_eq_ok_iff.mpr ⟨keep, d, Context.read_eq_ok_iff.mpr ⟨read, rfl⟩, ?_⟩
    exact bind_eq_ok_iff.mpr ⟨axes, d₁, resolved, core⟩

end ReduceKind

theorem Reduction.reduce_eq_ok_iff {r : Reduction} {ctx : Context} {keepDims : Bool} {axes : Axes}
    (used : axes ≠ .none) {x out : Tensor} {d d' : Draft} :
    r.reduce ctx keepDims axes x d = .ok out d' ↔
      ∃ operand d₁, axes.operand ctx.graph d = .ok operand d₁ ∧
        Draft.make ctx.graph r.kernel.opType [x, operand] [("keep_dims", .bool keepDims)] d₁ =
          .ok out d' := by
  cases axes with
  | none => contradiction
  | _ => exact bind_eq_ok_iff

/-! Operators that only reduce -/

/-- An operator of a kind that reduces. -/
def Op.IsReduction (op : Op) : Prop := op.opType ∈ ReduceKind.all.map ReduceKind.opType

instance (op : Op) : Decidable op.IsReduction := inferInstanceAs (Decidable (_ ∈ _))

/-- A graph of reductions and of nothing else. -/
def Graph.OnlyReduces (g : Graph) : Prop := ∀ op ∈ g.ops.values, op.IsReduction

instance (g : Graph) : Decidable g.OnlyReduces := inferInstanceAs (Decidable (∀ op ∈ _, _))

/-- Elementwise steps are no reductions, so a reduction has none when all its operators are. -/
theorem Reduction.eq_reduction_of_plain {r : Reduction} {keepDims : Bool} {x : String}
    {axes? : Option String} {first middle last : Nat} {source? : Option String}
    (plain : ∀ op ∈ r.coreAndSteps keepDims x axes? first middle last source?, op.IsReduction) :
    ∃ kind : ReduceKind, r = kind.reduction := by
  have elementwise : ∀ kind ∈ [OpKind.exp, .multiply, .log], ∀ n inputs,
      ¬ (opOf kind.opType n inputs [] source?).IsReduction := by
    intro kind member n inputs
    change kind.opType ∉ ReduceKind.all.map ReduceKind.opType
    revert kind
    decide
  have closing : ∀ n y, opOf "Log" n [y] [] source? ∉
      r.coreAndSteps keepDims x axes? first middle last source? :=
    fun n y member => elementwise .log (by decide) n [y] (plain _ member)
  -- the three other reductions would draft an elementwise step
  cases r
  case sum => exact ⟨.sum, rfl⟩
  case mean => exact ⟨.mean, rfl⟩
  case max => exact ⟨.max, rfl⟩
  case min => exact ⟨.min, rfl⟩
  case prod => exact ⟨.prod, rfl⟩
  case l1 => exact ⟨.l1, rfl⟩
  case l2 => exact ⟨.l2, rfl⟩
  case logSum =>
    exact absurd (List.mem_append_right _ (List.mem_append_right _ (List.mem_singleton_self _)))
      (closing last _)
  case logSumExp =>
    exact absurd (plain _ (List.mem_cons_self ..)) (elementwise .exp (by decide) first [x])
  case sumSquare =>
    exact absurd (plain _ (List.mem_cons_self ..)) (elementwise .multiply (by decide) first [x, x])

/-! Axes that were checked -/

namespace Axes

variable {t u : Tensor} {values : List Int}

theorem operandReasons_congr (same : t.Resembles u) (rank? : Option Nat) :
    operandReasons rank? t = operandReasons rank? u := by
  have shape : t.shape = u.shape := congrArg Facts.shape same
  have data : t.data = u.data := congrArg Facts.data same
  simp only [operandReasons, Tensor.listed?, Tensor.isUnreadable, Tensor.heldAxes, shape, data]

/-- A stored list of axes passes when the axes do: its length is their number. -/
theorem operandReasons_of_vector (holds : t.toFacts = .vector values) (rank? : Option Nat) :
    firstReason (operandReasons rank? t) = (firstReason (misfits rank? values)).map .rejected := by
  unfold operandReasons
  rw [Tensor.listed?_of_vector holds, Tensor.heldAxes_of_vector holds,
    Tensor.isUnreadable_of_vector holds, ← firstReason_of_count]
  simp

theorem misfits_range (rank : Nat) :
    firstReason (misfits (some rank) ((List.range rank).map Int.ofNat)) = Option.none := by
  have inside : ((List.range rank).map Int.ofNat).any (isOutside rank) = false := by
    refine List.any_eq_false.mpr fun axis member => ?_
    obtain ⟨n, below, rfl⟩ := List.mem_map.mp member
    have := List.mem_range.mp below
    simp only [isOutside, decide_eq_true_eq, Int.ofNat_eq_natCast]
    omega
  simp only [misfits, Option.any_some, List.length_map, List.length_range, lt_irrefl, decide_false,
    inside, firstReason_cons, firstReason_nil, Bool.false_eq_true, ↓reduceIte]

/-- What is known of data and axes that were checked against each other. -/
structure Checked (data operand : Tensor) : Prop where
  known : operand.shape.isFullyKnown = true
  passed : firstReason (operandReasons data.rank? operand) = Option.none
  /-- Only a scalar has no axes. -/
  empty : isEmptyOperand operand.shape = true →
    operand.toFacts = .vector [] ∧ data.shape = .scalar

end Axes

namespace Reduction

variable {r : Reduction} {node : SourceNode} {empty? : Option Bool}

theorem reading_fixed {values : List Int}
    (reads : r.reading node.opset node.attributes empty? = .ok (.fixed values)) :
    node.opset < r.operandSince ∧ values ≠ [] ∧ node.axesAttribute = values := by
  unfold reading at reads
  split at reads
  · rename_i early
    obtain ⟨values?, found, reads⟩ := except_bind_eq_ok_iff.mp reads
    by_cases filled : (values?.getD []).isEmpty = true
    · simp [filled, pure, Except.pure] at reads
    · simp only [filled, Bool.false_eq_true, ↓reduceIte, pure, Except.pure, Except.ok.injEq,
        Reading.fixed.injEq] at reads
      subst reads
      exact ⟨early, by simpa using filled, SourceNode.axesAttribute_of_ints? found⟩
  · obtain ⟨noop, _, reads⟩ := except_bind_eq_ok_iff.mp reads
    simp only [pure, Except.pure, Except.ok.injEq] at reads
    split at reads
    · contradiction
    · split at reads <;> contradiction

theorem reading_operand
    (reads : r.reading node.opset node.attributes empty? = .ok .operand) :
    r.operandSince ≤ node.opset ∧ empty? = some false := by
  unfold reading at reads
  split at reads
  · obtain ⟨values?, _, reads⟩ := except_bind_eq_ok_iff.mp reads
    simp only [pure, Except.pure, Except.ok.injEq] at reads
    split at reads <;> contradiction
  · rename_i late
    obtain ⟨noop, _, reads⟩ := except_bind_eq_ok_iff.mp reads
    simp only [pure, Except.pure, Except.ok.injEq] at reads
    refine ⟨by omega, ?_⟩
    by_contra other
    rw [if_neg other] at reads
    split at reads <;> contradiction

end Reduction

namespace Axes

variable {t u : Tensor} {r : Reduction} {ctx : Context} {data operand : Tensor} {d d' : Draft}

theorem scalar_of_rank? (ranked : data.rank? = some 0) : data.shape = .scalar := by
  obtain ⟨dims, shape, none_left⟩ := Shape.rank?_eq_some_iff.mp ranked
  rw [shape, List.length_eq_zero_iff.mp none_left]
  rfl

/-- Fixed axes fit the rank, and there are some unless the data is a scalar. -/
theorem fitting_of_fixed {values : List Int} (ofKind : ctx.node.opType = r.operator)
    (found : ctx.operand? 0 = some data)
    (done : resolve ctx data (r.entryAt ctx.node.opset).policy d = .ok (.fixed values) d') :
    firstReason (misfits data.rank? values) = Option.none ∧
      (values = [] → data.shape = .scalar) := by
  obtain ⟨decision, _⟩ := (Reduction.decided_resolve ofKind found).of_ok done
  obtain ⟨reading, reads, _, rfl | ⟨_, rank, ranked, rfl⟩⟩ := resolve_ok done
  · obtain ⟨early, filled, held⟩ := Reduction.reading_fixed reads
    have unread : ctx.node.takesOperand = false := by
      rw [Reduction.takesOperand_eq ofKind]
      exact decide_eq_false (by omega)
    rw [unread, held] at decision
    refine ⟨?_, fun none_named => absurd none_named filled⟩
    simp only [Bool.false_eq_true, ↓reduceIte, Ending.ofReasons, List.map_cons, firstReason_cons,
      firstReason_map] at decision
    split at decision
    · contradiction
    · simpa using decision
  · rw [ranked]
    refine ⟨misfits_range rank, fun none_named => scalar_of_rank? ?_⟩
    rw [List.map_eq_nil_iff, List.range_eq_nil] at none_named
    rw [ranked, none_named]

theorem checked_of_given (ofKind : ctx.node.opType = r.operator)
    (found : ctx.operand? 0 = some data)
    (done : resolve ctx data (r.entryAt ctx.node.opset).policy d = .ok (.given t) d') :
    ctx.operand? 1 = some t ∧ Checked data t := by
  obtain ⟨decision, _⟩ := (Reduction.decided_resolve ofKind found).of_ok done
  obtain ⟨reading, reads, _, rfl, there, known⟩ := resolve_ok done
  obtain ⟨late, filled⟩ := Reduction.reading_operand reads
  have named : isEmptyOperand t.shape = false := by
    rw [emptiness, there, Option.map_some] at filled
    exact Option.some.inj filled
  have read : ctx.node.takesOperand = true := by
    rw [Reduction.takesOperand_eq ofKind]
    exact decide_eq_true late
  have operand : SourceNode.axesOperand? ctx.operands = some t := by
    have apart : decide (t.shape ≠ .scalar ∧ t.shape ≠ .static [0]) = true := by
      simpa [isEmptyOperand] using named
    rw [SourceNode.axesOperand?, show ctx.operands[1]?.join = some t from there,
      Option.filter_some, if_pos apart]
  rw [read, operand] at decision
  refine ⟨there, known, ?_, fun empty => ?_⟩
  · simp only [↓reduceIte, Option.map_some, Option.getD_some, firstReason_append,
      Option.or_eq_none_iff] at decision
    exact decision.2
  · rw [named] at empty
    contradiction

theorem checked_of_vector {values : List Int} (holds : operand.toFacts = .vector values)
    (fits : firstReason (misfits data.rank? values) = Option.none)
    (filled : values = [] → data.shape = .scalar) : Checked data operand where
  known := by
    have shape : operand.shape = .static [values.length] := congrArg Facts.shape holds
    rw [shape]
    rfl
  passed := by
    rw [operandReasons_of_vector holds, fits]
    rfl
  empty := by
    intro empty
    have shape : operand.shape = .static [values.length] := congrArg Facts.shape holds
    have none_named : values = [] := by
      simpa [shape, isEmptyOperand, Shape.static, Shape.scalar] using empty
    exact ⟨none_named ▸ holds, filled none_named⟩

/-- Where resolving drafts no operators of other kinds it drafts none, and its axes passed the
    checks. -/
theorem checked_of_resolve {axes : Axes} {start d₁ d₂ : Draft}
    (ofKind : ctx.node.opType = r.operator)
    (found : ctx.operand? 0 = some data)
    (resolved : resolve ctx data (r.entryAt ctx.node.opset).policy start = .ok axes d₁)
    (used : axes ≠ .none) (encoded : axes.operand ctx.graph d₁ = .ok operand d₂)
    (plain : ∀ op ∈ d₁.ops, op.IsReduction) :
    d₁ = start ∧ Checked data operand ∧
      (ctx.operand? 1 = some operand ∨ operand ∈ d₂.tensors) := by
  cases axes with
  | none => contradiction
  | fixed values =>
    obtain ⟨_, _, same, _⟩ := resolve_ok resolved
    obtain ⟨fits, filled⟩ := fitting_of_fixed ofKind found resolved
    have facts : operand.toFacts = .vector values :=
      (Option.some.inj (Reduction.operand_facts encoded)).symm
    have grown : Grows ctx.graph ctx.present ((Axes.fixed values).operand ctx.graph) d₁
        fun t d' => t ∈ d'.tensors := constant_grows fun _ => Dense.holdsIntegers_of_ofInts
    exact ⟨same, checked_of_vector facts fits filled, Or.inr (grown.of_ok encoded).2⟩
  | given t =>
    obtain ⟨_, _, same, _⟩ := resolve_ok resolved
    obtain ⟨there, checked⟩ := checked_of_given ofKind found resolved
    cases encoded
    exact ⟨same, checked, Or.inl there⟩
  | synthesized t =>
    -- the operators that compute all axes would be no reductions
    obtain ⟨_, _, _, lengths, _, _, _, _, _, drafted⟩ := resolve_ok resolved
    have shapeOf : opOf "ShapeOf" lengths [data.id] [] start.source? ∈ d₁.ops := by
      rw [drafted.extended.ops_eq]
      simp [allOps]
    have reduces : "ShapeOf" ∈ ReduceKind.all.map ReduceKind.opType := plain _ shapeOf
    exact absurd reduces (by decide)

end Axes

/-! Reductions of a graph -/

/-- An operator that reduces a tensor of a graph over another one, checked against it. -/
structure Graph.Reduces (g : Graph) (op : Op) (kind : ReduceKind) (keepDims : Bool)
    (data axes out : Tensor) : Prop where
  opType_eq : op.opType = kind.opType
  inputs_eq : op.inputs = [data.id, axes.id]
  attributes_eq : op.attributes = [("keep_dims", .bool keepDims)]
  ofData : g.tensors.find? data.id = some data
  ofAxes : g.tensors.find? axes.id = some axes
  ofResult : g.tensors.find? (Graph.resultId op.id) = some out
  used : "" ∉ op.inputs
  accepted : data.dtype ∈ Reduction.extendedTypes
  checked : Axes.Checked data axes
  dtype_eq : out.dtype = data.dtype
  leaves : Inference.reducedShape keepDims data.shape axes.toFacts = .ok out.shape
  unstored : out.data = none

namespace Graph

theorem numbered_ne_empty (stem : String) (n : Nat) : numbered stem n ≠ "" := by
  intro same
  have characters := congrArg String.toList same
  rw [toList_numbered] at characters
  simp at characters

theorem resultId_ne_empty (op : String) : resultId op ≠ "" := by
  intro same
  have characters := congrArg String.toList same
  simp [resultId] at characters

theorem Reduces.mono {g g' : Graph} {op : Op} {kind : ReduceKind} {keepDims : Bool}
    {data axes out : Tensor} (reduces : g.Reduces op kind keepDims data axes out)
    (kept : ∀ id t, g.tensors.find? id = some t → g'.tensors.find? id = some t) :
    g'.Reduces op kind keepDims data axes out :=
  { reduces with
    ofData := kept _ _ reduces.ofData
    ofAxes := kept _ _ reduces.ofAxes
    ofResult := kept _ _ reduces.ofResult }

end Graph

theorem Draft.Made.id_ne_empty {g : Graph} {n : Nat} {t : Tensor} (made : Made g n t) :
    t.id ≠ "" := by
  rcases made.id_eq with ⟨stem, constant, _⟩ | ⟨opType, result, _⟩
  · rw [constant]
    exact Graph.numbered_ne_empty stem n
  · rw [result]
    exact Graph.resultId_ne_empty _

theorem Reduction.types_subset (r : Reduction) (opset : Int) :
    (r.entryAt opset).types ⊆ extendedTypes := by
  unfold entryAt
  split
  · exact List.subset_append_left _ _
  · exact List.Subset.refl _

/-- The one operator of a lowering that drafts nothing but reductions, and what it reads. -/
theorem ReduceKind.drafted_of_lower {kind : ReduceKind} {ctx : Context} {out : Tensor}
    {start d : Draft} (ofNode : ctx.node.opType = kind.reduction.operator)
    (blank : start.ops = [])
    (done : kind.reduction.lower (kind.reduction.entryAt ctx.node.opset).toRegime ctx start =
      .ok out d)
    (plain : ∀ op ∈ d.ops, op.IsReduction) {op : Op} (member : op ∈ d.ops) :
    ∃ keepDims data operand n source?, ctx.operand? 0 = some data ∧
      (ctx.operand? 1 = some operand ∨ operand ∈ d.tensors) ∧
      op = opOf kind.opType n [data.id, operand.id] [("keep_dims", .bool keepDims)] source? ∧
      out ∈ d.tensors ∧ out.id = Graph.resultId op.id ∧
      data.dtype ∈ Reduction.extendedTypes ∧ Axes.Checked data operand ∧
      out.dtype = data.dtype ∧ out.data = none ∧
      Inference.reducedShape keepDims data.shape operand.toFacts = .ok out.shape := by
  obtain ⟨data, keep, axes, d₁, found, accepted, _, resolved, core⟩ := lower_eq_ok_iff.mp done
  have used : axes ≠ .none := by
    rintro rfl
    obtain ⟨_, _, rfl, _⟩ := Axes.resolve_ok resolved
    cases core
    rw [blank] at member
    contradiction
  obtain ⟨operand, d₂, encoded, made⟩ := (Reduction.reduce_eq_ok_iff used).mp core
  obtain ⟨n, _, _, extended, named⟩ := make_ok made
  obtain ⟨inferred, unstored⟩ := make_inferred made
  rw [Reduction.infer_reduce] at inferred
  obtain ⟨dtype, leaves⟩ := Inference.reduced_eq_ok_iff.mp inferred
  obtain ⟨still, _⟩ := Axes.operand_ok encoded
  have flat : ∀ op ∈ d₁.ops, op.IsReduction := by
    intro op early
    refine plain op ?_
    rw [extended.ops_eq, still.ops_eq, List.append_nil]
    exact List.mem_append_left _ early
  obtain ⟨rfl, checked, there⟩ :=
    Axes.checked_of_resolve ofNode found resolved used encoded flat
  have single : d.ops = [opOf kind.opType n [data.id, operand.id]
      [("keep_dims", .bool (keep != 0))] d₂.source?] := by
    rw [extended.ops_eq, still.ops_eq, blank, kernel_reduction]
    rfl
  rw [single, List.mem_singleton] at member
  refine ⟨keep != 0, data, operand, n, d₂.source?, found,
    there.imp_right fun drafted => extended.tensors_kept drafted, member, ?_, ?_,
    kind.reduction.types_subset _ accepted, checked, dtype, unstored, leaves⟩
  · have known : ∀ t ∈ [data, operand], Known ctx.present d₂ t := by
      intro t listed
      rcases List.mem_pair.mp listed with rfl | rfl
      · exact Or.inl (Context.mem_present_of_operand? found)
      · exact there.imp_left Context.mem_present_of_operand?
    exact ((make_grows known).of_ok made).2
  · rw [named, member, kernel_reduction]
    rfl

namespace LoweredNode

variable {s : LoweredNode} {node : SourceNode} {operands : List (Option Tensor)} {g g' : Graph}
  {d : Draft} {outputs : List Tensor} {operand? : Option Tensor} {ops : List Op}
  {axesId? : Option String} {first middle last : Nat} {source? : Option String}

theorem Drafted.reduces (drafted : s.Drafted node operands g d)
    (built : s.Built operand? d ops axesId? first middle last source?)
    (ofNode : node.opType = s.reduction.operator) (wired : g.Wired) (owns : g.Owns operands)
    (unclashed : d.Unclashed g) (used : ∀ t, some t ∈ operands → t.id ≠ "")
    (plain : ∀ op ∈ d.ops, op.IsReduction) {op : Op} (member : op ∈ d.ops) :
    ∃ kind keepDims data axes out, s.graph.Reduces op kind keepDims data axes out := by
  have frame := drafted.sound.frame wired.toNumbered owns unclashed
  rw [← drafted.graph_eq] at frame
  have lowered := drafted.lowered
  have parts := drafted.ops_eq.symm.trans built.ops_eq
  generalize s.reduction = r at lowered parts ofNode
  have steps : ∀ step ∈ r.coreAndSteps s.keepDims s.data.id axesId? first middle last source?,
      step.IsReduction := fun step known => plain step (parts ▸ List.mem_append_right _ known)
  obtain ⟨kind, rfl⟩ := Reduction.eq_reduction_of_plain steps
  obtain ⟨keepDims, data, axes, n, _, found, there, rfl, made, named, accepted, checked, dtype,
    unstored, leaves⟩ := kind.drafted_of_lower ofNode rfl lowered plain member
  have given : ∀ {index t}, Context.operand? { node, operands, graph := g } index = some t →
      s.graph.tensors.find? t.id = some t ∧ t.id ≠ "" := by
    intro index t read
    have present := Context.mem_present_of_operand? read
    obtain ⟨_, listed, rfl⟩ := List.mem_filterMap.mp present
    exact ⟨frame.tensors_kept _ _ (owned_of_present owns present), used t listed⟩
  have ofAxes : s.graph.tensors.find? axes.id = some axes ∧ axes.id ≠ "" := by
    rcases there with read | new
    · exact given read
    · refine ⟨frame.tensors_new axes new, ?_⟩
      obtain ⟨_, _, _, form⟩ := drafted.sound.made axes new
      exact form.id_ne_empty
  refine ⟨kind, keepDims, data, axes, s.out, ?_⟩
  exact {
    opType_eq := rfl
    inputs_eq := rfl
    attributes_eq := rfl
    ofData := (given found).1
    ofAxes := ofAxes.1
    ofResult := named ▸ frame.tensors_new s.out made
    used := by
      intro member
      rcases List.mem_pair.mp member with same | same
      · exact (given found).2 same.symm
      · exact ofAxes.2 same.symm
    accepted := accepted
    checked := checked
    dtype_eq := dtype
    leaves := leaves
    unstored := unstored }

end LoweredNode

/-! Conversions -/

/-- A tensor looks like the array it stores, if it stores one. -/
def Tensor.Whole (t : Tensor) : Prop :=
  ∀ data, t.data = some data → t.dtype = data.kind.dtype ∧ t.shape = data.shape

theorem Tensor.whole_of_unstored {t : Tensor} (unstored : t.data = none) : t.Whole := by
  intro data held
  rw [unstored] at held
  contradiction

theorem Tensor.whole_constant (origin : Origin) (name : String) (data : Dense) :
    (Tensor.constant origin name data).Whole := by
  rintro _ ⟨⟩
  exact ⟨rfl, rfl⟩

namespace Draft

theorem Made.whole {g : Graph} {n : Nat} {t : Tensor} (made : Made g n t) : t.Whole := by
  cases made with
  | constant data => exact Tensor.whole_constant _ _ data
  | result => exact Tensor.whole_of_unstored rfl

end Draft

/-- A tensor has its id from a list of names, or is a numbered constant, or the result of an
    operator. -/
inductive Graph.Sourced (names : List String) (g : Graph) (id : String) : Prop
  | named (given : id ∈ names)
  | numbered (stem : String) (n : Nat) (id_eq : id = Graph.numbered stem n)
  | result {op : Op} (known : g.ops.find? op.id = some op) (id_eq : id = Graph.resultId op.id)

theorem Graph.Sourced.mono {names : List String} {g g' : Graph} {id : String}
    (sourced : g.Sourced names id)
    (kept : ∀ key op, g.ops.find? key = some op → g'.ops.find? key = some op) :
    g'.Sourced names id := by
  cases sourced with
  | named given => exact .named given
  | numbered stem n id_eq => exact .numbered stem n id_eq
  | result known id_eq => exact .result (kept _ _ known) id_eq

theorem Draft.Sound.sourced {g g' : Graph} {given : List Tensor} {start : Nat} {d : Draft}
    (sound : d.Sound g given start) (kept : ∀ op ∈ d.ops, g'.ops.find? op.id = some op)
    {names : List String} {t : Tensor} (made : t ∈ d.tensors) : g'.Sourced names t.id := by
  obtain ⟨n, _, _, form⟩ := sound.made t made
  rcases form.id_eq with ⟨stem, id_eq, _⟩ | ⟨_, _, unstored⟩
  · exact .numbered stem n id_eq
  · obtain ⟨op, member, named⟩ := sound.results t made unstored
    exact .result (kept op member) named

theorem LoweredNode.Drafted.out_used {s : LoweredNode} {node : SourceNode}
    {operands : List (Option Tensor)} {g : Graph} {d : Draft}
    (drafted : s.Drafted node operands g d) (used : ∀ t, some t ∈ operands → t.id ≠ "") :
    s.out.id ≠ "" := by
  rcases drafted.known with present | made
  · obtain ⟨_, listed, rfl⟩ := List.mem_filterMap.mp present
    exact used s.out listed
  · obtain ⟨_, _, _, form⟩ := drafted.sound.made s.out made
    exact form.id_ne_empty

namespace Conversion

/-- A conversion whose reductions, if its graph has nothing else, can be lowered again. -/
structure Readable (codec : Codec) (names : List String) (c : Conversion) : Prop
    extends Exportable codec names c where
  whole : ∀ id t, c.graph.tensors.find? id = some t → t.Whole
  sourced : ∀ id t, c.graph.tensors.find? id = some t → c.graph.Sourced names id
  used : ∀ name t, c.values.find? name = some t → name ≠ "" → t.id ≠ ""
  reductions : c.graph.OnlyReduces → ∀ id op, c.graph.ops.find? id = some op →
    ∃ kind keepDims data axes out, c.graph.Reduces op kind keepDims data axes out

variable {names : List String} {m : Model.Graph} {c : Conversion}

/-- Everything that is given comes in under its name, and looks like what it stores. -/
theorem tensors_of_stages {start c₁ c₂ : Conversion} (empty : start.graph.tensors = ∅)
    (first : m.initializers.zipIdx.forM (fun init => addInitializer codec init.1 init.2) start =
      .ok () c₁)
    (second : (m.inputs.zipIdx m.initializers.length).forM
      (fun value => (modify (addInput value.1 value.2) : Step Unit)) c₁ = .ok () c₂) :
    ∀ id t, c₂.graph.tensors.find? id = some t → id ∈ m.givenNames ∧ t.Whole := by
  have stored : ∀ id t, c₁.graph.tensors.find? id = some t → id ∈ m.givenNames ∧ t.Whole := by
    refine initializers_induction (P := fun _ c => ∀ id t, c.graph.tensors.find? id = some t →
      id ∈ m.givenNames ∧ t.Whole) ?_ ?_ first
    · intro i init data c found _ known
      have listed : init.name ∈ m.initializers.map (·.name) :=
        List.mem_map_of_mem (List.mem_of_getElem? found)
      exact Table.forall_find?_insert known
        ⟨List.mem_append_left _ listed, Tensor.whole_constant _ _ data⟩
    · intro id t found
      rw [empty] at found
      contradiction
  refine inputs_induction (P := fun _ c => ∀ id t, c.graph.tensors.find? id = some t →
    id ∈ m.givenNames ∧ t.Whole) ?_ stored second
  intro i value c found known
  unfold addInput
  split
  · exact known
  · have listed : value.name ∈ m.inputs.map (·.name) :=
      List.mem_map_of_mem (List.mem_of_getElem? found)
    exact Table.forall_find?_insert known
      ⟨List.mem_append_right _ listed, Tensor.whole_of_unstored (data_of_valueInfo value _)⟩

theorem readable_of_stages (laws : codec.Lawful) {model : Model} {sourceName : String}
    {c₁ c₂ : Conversion} (storable : model.graph.Storable codec)
    (first : model.graph.initializers.zipIdx.forM (fun init => addInitializer codec init.1 init.2)
      (model.startOf sourceName) = .ok () c₁)
    (second : (model.graph.inputs.zipIdx model.graph.initializers.length).forM
      (fun value => (modify (addInput value.1 value.2) : Step Unit)) c₁ = .ok () c₂) :
    Readable codec model.graph.givenNames c₂ := by
  obtain ⟨_, entered⟩ := entered_of_stages laws (entered_start model sourceName) rfl storable
    first second
  have given := tensors_of_stages rfl first second
  exact {
    toExportable := entered.toExportable
    whole := fun id t found => (given id t found).2
    sourced := fun id t found => .named (given id t found).1
    used := by
      intro name t found filled
      rwa [entered.sameName name t found]
    reductions := by
      intro _ id op found
      rw [entered.given.no_ops] at found
      contradiction }

theorem Readable.congr (readable : Readable codec names c) {c' : Conversion}
    (graph : c'.graph = c.graph) (values : c'.values = c.values) : Readable codec names c' where
  toExportable := readable.toExportable.congr graph values
  whole := graph ▸ readable.whole
  sourced := graph ▸ readable.sourced
  used := values ▸ readable.used
  reductions := graph ▸ readable.reductions

theorem Readable.operands_used (readable : Readable codec names c) (node : Model.Node) {t : Tensor}
    (listed : some t ∈ c.operandsOf node) : t.id ≠ "" := by
  obtain ⟨name, _, found⟩ := List.mem_map.mp listed
  split at found
  · contradiction
  · rename_i filled
    exact readable.used name t found filled

theorem Readable.lowered (readable : Readable codec m.givenNames c) (laws : codec.Lawful)
    (unclashing : m.Unclashing) {node : Model.Node} {source : SourceNode} {outputs : List Tensor}
    {g' : Graph}
    (done : lowerNode .standard source (c.operandsOf node) c.graph = (.ok outputs, g')) :
    Readable codec m.givenNames ({ c with graph := g' }.bindOutputs node.outputs outputs) := by
  have exportable := readable.toExportable.lowered laws unclashing done
  have owns := readable.toNamed.owns node
  obtain ⟨s, describes, d, ops, axesId?, first, middle, last, source?, drafted, built⟩ :=
    LoweredNode.built_of_lowered done
  have sound := drafted.sound
  have unclashed := readable.toNamed.unclashed unclashing sound
  have frame := sound.frame readable.wired.toNumbered owns unclashed
  rw [← drafted.graph_eq] at frame
  obtain rfl := describes.graph_eq
  have given := fun t => readable.operands_used node (t := t)
  have known : ∀ {id t}, s.graph.tensors.find? id = some t →
      c.graph.tensors.find? id = some t ∨ t ∈ d.tensors ∧ t.id = id := by
    intro id t found
    rw [drafted.graph_eq] at found
    exact sound.tensor_of_attach owns found
  have split := drafted.graph_eq ▸ sound.values_attach
  exact {
    toExportable := exportable
    whole := by
      intro id t found
      rw [graph_bindOutputs] at found
      rcases known found with old | ⟨new, _⟩
      · exact readable.whole id t old
      · obtain ⟨n, _, _, made⟩ := sound.made t new
        exact made.whole
    sourced := by
      intro id t found
      rw [graph_bindOutputs] at found ⊢
      rcases known found with old | ⟨new, rfl⟩
      · exact (readable.sourced id t old).mono frame.ops_kept
      · exact sound.sourced frame.ops_new new
    used := by
      intro name t found filled
      rcases mem_of_bindOutputs found with new | old
      · rw [describes.outputs_eq] at new
        obtain rfl := List.mem_singleton.mp new
        exact drafted.out_used given
      · exact readable.used name t old filled
    reductions := by
      intro plain id op found
      rw [graph_bindOutputs] at plain found ⊢
      have member := Table.mem_values_of_find? found
      rw [split] at member
      rcases List.mem_append.mp member with old | new
      · obtain ⟨key, there⟩ := Table.exists_key_of_mem_values old
        have before : c.graph.OnlyReduces := fun op member =>
          plain op (split ▸ List.mem_append_left _ member)
        obtain ⟨kind, keepDims, data, axes, out, reduces⟩ :=
          readable.reductions before key op there
        exact ⟨kind, keepDims, data, axes, out, reduces.mono frame.tensors_kept⟩
      · exact drafted.reduces built describes.operator_eq readable.wired owns unclashed given
          (fun op member => plain op (split ▸ List.mem_append_right _ member)) new }

theorem Readable.output (readable : Readable codec names c) (value : Model.ValueInfo) :
    Readable codec names (c.addOutput value) := by
  have exportable := readable.toExportable.output value
  unfold addOutput at exportable ⊢
  cases found : c.values.find? value.name with
  | none => exact readable.congr rfl rfl
  | some t =>
    simp only [found] at exportable ⊢
    have lookup := Graph.find?_addOutput (readable.own value.name t found)
    exact {
      toExportable := exportable
      whole := by
        intro id u there
        rw [lookup] at there
        exact readable.whole id u there
      sourced := by
        intro id u there
        rw [lookup] at there
        exact (readable.sourced id u there).mono fun _ _ known => known
      used := readable.used
      reductions := by
        intro plain id op there
        obtain ⟨kind, keepDims, data, axes, out, reduces⟩ := readable.reductions plain id op there
        exact ⟨kind, keepDims, data, axes, out, reduces.mono fun id u known => by rwa [lookup]⟩ }

end Conversion

/-- However a model converts, the reductions of a graph of nothing else can be lowered again. -/
theorem Model.convert_readable (laws : codec.Lawful) {m : Model}
    (unclashing : m.graph.Unclashing) (storable : m.graph.Storable codec) {strict : Bool}
    {sourceName : String} {converted : Converted} {warnings : List String}
    (done : m.convert codec .standard strict sourceName = (.ok converted, warnings)) :
    ∃ c : Conversion, converted.graph = c.graph ∧ converted.valueNames = c.values ∧
      c.Readable codec m.graph.givenNames := by
  refine Model.convert_induction ?_ ?_ ?_ ?_ done
  · intro name c₁ c₂ first second
    exact Conversion.readable_of_stages laws storable first second
  · intro c node source outputs g' readable lowered
    exact readable.lowered laws unclashing lowered
  · intro c c' readable graph values
    exact readable.congr graph values
  · exact fun value c readable => readable.output value

end ReductionIR
