import ReductionIR.Proofs.Closing
import ReductionIR.Proofs.Readable
/-
Lowering a written reduction. Its node takes the axes as an operand and spells its flags out, so
that operands which were checked before are reduced again, and data without axes is handed on.
-/
namespace ReductionIR

open Build Draft Stepwise

variable {codec : Codec} {x a data axes out : Tensor} {kind : ReduceKind} {keepDims : Bool}

namespace Axes

theorem Checked.congr (checked : Checked data axes) (alike : data.Likens x)
    (same : axes.Resembles a) : Checked x a := by
  have shape : axes.shape = a.shape := congrArg Facts.shape same
  exact {
    known := shape ▸ checked.known
    passed := by
      rw [← operandReasons_congr same, ← alike.rank?_eq]
      exact checked.passed
    empty := by
      intro empty
      obtain ⟨holds, single⟩ := checked.empty (shape ▸ empty)
      exact ⟨same.symm.trans holds, alike.shape.symm.trans single⟩ }

/-- Checked axes are taken as they are, unless there are none. -/
theorem fromInput_of_checked (checked : Checked x a) {ctx : Context}
    (there : ctx.operand? 1 = some a) {flag : Int}
    (flagged : ctx.node.attributes.int "noop_with_empty_axes" 0 = .ok flag) (set : flag ≠ 0)
    (d : Draft) :
    fromInput ctx x d = .ok (if isEmptyOperand a.shape then .none else .given a) d := by
  unfold fromInput
  refine bind_eq_ok_iff.mpr ⟨flag, d, Context.read_eq_ok_iff.mpr ⟨flagged, rfl⟩, ?_⟩
  simp only [there, checked.known, Bool.not_true, Bool.false_eq_true, ↓reduceIte]
  split
  · unfold whenAbsent
    rw [if_pos set]
    rfl
  · have decision := decided_whenRanked x (operandReasons · a)
      (fun rank => decided_checkOperand ctx a rank) rfl d
    rw [checked.passed] at decision
    obtain ⟨_, e, passed, _⟩ := decision
    obtain rfl := (readOnly_whenRanked fun _ => readOnly_checkOperand ctx a _).draft_eq_of_ok passed
    exact bind_eq_ok_iff.mpr ⟨(), e, passed, rfl⟩

end Axes

/-- A node that takes the axes of a reduction from an operand, and reduces nothing over none. -/
structure SourceNode.Asks (node : SourceNode) (kind : ReduceKind) (keepDims : Bool) : Prop where
  opType_eq : node.opType = kind.opType
  late : 18 ≤ node.opset
  keeps : ∃ keep, node.attributes.int "keepdims" 1 = .ok keep ∧ (keep != 0) = keepDims
  flagged : ∃ flag, node.attributes.int "noop_with_empty_axes" 0 = .ok flag ∧ flag ≠ 0

namespace SourceNode.Asks

variable {node : SourceNode} (asks : node.Asks kind keepDims)
  (accepted : x.dtype ∈ Reduction.extendedTypes) (checked : Axes.Checked x a) (g : Graph)

include asks accepted checked

theorem lower_eq {axes : Axes} (resolved : axes = if Axes.isEmptyOperand a.shape then .none
      else .given a) {d : Draft}
    (core : kind.reduction.reduce ⟨node, [some x, some a], g⟩ keepDims axes x
      (Lowering.blank node g) = .ok out d) :
    lowerNode .standard node [some x, some a] g =
        (.ok [out], d.attach { g with counter := d.counter }) ∧
      Sound g (List.filterMap id [some x, some a]) g.counter d := by
  have since : kind.reduction.operandSince ≤ node.opset := by
    have late := asks.late
    have least : kind.reduction.operandSince ≤ 18 := by cases kind <;> decide
    omega
  have entry : kind.reduction.entryAt node.opset = kind.reduction.inputEntry :=
    if_neg (by omega)
  obtain ⟨keep, keeps, rfl⟩ := asks.keeps
  obtain ⟨flag, flagged, set⟩ := asks.flagged
  have lowered : kind.reduction.lower (kind.reduction.entryAt node.opset).toRegime
      ⟨node, [some x, some a], g⟩ (Lowering.blank node g) = .ok out d := by
    rw [entry]
    refine ReduceKind.lower_eq_ok_iff.mpr
      ⟨x, keep, axes, _, rfl, accepted, keeps, ?_, core⟩
    rw [resolved]
    exact Axes.fromInput_of_checked checked rfl flagged set _
  refine ⟨lowerNode_of_lower (asks.opType_eq.trans kind.operator_reduction.symm) ?_ lowered, ?_⟩
  · have late := asks.late
    omega
  · exact ((kind.reduction.lower_grows _ _ _).of_ok lowered).1.sound (sound_blank _ _ _ _)

theorem lowers_identity (empty : Axes.isEmptyOperand a.shape = true) :
    ∃ h, lowerNode .standard node [some x, some a] g = (.ok [x], h) ∧
      h.ops.entries = g.ops.entries := by
  obtain ⟨done, sound⟩ := asks.lower_eq accepted checked g
    (by rw [if_pos empty]) rfl
  refine ⟨_, done, ?_⟩
  rw [sound.entries_attach]
  exact List.append_nil _

theorem lowers_reduced (filled : Axes.isEmptyOperand a.shape = false) {left : Shape}
    (leaves : Inference.reducedShape keepDims x.shape a.toFacts = .ok left) :
    ∃ out h op, lowerNode .standard node [some x, some a] g = (.ok [out], h) ∧
      out.toFacts = ⟨x.dtype, left, none⟩ ∧ out.id = Graph.resultId op.id ∧
      (∃ n source?, op = opOf kind.opType n [x.id, a.id] [("keep_dims", .bool keepDims)] source?) ∧
      h.ops.entries = g.ops.entries ++ [(op.id, op)] := by
  have inferred : infer kind.reduction.kernel.opType ([x, a].map Tensor.toFacts)
      [("keep_dims", .bool keepDims)] = .ok (x.dtype, left) := by
    rw [Reduction.infer_reduce]
    exact Inference.reduced_eq_ok_iff.mpr ⟨rfl, leaves⟩
  obtain ⟨out, d, made⟩ : ∃ out d, make g kind.reduction.kernel.opType [x, a]
      [("keep_dims", .bool keepDims)] (Lowering.blank node g) = .ok out d := by
    rw [make_apply, inferred]
    exact ⟨_, _, rfl⟩
  have core : kind.reduction.reduce ⟨node, [some x, some a], g⟩ keepDims (.given a) x
      (Lowering.blank node g) = .ok out d :=
    (Reduction.reduce_eq_ok_iff Axes.noConfusion).mpr ⟨a, _, rfl, made⟩
  obtain ⟨done, sound⟩ := asks.lower_eq accepted checked g
    (by rw [if_neg (by simp [filled])]) core
  obtain ⟨n, _, _, extended, named⟩ := make_ok made
  obtain ⟨again, unstored⟩ := make_inferred made
  rw [ReduceKind.kernel_reduction] at extended named
  refine ⟨out, _, _, done, ?_, named, ⟨n, (Lowering.blank node g).source?, rfl⟩, ?_⟩
  · rw [inferred] at again
    obtain ⟨dtype, shape⟩ := Prod.mk.inj (Except.ok.inj again)
    rw [dtype, shape, ← unstored]
  · rw [sound.entries_attach, extended.ops_eq]
    rfl

end SourceNode.Asks

namespace Graph

/-- Are the axes of a reduction a constant without elements? -/
def hasEmptyAxes (g : Graph) (op : Op) : Bool :=
  ((op.inputs[1]?).bind g.tensors.find?).any fun t => t.isConstant && t.shape == .static [0]

namespace Reduces

variable {g : Graph} {op : Op} (reduces : g.Reduces op kind keepDims data axes out)

include reduces

theorem pieceOf_eq : Export.pieceOf codec op = { nodes := [Export.reducing kind keepDims op] } := by
  have known : OpKind.ofName? op.opType = some (.reduce kind) := by
    rw [reduces.opType_eq]
    exact OpKind.ofName?_opType (.reduce kind)
  unfold Export.pieceOf Export.pieces
  rw [known]
  dsimp only
  rw [Export.reductionNode_eq_ok reduces.attributes_eq]
  rfl

theorem asks {opset : Int} (late : 18 ≤ opset) (position : Option Int) :
    ∃ source, SourceNode.ofModel (Export.reducing kind keepDims op) opset position = .ok source ∧
      source.Asks kind keepDims := by
  obtain ⟨store, stored, keeps, flagged⟩ := Export.storeOf_reducing kind keepDims op
  refine ⟨_, except_bind_eq_ok_iff.mpr ⟨store, stored, rfl⟩, ?_⟩
  exact {
    opType_eq := rfl
    late := late
    keeps := ⟨_, keeps, by cases keepDims <;> rfl⟩
    flagged := ⟨1, flagged, by decide⟩ }

theorem hasEmptyAxes_eq : g.hasEmptyAxes op = Axes.isEmptyOperand axes.shape := by
  have operand : (op.inputs[1]?).bind g.tensors.find? = some axes := by
    rw [reduces.inputs_eq]
    exact reduces.ofAxes
  rw [hasEmptyAxes, operand, Option.any_some, Bool.eq_iff_iff]
  constructor
  · intro constant
    simp only [Bool.and_eq_true, beq_iff_eq] at constant
    rw [constant.2]
    rfl
  · intro empty
    have holds := (reduces.checked.empty empty).1
    have shape : axes.shape = .static [0] := congrArg Facts.shape holds
    have stored : axes.data.isSome = true := by
      rw [show axes.data = _ from congrArg Facts.data holds]
      rfl
    rw [shape, Tensor.isConstant, stored]
    rfl

theorem axes_ne_scalar : axes.shape ≠ .scalar := by
  intro scalar
  have empty : Axes.isEmptyOperand axes.shape = true := by
    rw [scalar]
    rfl
  have shape : axes.shape = .static [0] :=
    congrArg Facts.shape (reduces.checked.empty empty).1
  rw [scalar] at shape
  exact absurd shape (by decide)

theorem scalar_of_empty (empty : Axes.isEmptyOperand axes.shape = true) :
    data.shape = .scalar ∧ out.shape = .scalar := by
  obtain ⟨holds, single⟩ := reduces.checked.empty empty
  have leaves := reduces.leaves
  have kept : Inference.reducedShape keepDims .scalar (.vector []) = .ok .scalar := by
    cases keepDims <;> rfl
  rw [single, holds, kept] at leaves
  exact ⟨single, (Except.ok.inj leaves).symm⟩

end Reduces

end Graph

end ReductionIR
