import ReductionIR.Proofs.Soundness
/-
Axes as an attribute against axes as a constant operand. Given the same axes, both regimes reject
a node for the same reasons or make the same operators of it, and infer the same shape. Without
axes both reduce over all of them; then the attribute regime knows the axes sooner, and may say
more of the shape.
-/
namespace ReductionIR

open Stepwise Draft

/-- A shape that says all that another one says: the other may leave dims open, or the rank. -/
def Shape.Refines (s s' : Shape) : Prop :=
  s' = .unknownRank ∨ ∃ dims dims', s = .ranked dims ∧ s' = .ranked dims' ∧
    List.Forall₂ (fun d d' => d' = d ∨ d' = .anonymous) dims dims'

/-! The same reasons to fail -/

namespace SourceNode

variable {node : SourceNode} {operands : List (Option Tensor)} {data : Tensor}

theorem hasOther_of_int {name : String} {fallback n : Int}
    (found : node.attributes.int name fallback = .ok n) : node.hasOther name .int = false := by
  unfold AttributeStore.int at found
  unfold hasOther
  cases there : node.attributes.find? name with
  | none => rfl
  | some a =>
    rw [there] at found
    cases a with
    | int k => rfl
    | _ => contradiction

theorem hasOther_of_ints? {name : String} {values? : Option (List Int)}
    (found : node.attributes.ints? name = .ok values?) : node.hasOther name .ints = false := by
  unfold AttributeStore.ints? at found
  unfold hasOther
  cases there : node.attributes.find? name with
  | none => rfl
  | some a =>
    rw [there] at found
    cases a with
    | ints ns => rfl
    | _ => contradiction

theorem axesAttribute_of_ints? {values? : Option (List Int)}
    (found : node.attributes.ints? "axes" = .ok values?) :
    node.axesAttribute = values?.getD [] := by
  unfold AttributeStore.ints? at found
  unfold axesAttribute
  cases there : node.attributes.find? "axes" with
  | none =>
    rw [there] at found
    cases found
    rfl
  | some a =>
    rw [there] at found
    cases a with
    | ints ns =>
      cases found
      rfl
    | _ => contradiction

theorem int_of_absent {attributes : AttributeStore} {name : String} (fallback : Int)
    (absent : attributes.find? name = none) : attributes.int name fallback = .ok fallback := by
  rw [AttributeStore.int, absent]

end SourceNode

namespace Tensor

variable {t : Tensor} {values : List Int}

theorem shape_of_vector (holds : t.toFacts = .vector values) : t.shape = .static [values.length] :=
  congrArg Facts.shape holds

theorem listed?_of_vector (holds : t.toFacts = .vector values) :
    t.listed? = some (values.length : Int) := by
  rw [listed?, shape_of_vector holds]
  rfl

theorem integers_of_vector (holds : t.toFacts = .vector values) :
    ∃ array, t.data = some array ∧ array.integers = .ok values :=
  ⟨_, congrArg Facts.data holds, Dense.integers_ints values⟩

theorem heldAxes_of_vector (holds : t.toFacts = .vector values) : t.heldAxes = values := by
  obtain ⟨array, stored, integers⟩ := integers_of_vector holds
  rw [heldAxes, stored, Option.bind_some, integers]
  rfl

theorem isUnreadable_of_vector (holds : t.toFacts = .vector values) : t.isUnreadable = false := by
  obtain ⟨array, stored, integers⟩ := integers_of_vector holds
  rw [isUnreadable, stored, Option.any_some, integers]
  rfl

end Tensor

/-- The length of a list of axes is checked first anyway. -/
theorem firstReason_of_count (rank? : Option Nat) (values : List Int) :
    firstReason ((rank?.any fun rank => decide ((rank : Int) < values.length),
      .rejected .tooManyReductionAxes) :: Ending.ofReasons (misfits rank? values)) =
      (firstReason (misfits rank? values)).map .rejected := by
  cases rank? with
  | none => simp [Ending.ofReasons, misfits]
  | some rank =>
    by_cases many : rank < values.length
    · simp [Ending.ofReasons, misfits, many]
    · simp [Ending.ofReasons, misfits, many, apply_ite]

/-- A node of a reduction that reads its keepdims, on data of a type that all versions accept. -/
structure SourceNode.Reduces (node : SourceNode) (r : Reduction) (keep : Int)
    (operands : List (Option Tensor)) (data : Tensor) : Prop where
  operator_eq : node.opType = r.operator
  late : 1 ≤ node.opset
  keepDims_eq : node.attributes.int "keepdims" 1 = .ok keep
  data_eq : operands[0]?.join = some data
  accepted : data.dtype ∈ Reduction.baseTypes

namespace SourceNode.Reduces

variable {node : SourceNode} {operands : List (Option Tensor)} {data : Tensor} {r : Reduction}
  {keep : Int}

theorem takesOperand_eq (reduces : node.Reduces r keep operands data) :
    node.takesOperand = decide (r.operandSince ≤ node.opset) :=
  @Reduction.takesOperand_eq r ⟨node, operands, { name := "" }⟩ reduces.operator_eq

theorem rank?_eq (reduces : node.Reduces r keep operands data) :
    SourceNode.rank? operands = data.rank? := by
  rw [SourceNode.rank?, SourceNode.data?, reduces.data_eq, Option.bind_some]

/-- Such a node can only fail for its axes. -/
theorem endings_eq (reduces : node.Reduces r keep operands data) :
    firstReason (node.endings operands) = firstReason
      (Ending.ofReasons (if node.takesOperand then
        [(node.hasOther "noop_with_empty_axes" .int, .attributeTypeMismatch),
         (operands[1]?.join.any fun t => !t.shape.isFullyKnown, .dynamicAxesShapeUnsupported),
         (data.rank?.any fun rank => ((axesOperand? operands).bind Tensor.listed?).any fun count =>
            decide ((rank : Int) < count), .tooManyReductionAxes)]
        else [(node.hasOther "axes" .ints, .attributeTypeMismatch)]) ++
      (node.isUnreadable operands, .broken) ::
      Ending.ofReasons (misfits data.rank? (node.knownAxes operands)) ++
      [(node.isOverflowing operands, .broken)]) := by
  have known : operators.contains node.opType = true := by
    rw [reduces.operator_eq]
    cases r <;> decide
  have found : data? operands = some data := reduces.data_eq
  have accepted : node.acceptedTypes.contains data.dtype = true := by
    have listed : data.dtype ∈ node.acceptedTypes := List.mem_append_left _ reduces.accepted
    simpa using listed
  have late : ¬ node.opset < 1 := by
    have := reduces.late
    omega
  unfold endings formReasons
  rw [known, found, reduces.rank?_eq, Option.any_some, accepted,
    hasOther_of_int reduces.keepDims_eq]
  simp [Ending.ofReasons, late]

theorem endings_of_attribute (reduces : node.Reduces r keep operands data)
    (early : node.opset < r.operandSince) {values? : Option (List Int)}
    (found : node.attributes.ints? "axes" = .ok values?)
    (fits : ∀ axis ∈ values?.getD [], fitsInt64 axis = true)
    (listed : values?.getD [] = [] → ∀ rank, data.rank? = some rank →
      rank ≤ 9223372036854775808) :
    firstReason (node.endings operands) =
      (firstReason (misfits data.rank? (values?.getD []))).map .rejected := by
  have unread : node.takesOperand = false := by
    rw [reduces.takesOperand_eq]
    exact decide_eq_false (by omega)
  have axes := axesAttribute_of_ints? found
  have held : node.isOverflowing operands = false := by
    unfold isOverflowing
    rw [unread, axes, reduces.rank?_eq]
    by_cases empty : values?.getD [] = []
    · have few : (data.rank?.any fun rank => decide (9223372036854775808 < rank)) = false := by
        cases known : data.rank? with
        | none => rfl
        | some rank =>
          have := listed empty rank known
          simpa using this
      simp [empty, few]
    · have every : ((values?.getD []).any fun axis => !fitsInt64 axis) = false :=
        List.any_eq_false.mpr fun axis member => by simp [fits axis member]
      simp [empty, every]
  rw [reduces.endings_eq, unread, held, isUnreadable, unread, knownAxes, unread, axes,
    hasOther_of_ints? found]
  simp [Ending.ofReasons, firstReason_map]

/-- So are the axes of a constant operand, and first the length of their list, which is their
    number. -/
theorem endings_of_operand (reduces : node.Reduces r keep operands data)
    (late : r.operandSince ≤ node.opset)
    (unflagged : node.attributes.find? "noop_with_empty_axes" = none) {values : List Int}
    (holds : ∀ t, operands[1]?.join = some t → t.toFacts = .vector values)
    (given : values ≠ [] → ∃ t, operands[1]?.join = some t) :
    firstReason (node.endings operands) =
      (firstReason (misfits data.rank? values)).map .rejected := by
  have operand : node.takesOperand = true := by
    rw [reduces.takesOperand_eq]
    exact decide_eq_true late
  have plain : node.hasOther "noop_with_empty_axes" .int = false :=
    hasOther_of_int (int_of_absent 0 unflagged)
  have held : node.isOverflowing operands = false := by
    rw [isOverflowing, operand]
    rfl
  have known : (operands[1]?.join.any fun t => !t.shape.isFullyKnown) = false := by
    cases found : operands[1]?.join with
    | none => rfl
    | some t =>
      rw [Option.any_some, Tensor.shape_of_vector (holds t found)]
      rfl
  rw [reduces.endings_eq, operand, plain, known, held, isUnreadable, operand, knownAxes, operand,
    reduces.rank?_eq]
  -- an empty list names no operand, and any other one is a vector of its values
  by_cases empty : values = []
  · subst empty
    have unnamed : axesOperand? operands = none := by
      unfold axesOperand?
      cases found : operands[1]?.join with
      | none => rfl
      | some t => simp [Option.filter, Tensor.shape_of_vector (holds t found)]
    simp [unnamed, Ending.ofReasons, misfits]
  · obtain ⟨t, found⟩ := given empty
    have vector := holds t found
    have named : axesOperand? operands = some t := by
      have filled : t.shape ≠ .scalar ∧ t.shape ≠ .static [0] := by
        rw [Tensor.shape_of_vector vector]
        simp [Shape.static, Shape.scalar, empty]
      rw [axesOperand?, found, Option.filter_some, if_pos (decide_eq_true filled)]
    simp only [named, Option.bind_some, Tensor.listed?_of_vector vector,
      Tensor.heldAxes_of_vector vector, Tensor.isUnreadable_of_vector vector, Option.map_some,
      Option.getD_some, Option.any_some]
    rw [← firstReason_of_count]
    simp [Ending.ofReasons]

end SourceNode.Reduces

/-- Nodes with the same reasons to be rejected are rejected for the same kind of reason, or both
    lowered. -/
theorem lowered_or_rejected_alike {node node' : SourceNode} {operands operands' : List (Option Tensor)}
    {reasons : List (Bool × FailureKind)}
    (first : firstReason (node.endings operands) = (firstReason reasons).map .rejected)
    (second : firstReason (node'.endings operands') = (firstReason reasons).map .rejected)
    (g g' : Graph) :
    (∃ failure failure', lowerNode .standard node operands g = (.error (.node failure), g) ∧
      lowerNode .standard node' operands' g' = (.error (.node failure'), g') ∧
      failure.kind = failure'.kind) ∨
    ∃ out out' h h', lowerNode .standard node operands g = (.ok [out], h) ∧
      lowerNode .standard node' operands' g' = (.ok [out'], h') := by
  have decided := lowerNode_decided node operands g
  have decided' := lowerNode_decided node' operands' g'
  rw [first] at decided
  rw [second] at decided'
  cases reason : firstReason reasons with
  | some kind =>
    rw [reason] at decided decided'
    obtain ⟨failure, failed, ofKind⟩ := decided
    obtain ⟨failure', failed', ofKind'⟩ := decided'
    exact Or.inl ⟨failure, failure', failed, failed', ofKind.trans ofKind'.symm⟩
  | none =>
    rw [reason] at decided decided'
    obtain ⟨out, h, done⟩ := decided
    obtain ⟨out', h', done'⟩ := decided'
    exact Or.inr ⟨out, out', h, h', done, done'⟩

/-! The same operators -/

/-- What an operator does, but for what it reads and writes. -/
def Op.form (op : Op) : String × Fields := (op.opType, op.attributes)

namespace Reduction

variable {r : Reduction} {keepDims : Bool} {x x' axes axes' : String}
  {first first' middle middle' last last' : Nat} {source? source?' : Option String}

theorem form_coreAndSteps :
    (r.coreAndSteps keepDims x (some axes) first middle last source?).map Op.form =
      (r.coreAndSteps keepDims x' (some axes') first' middle' last' source?').map Op.form := by
  cases r <;> rfl

end Reduction

/-- A node that was lowered: its draft, how its axes were resolved, and its operators. -/
structure LoweredFrom (node : SourceNode) (operands : List (Option Tensor)) (r : Reduction)
    (keep : Int) (data : Tensor) (g h : Graph) (out : Tensor) (reading : Reading) (axes : Axes)
    (d : Draft) (ops : List Op) (axesId? : Option String) : Prop where
  reading_eq : r.reading node.opset node.attributes
    (((operands[1]?).join).map fun axes => Axes.isEmptyOperand axes.shape) = .ok reading
  resolved : ∃ d₁, Axes.Resolved { node, operands, graph := g } data (Lowering.blank node g) d₁
    reading axes
  resolves : ∃ d₁, Axes.resolve { node, operands, graph := g } data
    (r.entryAt node.opset).policy (Lowering.blank node g) = .ok axes d₁
  dtype_eq : out.dtype = data.dtype
  leaves : axes.leaves (keep != 0) data.shape = .ok out.shape
  sound : Sound g (operands.filterMap id) g.counter d
  graph_eq : h = d.attach { g with counter := d.counter }
  parts : ∃ source?, Reduction.AxesParts d data operands[1]?.join source? reading ops axesId?
  ops_eq : ∃ first middle last source?, h.opsSince g =
    ops ++ r.coreAndSteps (keep != 0) data.id axesId? first middle last source?

theorem SourceNode.Reduces.loweredFrom {node : SourceNode} {operands : List (Option Tensor)}
    {data : Tensor} {r : Reduction} {keep : Int} (reduces : node.Reduces r keep operands data)
    {g h : Graph} {out : Tensor} (done : lowerNode .standard node operands g = (.ok [out], h)) :
    ∃ reading axes d ops axesId?,
      LoweredFrom node operands r keep data g h out reading axes d ops axesId? := by
  obtain ⟨s, describes, d, ops, axesId?, first, middle, last, source?, drafted, built⟩ :=
    LoweredNode.built_of_lowered done
  obtain ⟨reduction, keepDims, reading, data', axes?, out', graph, newOps⟩ := s
  obtain rfl : r = reduction :=
    Reduction.operator_injective (reduces.operator_eq.symm.trans describes.operator_eq)
  obtain rfl : data = data' := Option.some.inj (reduces.data_eq.symm.trans describes.data_eq)
  obtain rfl : out = out' := List.singleton_inj.mp describes.outputs_eq
  obtain rfl : graph = h := describes.graph_eq
  obtain ⟨keep', found, rfl⟩ := describes.keepDims_eq
  obtain rfl : keep = keep' := Except.ok.inj (reduces.keepDims_eq.symm.trans found)
  obtain ⟨data', keep', axes, d₁, operand, found', resolve, dtype, leaves⟩ :=
    Reduction.lower_leaves drafted.lowered
  obtain rfl : data = data' := Option.some.inj (reduces.data_eq.symm.trans operand)
  obtain rfl : keep = keep' := Except.ok.inj (found.symm.trans found')
  obtain ⟨reading', reads, resolved⟩ := Axes.resolve_ok resolve
  obtain rfl : reading' = reading := Except.ok.inj (reads.symm.trans describes.reading_eq)
  refine ⟨reading', axes, d, ops, axesId?, ?_⟩
  exact {
    reading_eq := describes.reading_eq
    resolved := ⟨d₁, resolved⟩
    resolves := ⟨d₁, resolve⟩
    dtype_eq := dtype
    leaves := leaves
    sound := drafted.sound
    graph_eq := drafted.graph_eq
    parts := ⟨source?, built.parts⟩
    ops_eq := ⟨first, middle, last, source?, describes.ops_eq.symm.trans built.ops_eq⟩ }

namespace LoweredFrom

variable {node : SourceNode} {operands : List (Option Tensor)} {r : Reduction} {keep : Int}
  {data : Tensor} {g h : Graph} {out : Tensor} {reading : Reading} {axes : Axes} {d : Draft}
  {ops : List Op} {axesId? : Option String}

theorem find?_of_mem
    (lowered : LoweredFrom node operands r keep data g h out reading axes d ops axesId?)
    {t : Tensor} (member : t ∈ d.tensors) : h.tensors.find? t.id = some t := by
  have there := lowered.sound.find?_seated { g with counter := d.counter } t.id
  rw [lowered.sound.drafted?_of_mem member, Option.some_or] at there
  rw [lowered.graph_eq, Draft.tensors_attach, there]

theorem find?_of_unwritten
    (lowered : LoweredFrom node operands r keep data g h out reading axes d ops axesId?)
    {id : String} {t : Tensor} (own : g.tensors.find? id = some t)
    (unwritten : ∀ op ∈ h.opsSince g, id ∉ op.outputs) : h.tensors.find? id = some t := by
  have new : h.opsSince g = d.ops := by
    rw [lowered.graph_eq]
    exact lowered.sound.opsSince_attach
  have undrafted : d.drafted? id = none := by
    cases drafted : d.drafted? id with
    | none => rfl
    | some u =>
      obtain ⟨member, rfl⟩ := mem_of_drafted? drafted
      obtain ⟨n, _, _, made⟩ := lowered.sound.made u member
      cases made with
      | constant array whole free =>
        have absent := ((Graph.isTaken_eq_false_iff g _).mp free).1
        exact nomatch absent.symm.trans own
      | result inferred free =>
        obtain ⟨op, listed, named⟩ := lowered.sound.results _ member rfl
        obtain ⟨_, _, _, newOp⟩ := lowered.sound.newOps op listed
        refine absurd ?_ (unwritten op (new ▸ listed))
        rw [newOp.outputs_eq, named]
        exact List.mem_singleton_self _
  rw [lowered.graph_eq, Draft.tensors_attach, lowered.sound.find?_seated, undrafted, Option.none_or,
    own, Option.some_or]

theorem reading_of_attribute
    (lowered : LoweredFrom node operands r keep data g h out reading axes d ops axesId?)
    (early : node.opset < r.operandSince) {values? : Option (List Int)}
    (found : node.attributes.ints? "axes" = .ok values?) :
    reading = if values?.getD [] = [] then .all else .fixed (values?.getD []) := by
  have reads := lowered.reading_eq
  rw [Reduction.reading, if_pos early, found] at reads
  cases reads
  by_cases empty : values?.getD [] = [] <;> simp [empty]

theorem reading_of_operand
    (lowered : LoweredFrom node operands r keep data g h out reading axes d ops axesId?)
    (late : r.operandSince ≤ node.opset)
    (unflagged : node.attributes.find? "noop_with_empty_axes" = none) {values : List Int}
    (holds : ∀ t, operands[1]?.join = some t → t.toFacts = .vector values)
    (given : values ≠ [] → ∃ t, operands[1]?.join = some t) :
    reading = if values = [] then .all else .operand := by
  have reads := lowered.reading_eq
  rw [Reduction.reading, if_neg (by omega), SourceNode.int_of_absent 0 unflagged] at reads
  cases reads
  cases found : operands[1]?.join with
  | none =>
    have empty : values = [] := by
      by_contra filled
      obtain ⟨t, there⟩ := given filled
      rw [found] at there
      contradiction
    simp [empty]
  | some t =>
    have shape : t.shape = .static [values.length] := congrArg Facts.shape (holds t found)
    have emptiness : Axes.isEmptyOperand t.shape = decide (values = []) := by
      rw [shape]
      simp [Axes.isEmptyOperand, Shape.static, Shape.scalar]
    by_cases empty : values = [] <;> simp [emptiness, empty]

theorem fixed_parts {values : List Int}
    (lowered : LoweredFrom node operands r keep data g h out (.fixed values) axes d ops axesId?) :
    axes = .fixed values ∧ ops = [] ∧ ∃ id t, axesId? = some id ∧ h.tensors.find? id = some t ∧
      t.data = some ⟨.int64, [values.length], values.map .int⟩ := by
  have form : axes = .fixed values := by
    obtain ⟨_, resolved⟩ := lowered.resolved
    cases axes with
    | fixed others =>
      obtain ⟨_, same | ⟨other, _⟩⟩ := resolved
      · cases same
        rfl
      · contradiction
    | given t => exact nomatch resolved.2.1
    | synthesized t => exact nomatch resolved.1
    | none => exact nomatch resolved.2
  obtain ⟨_, parts⟩ := lowered.parts
  cases parts with
  | fixed holds =>
    obtain ⟨t, member, named, stored⟩ := holds
    exact ⟨form, rfl, _, t, rfl, named ▸ lowered.find?_of_mem member, stored⟩

theorem operand_parts
    (lowered : LoweredFrom node operands r keep data g h out .operand axes d ops axesId?) :
    ∃ t, operands[1]?.join = some t ∧ axes = .given t ∧ ops = [] ∧ axesId? = some t.id := by
  obtain ⟨_, parts⟩ := lowered.parts
  cases parts with
  | @given t there known =>
    refine ⟨t, there, ?_, rfl, rfl⟩
    obtain ⟨_, resolved⟩ := lowered.resolved
    cases axes with
    | fixed others => obtain ⟨_, same | ⟨same, _⟩⟩ := resolved <;> cases same
    | given u =>
      obtain ⟨_, _, also, _⟩ := resolved
      rw [Option.some.inj (there.symm.trans also)]
    | synthesized u => exact nomatch resolved.1
    | none => exact nomatch resolved.2

end LoweredFrom

/-! All axes -/

namespace Axes

variable {ctx : Context} {data : Tensor} {d d' : Draft} {axes : Axes} {keepDims : Bool}
  {shape : Shape}

/-- All axes leave nothing known of an unknown rank, the exact shape or, when they are computed at
    run time, as many open dims as are left. -/
theorem leaves_all (resolved : Resolved ctx data d d' .all axes)
    (leaves : axes.leaves keepDims data.shape = .ok shape) :
    shape = .unknownRank ∨ ∃ dims, data.shape = .ranked dims ∧
      (shape = .ranked (dimsReduced (Finset.range dims.length) keepDims dims) ∨
        keepDims = true ∧ shape = .dynamic dims.length) := by
  -- with a known rank the axes are fixed or synthesized
  cases ranked : data.shape with
  | unknownRank =>
    rw [ranked] at leaves
    cases axes with
    | none => exact nomatch resolved.2
    | _ =>
      cases leaves
      exact Or.inl rfl
  | ranked dims =>
    cases axes with
    | none => exact nomatch resolved.2
    | given t => exact nomatch resolved.2.1
    | fixed values =>
      obtain ⟨S, named, left⟩ : ∃ S, Reading.all.positions? dims.length [] = some (some S) ∧
          shape = .ranked (dimsReduced S keepDims dims) := exact_of_fixed resolved leaves ranked
      cases named
      exact Or.inr ⟨dims, rfl, Or.inl left⟩
    | synthesized t =>
      obtain ⟨_, _, _, _, _, _, _, drafted⟩ := resolved
      have unread : Inference.constantValues t.toFacts = .ok Option.none := by
        rw [Inference.constantValues, drafted.unstored]
      have opened : Inference.openReduction keepDims dims.length t.shape = .ok shape := by
        rw [← leaves, ranked]
        simp only [Axes.leaves, Axes.facts?, Inference.reducedShape, unread]
        rfl
      rw [drafted.shape_eq] at opened
      cases keepDims with
      | true =>
        cases opened
        exact Or.inr ⟨dims, rfl, Or.inr ⟨rfl, rfl⟩⟩
      | false =>
        cases opened
        exact Or.inl rfl

end Axes

theorem Shape.refines_dynamic {dims : List Dim} {rank : Nat} (same : dims.length = rank) :
    (Shape.ranked dims).Refines (.dynamic rank) := by
  subst same
  refine Or.inr ⟨dims, _, rfl, rfl, ?_⟩
  induction dims with
  | nil => exact .nil
  | cons d rest ih => exact .cons (Or.inr rfl) ih

theorem Shape.refines_self (dims : List Dim) : (Shape.ranked dims).Refines (.ranked dims) :=
  Or.inr ⟨dims, dims, rfl, rfl, List.forall₂_same.mpr fun _ _ => Or.inl rfl⟩

theorem length_dimsReduced_keep (S : Finset Nat) (dims : List Dim) :
    (dimsReduced S true dims).length = dims.length := by
  simp [dimsReduced]

/-- Two lowerings that went the same way, over the axes that the operand of the second one holds:
    the first one reads them from a constant that it made. -/
structure LoweredAlike (g h g' h' : Graph) (out out' w : Tensor) : Prop where
  dtype_eq : out.dtype = out'.dtype
  shape_eq : out.shape = out'.shape
  forms_eq : (h.opsSince g).map Op.form = (h'.opsSince g').map Op.form
  stored : ∃ id t, (h.opsSince g).flatMap Op.axesIds = [id] ∧ h.tensors.find? id = some t ∧
    t.data = w.data
  read : (h'.opsSince g').flatMap Op.axesIds = [w.id]
  kept : g'.tensors.find? w.id = some w → (∀ op ∈ h'.opsSince g', w.id ∉ op.outputs) →
    h'.tensors.find? w.id = some w

namespace LoweredFrom

variable {node node' : SourceNode} {operands operands' : List (Option Tensor)} {r : Reduction}
  {keep : Int} {data : Tensor} {g h g' h' : Graph} {out out' : Tensor} {axes axes' : Axes}
  {d d' : Draft} {ops ops' : List Op} {axesId? axesId?' : Option String}

theorem refines (lowered : LoweredFrom node operands r keep data g h out .all axes d ops axesId?)
    (lowered' : LoweredFrom node' operands' r keep data g' h' out' .all axes' d' ops' axesId?')
    (early : node.opset < r.operandSince) : out.shape.Refines out'.shape := by
  obtain ⟨_, resolved'⟩ := lowered'.resolved
  rcases Axes.leaves_all resolved' lowered'.leaves with open_rank | ⟨dims, ranked, left⟩
  · exact Or.inl open_rank
  · have known : data.rank? = some dims.length :=
      Shape.rank?_eq_some_iff.mpr ⟨dims, ranked, rfl⟩
    obtain ⟨_, resolve⟩ := lowered.resolves
    rw [Reduction.entryAt, if_pos early] at resolve
    obtain ⟨values, rfl⟩ := Axes.fixed_of_fromAttribute resolve known
    obtain ⟨_, resolved⟩ := lowered.resolved
    obtain ⟨S, named, exact_shape⟩ : ∃ S, Reading.all.positions? dims.length [] = some (some S) ∧
        out.shape = .ranked (dimsReduced S (keep != 0) dims) :=
      Axes.exact_of_fixed resolved lowered.leaves ranked
    cases named
    rcases left with same | ⟨keeps, loose⟩
    · rw [exact_shape, same]
      exact Shape.refines_self _
    · rw [exact_shape, loose, keeps]
      exact Shape.refines_dynamic (length_dimsReduced_keep _ dims)

theorem alike {values : List Int} {w : Tensor}
    (lowered : LoweredFrom node operands r keep data g h out (.fixed values) axes d ops axesId?)
    (lowered' : LoweredFrom node' operands' r keep data g' h' out' .operand axes' d' ops' axesId?')
    (given : operands'[1]?.join = some w) (holds : w.toFacts = .vector values) :
    LoweredAlike g h g' h' out out' w := by
  obtain ⟨rfl, rfl, id, t, rfl, there, stored⟩ := lowered.fixed_parts
  obtain ⟨u, same, rfl, rfl, rfl⟩ := lowered'.operand_parts
  obtain rfl : w = u := Option.some.inj (given.symm.trans same)
  obtain ⟨first, middle, last, source?, newOps⟩ := lowered.ops_eq
  obtain ⟨first', middle', last', source?', newOps'⟩ := lowered'.ops_eq
  rw [List.nil_append] at newOps newOps'
  have leaves := lowered.leaves
  have leaves' := lowered'.leaves
  simp only [Axes.leaves, Axes.facts?, holds] at leaves leaves'
  exact {
    dtype_eq := lowered.dtype_eq.trans lowered'.dtype_eq.symm
    shape_eq := Except.ok.inj (leaves.symm.trans leaves')
    forms_eq := by
      rw [newOps, newOps']
      exact Reduction.form_coreAndSteps
    stored := by
      refine ⟨id, t, ?_, there, ?_⟩
      · rw [newOps]
        exact axesIds_coreAndSteps
      · rw [stored]
        exact (congrArg Facts.data holds).symm
    read := by
      rw [newOps']
      exact axesIds_coreAndSteps
    kept := fun own unwritten => lowered'.find?_of_unwritten own unwritten }

end LoweredFrom

/-- Axes of an attribute and the same axes in a constant operand are lowered alike. Without axes
    the attribute regime says at least as much of the result. -/
theorem attribute_and_operand_axes_agree (r : Reduction) (keep : Int) (data : Tensor)
    (node node' : SourceNode) (operands operands' : List (Option Tensor)) (g g' : Graph)
    (reduces : node.Reduces r keep operands data)
    (reduces' : node'.Reduces r keep operands' data)
    (early : node.opset < r.operandSince) (late : r.operandSince ≤ node'.opset)
    (unflagged : node'.attributes.find? "noop_with_empty_axes" = none) :
    (∀ values w, values ≠ [] → (∀ axis ∈ values, fitsInt64 axis = true) →
      node.attributes.ints? "axes" = .ok (some values) → operands'[1]?.join = some w →
      w.toFacts = .vector values →
      (∃ failure failure', lowerNode .standard node operands g = (.error (.node failure), g) ∧
        lowerNode .standard node' operands' g' = (.error (.node failure'), g') ∧
        failure.kind = failure'.kind) ∨
      ∃ out out' h h', lowerNode .standard node operands g = (.ok [out], h) ∧
        lowerNode .standard node' operands' g' = (.ok [out'], h') ∧
        LoweredAlike g h g' h' out out' w) ∧
    (∀ values?, node.attributes.ints? "axes" = .ok values? → values?.getD [] = [] →
      (∀ w, operands'[1]?.join = some w → w.toFacts = .vector []) →
      (∀ rank, data.rank? = some rank → rank ≤ 9223372036854775808) →
      ∃ out out' h h', lowerNode .standard node operands g = (.ok [out], h) ∧
        lowerNode .standard node' operands' g' = (.ok [out'], h') ∧
        out.dtype = out'.dtype ∧ out.shape.Refines out'.shape) := by
  refine ⟨?_, ?_⟩
  · intro values w filled fits found given holds
    have held : ∀ t, operands'[1]?.join = some t → t.toFacts = .vector values :=
      fun t same => Option.some.inj (given.symm.trans same) ▸ holds
    have there : values ≠ [] → ∃ t, operands'[1]?.join = some t := fun _ => ⟨w, given⟩
    have first := reduces.endings_of_attribute early found fits fun empty => absurd empty filled
    have second := reduces'.endings_of_operand late unflagged held there
    -- both regimes have the same first reason to reject the node, if any
    rcases lowered_or_rejected_alike first second g g' with rejected |
      ⟨out, out', h, h', done, done'⟩
    · exact Or.inl rejected
    · refine Or.inr ⟨out, out', h, h', done, done', ?_⟩
      obtain ⟨reading, axes, d, ops, axesId?, lowered⟩ := reduces.loweredFrom done
      obtain ⟨reading', axes', d', ops', axesId?', lowered'⟩ := reduces'.loweredFrom done'
      obtain rfl : reading = .fixed values :=
        (lowered.reading_of_attribute early found).trans (if_neg filled)
      obtain rfl : reading' = .operand :=
        (lowered'.reading_of_operand late unflagged held there).trans (if_neg filled)
      exact lowered.alike lowered' given holds
  · intro values? found empty held listed
    have first := reduces.endings_of_attribute early found (by simp [empty]) fun _ => listed
    have second := reduces'.endings_of_operand late unflagged held (absurd rfl)
    -- no axes fit every rank, so neither node is rejected
    have fine : firstReason (misfits data.rank? []) = none := by
      cases data.rank? <;> rfl
    have decided := lowerNode_decided node operands g
    have decided' := lowerNode_decided node' operands' g'
    rw [first, empty, fine] at decided
    rw [second, fine] at decided'
    obtain ⟨out, h, done⟩ := decided
    obtain ⟨out', h', done'⟩ := decided'
    refine ⟨out, out', h, h', done, done', ?_⟩
    obtain ⟨reading, axes, d, ops, axesId?, lowered⟩ := reduces.loweredFrom done
    obtain ⟨reading', axes', d', ops', axesId?', lowered'⟩ := reduces'.loweredFrom done'
    obtain rfl : reading = .all := (lowered.reading_of_attribute early found).trans (if_pos empty)
    obtain rfl : reading' = .all :=
      (lowered'.reading_of_operand late unflagged held (absurd rfl)).trans (if_pos rfl)
    exact ⟨lowered.dtype_eq.trans lowered'.dtype_eq.symm, lowered.refines lowered' early⟩

/-- A log-sum over axes of an attribute, and one over those of an operand. -/
def attributeLogSum (axes : List Int) : SourceNode :=
  { opType := "ReduceLogSum", opset := 1, attributes := .ofList [("axes", .ints axes)] }

def operandLogSum : SourceNode := { opType := "ReduceLogSum", opset := 18 }

def cubeOfDoubles : Tensor :=
  { dtype := .float64, shape := .ranked [.named "n", .anonymous, .known 4], data := none,
    origin := .given 0, id := "x", name := "x" }

def vectorOfAxes (axes : List Int) : Tensor :=
  .constant (.given 1) "axes" ⟨.int64, [axes.length], axes.map .int⟩

/-- The first and the last dim of a cube are reduced alike, and so are all its dims. -/
theorem cube_is_reduced_alike :
    (∃ out out' h h',
      lowerNode .standard (attributeLogSum [0, -1]) [some cubeOfDoubles] { name := "g" } =
        (.ok [out], h) ∧
      lowerNode .standard operandLogSum [some cubeOfDoubles, some (vectorOfAxes [0, -1])]
        { name := "g" } = (.ok [out'], h') ∧
      LoweredAlike { name := "g" } h { name := "g" } h' out out' (vectorOfAxes [0, -1])) ∧
    ∃ out out' h h',
      lowerNode .standard (attributeLogSum []) [some cubeOfDoubles] { name := "g" } =
        (.ok [out], h) ∧
      lowerNode .standard operandLogSum [some cubeOfDoubles, some (vectorOfAxes [])]
        { name := "g" } = (.ok [out'], h') ∧
      out.dtype = out'.dtype ∧ out.shape.Refines out'.shape := by
  have reduces : ∀ axes, (attributeLogSum axes).Reduces .logSum 1 [some cubeOfDoubles]
      cubeOfDoubles := fun _ => ⟨rfl, le_rfl, rfl, rfl, by decide⟩
  have reduces' : ∀ axes, operandLogSum.Reduces .logSum 1
      [some cubeOfDoubles, some (vectorOfAxes axes)] cubeOfDoubles :=
    fun _ => ⟨rfl, by decide, rfl, rfl, by decide⟩
  have holds : ∀ axes t, [some cubeOfDoubles, some (vectorOfAxes axes)][1]?.join = some t →
      t.toFacts = .vector axes := by
    intro axes t same
    cases same
    rfl
  refine ⟨?_, ?_⟩
  · obtain ⟨whenever, _⟩ := attribute_and_operand_axes_agree .logSum 1 cubeOfDoubles
      (attributeLogSum [0, -1]) operandLogSum _ _ { name := "g" } { name := "g" }
      (reduces [0, -1]) (reduces' [0, -1]) (by decide) (by decide) rfl
    refine (whenever [0, -1] (vectorOfAxes [0, -1]) (by decide) (by decide) rfl rfl rfl).resolve_left ?_
    rintro ⟨failure, _, failed, _⟩
    have unopposed : firstReason
        ((attributeLogSum [0, -1]).endings [some cubeOfDoubles]) = none := by
      decide +kernel
    have decided := lowerNode_decided (attributeLogSum [0, -1]) [some cubeOfDoubles]
      { name := "g" }
    rw [unopposed] at decided
    obtain ⟨out, h, done⟩ := decided
    rw [failed] at done
    cases done
  · obtain ⟨_, whenever⟩ := attribute_and_operand_axes_agree .logSum 1 cubeOfDoubles
      (attributeLogSum []) operandLogSum _ _ { name := "g" } { name := "g" }
      (reduces []) (reduces' []) (by decide) (by decide) rfl
    refine whenever (some []) rfl rfl (holds []) ?_
    intro rank known
    cases known
    decide

end ReductionIR
