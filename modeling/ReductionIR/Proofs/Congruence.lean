import ReductionIR.Proofs.Atomicity
import ReductionIR.Proofs.Deciding
import ReductionIR.Proofs.Shaping
/-
What a lowering can see of its operands: the element type and shape of the data, and of the axes
what they hold as well. Neither the graph and its counter nor the ids of operands and the location
of the node have a part in what comes out of it, but for the ids it makes and the place that a
failure names.
-/
namespace ReductionIR

open Stepwise

/-- A fault without the place of its node. -/
def Fault.unlocated : Fault → Fault
  | .node failure => .node { failure with location := none }
  | fault => fault

/-- Tensors that inference cannot tell apart. -/
def Tensor.Resembles (t t' : Tensor) : Prop := t.toFacts = t'.toFacts

/-- Tensors of the same element type and shape, whatever they hold. -/
structure Tensor.Likens (t t' : Tensor) : Prop where
  dtype : t.dtype = t'.dtype
  shape : t.shape = t'.shape

/-- What comes of two tensors: these two, or two that inference cannot tell apart. -/
def Tensor.Follows (x x' t t' : Tensor) : Prop := t.Resembles t' ∨ t = x ∧ t' = x'

namespace Tensor

variable {x x' t t' u u' : Tensor}

theorem Resembles.likens (same : x.Resembles x') : x.Likens x' :=
  ⟨congrArg Facts.dtype same, congrArg Facts.shape same⟩

theorem rel_of_facts {R : Tensor → Tensor → Prop}
    (related : ∀ t t' : Tensor, t.Resembles t' → R t t')
    {t? t'? : Option Tensor} (facts : t?.map toFacts = t'?.map toFacts) : Option.Rel R t? t'? := by
  cases t? with
  | none =>
    rw [Option.map_none, eq_comm, Option.map_eq_none_iff] at facts
    rw [facts]
    exact .none
  | some t =>
    rw [Option.map_some, eq_comm, Option.map_eq_some_iff] at facts
    obtain ⟨t', rfl, same⟩ := facts
    exact .some (related t t' same.symm)

theorem rel_mono {R S : Tensor → Tensor → Prop} {t? t'? : Option Tensor}
    (related : Option.Rel R t? t'?) (wider : ∀ t t', R t t' → S t t') : Option.Rel S t? t'? := by
  cases related with
  | none => exact .none
  | some same => exact .some (wider _ _ same)

theorem rel_iff {R : Tensor → Tensor → Prop} {t? t'? : Option Tensor} :
    Option.Rel R t? t'? ↔
      t? = none ∧ t'? = none ∨ ∃ t t', t? = some t ∧ t'? = some t' ∧ R t t' := by
  constructor
  · intro related
    cases related with
    | none => exact Or.inl ⟨rfl, rfl⟩
    | some same => exact Or.inr ⟨_, _, rfl, rfl, same⟩
  · rintro (⟨rfl, rfl⟩ | ⟨t, t', rfl, rfl, same⟩)
    · exact .none
    · exact .some same

theorem Likens.rank?_eq (alike : x.Likens x') : x.rank? = x'.rank? :=
  congrArg Shape.rank? alike.shape

theorem follows_self (x x' : Tensor) : x.Follows x' x x' := Or.inr ⟨rfl, rfl⟩

theorem Follows.likens (follows : x.Follows x' t t') (alike : x.Likens x') : t.Likens t' := by
  rcases follows with same | ⟨rfl, rfl⟩
  · exact same.likens
  · exact alike

theorem Follows.resembles (follows : x.Follows x' t t') (same : x.Resembles x') :
    t.Resembles t' := by
  rcases follows with same | ⟨rfl, rfl⟩
  · exact same
  · exact same

theorem Follows.trans (first : x.Follows x' t t') (second : t.Follows t' u u') :
    x.Follows x' u u' := by
  rcases second with same | ⟨rfl, rfl⟩
  · exact Or.inl same
  · exact first

end Tensor

namespace Build

variable {α α' β β' : Type} {R : α → α' → Prop} {S : β → β' → Prop}

/-- Whatever their drafts are, one build hands out something and the other something related, or
    both fail for the same reason. -/
def Matches (R : α → α' → Prop) (m : Build α) (m' : Build α') : Prop :=
  ∀ d d', (∃ a a' e e', m d = .ok a e ∧ m' d' = .ok a' e' ∧ R a a') ∨
    ∃ fault fault' e e', m d = .error fault e ∧ m' d' = .error fault' e' ∧
      fault.unlocated = fault'.unlocated

theorem matches_pure {a : α} {a' : α'} (related : R a a') : Matches R (pure a) (pure a') := by
  intro d d'
  exact Or.inl ⟨a, a', d, d', rfl, rfl, related⟩

theorem matches_throw {fault fault' : Fault} (same : fault.unlocated = fault'.unlocated) :
    Matches R (throw fault) (throw fault') := by
  intro d d'
  exact Or.inr ⟨fault, fault', d, d', rfl, rfl, same⟩

theorem matches_ofExcept (result : Except Fault α) :
    Matches Eq (MonadExcept.ofExcept result) (MonadExcept.ofExcept result) := by
  cases result with
  | ok a => exact matches_pure rfl
  | error fault => exact matches_throw rfl

theorem Matches.bind {m : Build α} {m' : Build α'} {f : α → Build β} {f' : α' → Build β'}
    (first : Matches R m m') (rest : ∀ a a', R a a' → Matches S (f a) (f' a')) :
    Matches S (m >>= f) (m' >>= f') := by
  intro d d'
  rcases first d d' with ⟨a, a', middle, middle', done, done', related⟩ |
    ⟨fault, fault', e, e', failed, failed', same⟩
  · rcases rest a a' related middle middle' with ⟨b, b', e, e', ended, ended', kept⟩ |
      ⟨fault, fault', e, e', failed, failed', same⟩
    · refine Or.inl ⟨b, b', e, e', ?_, ?_, kept⟩
      · exact bind_eq_ok_iff.mpr ⟨a, middle, done, ended⟩
      · exact bind_eq_ok_iff.mpr ⟨a', middle', done', ended'⟩
    · refine Or.inr ⟨fault, fault', e, e', ?_, ?_, same⟩
      · exact bind_eq_error_iff.mpr (Or.inr ⟨a, middle, done, failed⟩)
      · exact bind_eq_error_iff.mpr (Or.inr ⟨a', middle', done', failed'⟩)
  · refine Or.inr ⟨fault, fault', e, e', ?_, ?_, same⟩
    · exact bind_eq_error_iff.mpr (Or.inl failed)
    · exact bind_eq_error_iff.mpr (Or.inl failed')

theorem Matches.mono {m : Build α} {m' : Build α'} {S : α → α' → Prop} (related : Matches R m m')
    (wider : ∀ a a', R a a' → S a a') : Matches S m m' := by
  intro d d'
  rcases related d d' with ⟨a, a', e, e', done, done', same⟩ | ended
  · exact Or.inl ⟨a, a', e, e', done, done', wider a a' same⟩
  · exact Or.inr ended

end Build

open Build

/-- Axes that inference cannot tell apart. -/
inductive Axes.Resembles : Axes → Axes → Prop
  | fixed (values : List Int) : Resembles (.fixed values) (.fixed values)
  | given {t t' : Tensor} (same : t.Resembles t') : Resembles (.given t) (.given t')
  | synthesized {t t' : Tensor} (same : t.Resembles t') :
      Resembles (.synthesized t) (.synthesized t')
  | none : Resembles .none .none

section Steps

variable (g g' : Graph)

theorem Draft.make_matches {opType : String} {inputs inputs' : List Tensor} {attributes : Fields}
    (same : infer opType (inputs.map Tensor.toFacts) attributes =
      infer opType (inputs'.map Tensor.toFacts) attributes) :
    Matches Tensor.Resembles (Draft.make g opType inputs attributes)
      (Draft.make g' opType inputs' attributes) := by
  intro d d'
  rw [make_apply, make_apply, ← same]
  cases infer opType (inputs.map Tensor.toFacts) attributes with
  | ok inferred => exact Or.inl ⟨_, _, _, _, rfl, rfl, rfl⟩
  | error fault => exact Or.inr ⟨fault, fault, d, d', rfl, rfl, rfl⟩

theorem Draft.constant_matches (data : Except Breakdown Dense) (stem : String) :
    Matches Tensor.Resembles (Draft.constant g data stem) (Draft.constant g' data stem) := by
  intro d d'
  rw [constant_apply, constant_apply]
  cases data with
  | ok data => exact Or.inl ⟨_, _, _, _, rfl, rfl, rfl⟩
  | error failure => exact Or.inr ⟨_, _, d, d', rfl, rfl, rfl⟩

variable {x x' : Tensor}

theorem Tensor.Resembles.cons (first : x.Resembles x') {xs xs' : List Tensor}
    (rest : xs.map Tensor.toFacts = xs'.map Tensor.toFacts) :
    (x :: xs).map Tensor.toFacts = (x' :: xs').map Tensor.toFacts :=
  congrArg₂ List.cons first rest

theorem infer_congr (opType : String) {inputs inputs' : List Tensor} (attributes : Fields)
    (same : inputs.map Tensor.toFacts = inputs'.map Tensor.toFacts) :
    infer opType (inputs.map Tensor.toFacts) attributes =
      infer opType (inputs'.map Tensor.toFacts) attributes := by
  rw [same]

namespace Axes

theorem allOf_matches (alike : x.Likens x') :
    Matches Tensor.Resembles (allOf g x) (allOf g' x') := by
  have rank : infer "ShapeOf" ([x].map Tensor.toFacts) [] =
      infer "ShapeOf" ([x'].map Tensor.toFacts) [] := by
    simp only [List.map_cons, List.map_nil, Inference.infer_lengths, alike.shape]
  unfold allOf
  refine (Draft.make_matches g g' rank).bind fun _ _ lengths => ?_
  refine (Draft.make_matches g g' (infer_congr _ _ (lengths.cons rfl))).bind fun _ _ rank => ?_
  refine (Draft.make_matches g g' (infer_congr _ _ (rank.cons rfl))).bind fun _ _ stop => ?_
  refine (Draft.constant_matches g g' _ _).bind fun _ _ start => ?_
  refine (Draft.constant_matches g g' _ _).bind fun _ _ step => ?_
  exact Draft.make_matches g g' (infer_congr _ _ (start.cons (stop.cons (step.cons rfl))))

theorem operand_matches {axes axes' : Axes} (same : axes.Resembles axes') :
    Matches Tensor.Resembles (axes.operand g) (axes'.operand g') := by
  cases same with
  | fixed values => exact Draft.constant_matches g g' _ _
  | given same => exact matches_pure same
  | synthesized same => exact matches_pure same
  | none => exact matches_throw rfl

end Axes

end Steps

/-- Contexts that agree in all that a lowering looks at: of its first operand, the data, it does
    not see what it holds. -/
structure Context.Resembles (ctx ctx' : Context) : Prop where
  opType : ctx.node.opType = ctx'.node.opType
  attributes : ctx.node.attributes = ctx'.node.attributes
  data : Option.Rel Tensor.Likens (ctx.operand? 0) (ctx'.operand? 0)
  axes : (ctx.operand? 1).map Tensor.toFacts = (ctx'.operand? 1).map Tensor.toFacts

section Routines

variable {ctx ctx' : Context} (alike : ctx.Resembles ctx') {x x' : Tensor}

include alike

namespace Context

theorem fail_matches {α α' : Type} {R : α → α' → Prop} (cause : NodeFailure.Cause) :
    Matches R (ctx.fail cause) (ctx'.fail cause) := by
  refine matches_throw ?_
  unfold failure Fault.unlocated
  rw [alike.opType]

theorem data_matches : Matches
    (fun x x' => ctx.operand? 0 = some x ∧ ctx'.operand? 0 = some x' ∧ x.Likens x')
    (ctx.operand 0) (ctx'.operand 0) := by
  unfold operand
  rcases Tensor.rel_iff.mp alike.data with ⟨first, second⟩ | ⟨x, x', first, second, likens⟩
  · rw [first, second]
    exact fail_matches alike _
  · rw [first, second]
    exact matches_pure ⟨rfl, rfl, likens⟩

end Context

namespace Axes

theorem checkFixed_matches (values : List Int) (rank : Nat) :
    Matches Eq (checkFixed ctx values rank) (checkFixed ctx' values rank) := by
  unfold checkFixed
  split
  · exact Context.fail_matches alike _
  · exact matches_pure rfl

theorem checkOperand_matches (same : x.Resembles x') (rank : Nat) :
    Matches Eq (checkOperand ctx x rank) (checkOperand ctx' x' rank) := by
  have shape : x.shape = x'.shape := congrArg Facts.shape same
  have data : x.data = x'.data := congrArg Facts.data same
  unfold checkOperand
  refine Matches.bind (R := Eq) ?_ fun _ _ _ => ?_
  · unfold checkCount
    rw [shape]
    split
    · split
      · exact Context.fail_matches alike _
      · exact matches_pure rfl
    · exact matches_pure rfl
  · unfold checkValues
    rw [data]
    split
    · refine (matches_ofExcept _).bind fun values values' same => ?_
      rw [same]
      exact checkFixed_matches alike values' rank
    · exact matches_pure rfl

omit alike in
theorem whenRanked_matches (likens : x.Likens x') {check check' : Nat → Build Unit}
    (each : ∀ rank, Matches Eq (check rank) (check' rank)) :
    Matches Eq (whenRanked x check) (whenRanked x' check') := by
  unfold whenRanked
  rw [likens.rank?_eq]
  split
  · exact each _
  · exact matches_pure rfl

omit alike in
theorem every_matches (likens : x.Likens x') :
    Matches Resembles (every ctx x) (every ctx' x') := by
  unfold every
  rw [likens.rank?_eq]
  split
  · exact matches_pure (.fixed _)
  · exact (allOf_matches _ _ likens).bind fun _ _ drafted => matches_pure (.synthesized drafted)

omit alike in
theorem whenAbsent_matches (likens : x.Likens x') (noop : Int) :
    Matches Resembles (whenAbsent ctx x noop) (whenAbsent ctx' x' noop) := by
  unfold whenAbsent
  split
  · exact matches_pure .none
  · exact (allOf_matches _ _ likens).bind fun _ _ drafted => matches_pure (.synthesized drafted)

theorem fromAttribute_matches (likens : x.Likens x') :
    Matches Resembles (fromAttribute ctx x) (fromAttribute ctx' x') := by
  unfold fromAttribute Context.read
  rw [alike.attributes]
  refine (matches_ofExcept _).bind fun values values' read => ?_
  dsimp only
  rw [read]
  split
  · exact every_matches likens
  · exact (whenRanked_matches likens fun rank => checkFixed_matches alike _ rank).bind
      fun _ _ _ => matches_pure (.fixed _)

theorem fromInput_matches (likens : x.Likens x') :
    Matches Resembles (fromInput ctx x) (fromInput ctx' x') := by
  have given := alike.axes
  unfold fromInput Context.read
  rw [alike.attributes]
  refine (matches_ofExcept _).bind fun noop noop' read => ?_
  rw [read]
  cases first : ctx.operand? 1 with
  | none =>
    rw [first, Option.map_none, eq_comm, Option.map_eq_none_iff] at given
    rw [given]
    exact whenAbsent_matches likens noop'
  | some axes =>
    rw [first, Option.map_some, eq_comm, Option.map_eq_some_iff] at given
    obtain ⟨axes', second, facts⟩ := given
    have shape : axes'.shape = axes.shape := congrArg Facts.shape facts
    simp only [second, shape]
    split
    · exact Context.fail_matches alike _
    · split
      · exact whenAbsent_matches likens noop'
      · refine (whenRanked_matches likens fun rank =>
          checkOperand_matches alike facts.symm rank).bind fun _ _ _ => ?_
        exact matches_pure (.given facts.symm)

theorem resolve_matches (likens : x.Likens x') (policy : Option AxesPolicy) :
    Matches Resembles (resolve ctx x policy) (resolve ctx' x' policy) := by
  unfold resolve
  split
  · exact fromAttribute_matches alike likens
  · exact fromInput_matches alike likens
  · exact matches_throw rfl

end Axes

/-! A step makes tensors that inference cannot tell apart, or hands on the data. -/

namespace Reduction

variable (r : Reduction)

omit alike in
theorem made_follows {opType : String} {inputs inputs' : List Tensor} {attributes : Fields}
    (same : infer opType (inputs.map Tensor.toFacts) attributes =
      infer opType (inputs'.map Tensor.toFacts) attributes) :
    Matches (x.Follows x') (ctx.make opType inputs attributes)
      (ctx'.make opType inputs' attributes) :=
  (Draft.make_matches _ _ same).mono fun _ _ => Or.inl

omit alike in
theorem elementwise_matches (kind : OpKind) (elementwise : kind = .exp ∨ kind = .log)
    (likens : x.Likens x') :
    Matches (x.Follows x') (ctx.make kind.opType [x] []) (ctx'.make kind.opType [x'] []) := by
  refine made_follows ?_
  simp only [List.map_cons, List.map_nil, infer_unary kind elementwise, likens.dtype, likens.shape]

omit alike in
theorem prepare_matches (likens : x.Likens x') :
    Matches (x.Follows x') (r.prepare ctx x) (r.prepare ctx' x') := by
  cases r
  case logSumExp => exact elementwise_matches .exp (Or.inl rfl) likens
  case sumSquare =>
    refine made_follows ?_
    simp only [List.map_cons, List.map_nil, infer_square, likens.dtype, likens.shape]
  all_goals exact matches_pure (Tensor.follows_self x x')

omit alike in
theorem finish_matches (likens : x.Likens x') :
    Matches (x.Follows x') (r.finish ctx x) (r.finish ctx' x') := by
  cases r
  case logSum => exact elementwise_matches .log (Or.inr rfl) likens
  case logSumExp => exact elementwise_matches .log (Or.inr rfl) likens
  all_goals exact matches_pure (Tensor.follows_self x x')

omit alike in
theorem reduce_matches (keepDims : Bool) {axes axes' : Axes} (resolved : axes.Resembles axes')
    (likens : x.Likens x') :
    Matches (x.Follows x') (r.reduce ctx keepDims axes x) (r.reduce ctx' keepDims axes' x') := by
  have onward : ∀ {axes axes' : Axes}, axes.Resembles axes' → Matches (x.Follows x')
      (axes.operand ctx.graph >>= fun operand =>
        ctx.make r.kernel.opType [x, operand] [("keep_dims", .bool keepDims)])
      (axes'.operand ctx'.graph >>= fun operand =>
        ctx'.make r.kernel.opType [x', operand] [("keep_dims", .bool keepDims)]) := by
    intro axes axes' resolved
    refine (Axes.operand_matches _ _ resolved).bind fun _ _ operand => ?_
    have facts := operand
    unfold Tensor.Resembles at facts
    refine made_follows ?_
    simp only [List.map_cons, List.map_nil, infer_reduce, Inference.reduced_eq, likens.dtype,
      likens.shape, facts]
  cases resolved with
  | none => exact matches_pure (Tensor.follows_self x x')
  | fixed values => exact onward (.fixed values)
  | given operand => exact onward (.given operand)
  | synthesized operand => exact onward (.synthesized operand)

theorem lower_matches (regime : Regime) :
    Matches (fun t t' => t.Resembles t' ∨ ctx.operand? 0 = some t ∧ ctx'.operand? 0 = some t')
      (r.lower regime ctx) (r.lower regime ctx') := by
  unfold lower
  refine (Context.data_matches alike).bind fun x x' ⟨first, second, likens⟩ => ?_
  refine Matches.bind (R := Eq) ?_ fun _ _ _ => ?_
  · unfold checkType
    rw [likens.dtype]
    split
    · exact matches_pure rfl
    · exact Context.fail_matches alike _
  · unfold Context.read
    rw [alike.attributes]
    refine (matches_ofExcept _).bind fun keep keep' read => ?_
    rw [read]
    refine (Axes.resolve_matches alike likens regime.policy).bind fun axes axes' resolved => ?_
    refine (prepare_matches r likens).bind fun _ _ prepared => ?_
    have opened := prepared.likens likens
    refine (reduce_matches r _ resolved opened).bind fun _ _ reduced => ?_
    refine (finish_matches r (reduced.likens opened)).mono fun t t' finished => ?_
    rcases prepared.trans (reduced.trans finished) with same | ⟨rfl, rfl⟩
    · exact Or.inl same
    · exact Or.inr ⟨first, second⟩

end Reduction

end Routines

theorem Lowering.unlocated_blame {node node' : SourceNode} {fault fault' : Fault}
    (opType : node.opType = node'.opType) (same : fault.unlocated = fault'.unlocated) :
    (blame node fault).unlocated = (blame node' fault').unlocated := by
  cases fault <;> cases fault' <;>
    simp_all [Fault.unlocated, blame]

section Lowering

variable {node node' : SourceNode} {operands operands' : List (Option Tensor)}
  (opType : node.opType = node'.opType) (opset : node.opset = node'.opset)
  (attributes : node.attributes = node'.attributes)

include opType opset attributes

/-- A lowering hands out one tensor or fails. Which of the two and why comes from the operator, the
    opset, the attributes, the element type and shape of the data and the facts of the axes; and so
    do the facts of the tensor, unless it is the data itself. -/
theorem lowerNode_follows (data : Option.Rel Tensor.Likens operands[0]?.join operands'[0]?.join)
    (axes : operands[1]?.join.map Tensor.toFacts = operands'[1]?.join.map Tensor.toFacts)
    (g g' : Graph) :
    (∃ t t', (lowerNode .standard node operands g).1 = .ok [t] ∧
      (lowerNode .standard node' operands' g').1 = .ok [t'] ∧
      (t.Resembles t' ∨ operands[0]?.join = some t ∧ operands'[0]?.join = some t')) ∨
    ∃ fault fault', (lowerNode .standard node operands g).1 = .error fault ∧
      (lowerNode .standard node' operands' g').1 = .error fault' ∧
      fault.unlocated = fault'.unlocated := by
  unfold lowerNode
  rw [← opType, ← opset]
  cases resolved : Registry.standard.resolve node.opType node.opset with
  | error cause =>
    exact Or.inr ⟨_, _, rfl, rfl, rfl⟩
  | ok entry =>
    obtain ⟨r, _, _, rfl⟩ := Registry.standard_resolve_eq_ok_iff.mp resolved
    have alike : Context.Resembles ⟨node, operands, g⟩ ⟨node', operands', g'⟩ :=
      ⟨opType, attributes, data, axes⟩
    -- drafts match whatever they start from, so the graphs need not agree
    have drafted : Matches (fun ts ts' => ∃ t t', ts = [t] ∧ ts' = [t'] ∧
          (t.Resembles t' ∨ operands[0]?.join = some t ∧ operands'[0]?.join = some t'))
        (Lowering.draftWith (r.entryAt node.opset) ⟨node, operands, g⟩)
        (Lowering.draftWith (r.entryAt node.opset) ⟨node', operands', g'⟩) := by
      rw [Lowering.draftWith_routine (r.routine_entryAt node.opset),
        Lowering.draftWith_routine (r.routine_entryAt node.opset)]
      refine (r.lower_matches alike _).bind fun t t' same => ?_
      exact matches_pure ⟨t, t', rfl, rfl, same⟩
    unfold Lowering.runEntry Draft.run EStateM.run
    rcases drafted { counter := g.counter, source? := some node.location }
        { counter := g'.counter, source? := some node'.location } with
      ⟨_, _, e, e', done, done', t, t', rfl, rfl, same⟩ |
      ⟨fault, fault', e, e', failed, failed', same⟩
    · refine Or.inl ⟨t, t', ?_, ?_, same⟩
      · simp only [done]
      · simp only [done']
    · refine Or.inr ⟨Lowering.blame node fault, Lowering.blame node' fault', ?_, ?_,
        Lowering.unlocated_blame opType same⟩
      · simp only [failed]
      · simp only [failed']

omit opType opset attributes in
theorem lowerNode_fault_unique {g g' : Graph} {fault fault' : Fault}
    (failed : (lowerNode .standard node operands g).1 = .error fault)
    (failed' : (lowerNode .standard node operands' g').1 = .error fault')
    (same : fault.unlocated = fault'.unlocated) : fault = fault' := by
  rcases (lowerNode_eq_error (Prod.ext failed rfl)).2 with ⟨_, cause, rfl⟩ | other
  · rcases (lowerNode_eq_error (Prod.ext failed' rfl)).2 with ⟨_, cause', rfl⟩ | other'
    · simpa [Fault.unlocated] using same
    · cases fault' <;> simp_all [Fault.unlocated, Fault.Blamed]
  · rcases (lowerNode_eq_error (Prod.ext failed' rfl)).2 with ⟨_, cause', rfl⟩ | other'
    · cases fault <;> simp_all [Fault.unlocated, Fault.Blamed]
    · cases fault <;> cases fault' <;> simp_all [Fault.unlocated, Fault.Blamed]

theorem lowerNode_matches (facts : operands.map (Option.map Tensor.toFacts) =
      operands'.map (Option.map Tensor.toFacts)) (g g' : Graph) :
    (∃ t t', (lowerNode .standard node operands g).1 = .ok [t] ∧
      (lowerNode .standard node' operands' g').1 = .ok [t'] ∧ t.Resembles t') ∨
    ∃ fault fault', (lowerNode .standard node operands g).1 = .error fault ∧
      (lowerNode .standard node' operands' g').1 = .error fault' ∧
      fault.unlocated = fault'.unlocated := by
  have each : ∀ i : Nat, operands[i]?.join.map Tensor.toFacts =
      operands'[i]?.join.map Tensor.toFacts := by
    intro i
    have same := congrArg (fun operands => operands[i]?.join) facts
    simpa [Option.join_map_eq_map_join] using same
  have data : Option.Rel Tensor.Likens operands[0]?.join operands'[0]?.join :=
    Tensor.rel_of_facts (fun _ _ => Tensor.Resembles.likens) (each 0)
  rcases lowerNode_follows opType opset attributes data (each 1) g g' with
    ⟨t, t', done, done', same | ⟨left, right⟩⟩ | ended
  · exact Or.inl ⟨t, t', done, done', same⟩
  · have same := each 0
    rw [left, right] at same
    exact Or.inl ⟨t, t', done, done', Option.some.inj same⟩
  · exact Or.inr ended

end Lowering

end ReductionIR
