import ReductionIR.Proofs.Dispatch
import ReductionIR.Proofs.TableLaws
/-
Lowering does not look at where operators come from. For graphs that are the same but for the
sources of their operators, a node of the same operator, opset and attributes is lowered to the
same operators and tensors.
-/
namespace ReductionIR

open Stepwise

/-- An operator without its source. -/
def Op.unsourced (op : Op) : Op := { op with source? := none }

/-! Graphs -/

namespace Graph

/-- A graph without the sources of its operators. -/
def unsourced (g : Graph) : Graph := { g with ops := g.ops.map Op.unsourced }

variable (g : Graph)

theorem isTaken_unsourced (id : String) : g.unsourced.isTaken id = g.isTaken id := by
  unfold isTaken unsourced Table.contains
  rw [Table.find?_map, Option.isSome_map]

theorem freeFrom_unsourced (stem : String) (steps n : Nat) :
    g.unsourced.freeFrom stem steps n = g.freeFrom stem steps n := by
  induction steps generalizing n with
  | zero => rfl
  | succ steps ih => rw [freeFrom, freeFrom, isTaken_unsourced, ih]

theorem freeNumber_unsourced (stem : String) (counter : Nat) :
    g.unsourced.freeNumber stem counter = g.freeNumber stem counter := by
  have size : g.unsourced.ops.size = g.ops.size := List.length_map _
  rw [freeNumber, freeFrom_unsourced, size]
  rfl

theorem freeNumber_congr {g g' : Graph} (same : g.unsourced = g'.unsourced) (stem : String)
    (counter : Nat) : g.freeNumber stem counter = g'.freeNumber stem counter := by
  rw [← freeNumber_unsourced, same, freeNumber_unsourced]

theorem placeId_unsourced (id : String) (change : Placement → Placement) :
    (g.placeId id change).unsourced = g.unsourced.placeId id change := by
  have lookup : g.unsourced.tensors.find? id = g.tensors.find? id := rfl
  unfold placeId
  rw [lookup]
  cases g.tensors.find? id <;> rfl

theorem foldl_unsourced {β : Type} (step : Graph → β → Graph) (change : β → β)
    (each : ∀ g b, (step g b).unsourced = step g.unsourced (change b)) (bs : List β) :
    (bs.foldl step g).unsourced = (bs.map change).foldl step g.unsourced := by
  induction bs generalizing g with
  | nil => rfl
  | cons b rest ih => rw [List.foldl_cons, List.map_cons, List.foldl_cons, ih, each]

theorem addNode_unsourced (op : Op) :
    (g.addNode op).unsourced = g.unsourced.addNode op.unsourced := by
  have inserted : ({ g with ops := g.ops.insert op.id op } : Graph).unsourced =
      { g.unsourced with ops := g.unsourced.ops.insert op.id op.unsourced } := by
    unfold unsourced
    rw [Table.map_insert]
  unfold addNode
  dsimp only
  rw [foldl_unsourced _ (linkConsumer op.id) id fun g id => g.placeId_unsourced id _,
    foldl_unsourced _ (linkProducer op.id) id fun g id => g.placeId_unsourced id _, inserted,
    List.map_id, List.map_id]
  rfl

end Graph

/-! Drafts -/

namespace Draft

/-- A draft without the sources of its operators, and without the one to come. -/
def unsourced (d : Draft) : Draft :=
  { d with source? := none, ops := d.ops.map Op.unsourced }

theorem addOperand_unsourced (g : Graph) (t : Tensor) :
    (addOperand g t).unsourced = addOperand g.unsourced t := by
  have lookup : g.unsourced.tensors.contains t.id = g.tensors.contains t.id := rfl
  unfold addOperand
  rw [lookup]
  split <;> rfl

theorem addDrafted_unsourced (g : Graph) (t : Tensor) :
    (addDrafted g t).unsourced = addDrafted g.unsourced t := by
  have placement : g.unsourced.placement t = g.placement t := rfl
  unfold addDrafted
  rw [placement]
  split <;> rfl

theorem attach_unsourced (d : Draft) (g : Graph) :
    (d.attach g).unsourced = d.unsourced.attach g.unsourced := by
  unfold attach
  dsimp only
  rw [Graph.foldl_unsourced _ _ _ Graph.addNode_unsourced,
    Graph.foldl_unsourced _ _ id addDrafted_unsourced,
    Graph.foldl_unsourced _ _ id addOperand_unsourced, List.map_id, List.map_id]
  rfl

end Draft

/-! Builds -/

namespace Build

variable {α β : Type}

/-- What one build hands out, another one does too, and their drafts go on being the same but for
    sources. -/
def Follows (m m' : Build α) : Prop :=
  ∀ d d' a e, d.unsourced = d'.unsourced → m d = .ok a e →
    ∃ e', m' d' = .ok a e' ∧ e.unsourced = e'.unsourced

theorem follows_pure (a : α) : Follows (pure a) (pure a) := by
  intro d d' b e same done
  cases done
  exact ⟨d', rfl, same⟩

theorem follows_throw (fault : Fault) (m : Build α) : Follows (throw fault) m := by
  intro d d' a e _ done
  contradiction

theorem follows_ofExcept (result : Except Fault α) :
    Follows (MonadExcept.ofExcept result) (MonadExcept.ofExcept result) := by
  cases result with
  | ok a => exact follows_pure a
  | error fault => exact follows_throw fault _

theorem Follows.bind {m m' : Build α} {f f' : α → Build β} (first : Follows m m')
    (rest : ∀ a, Follows (f a) (f' a)) : Follows (m >>= f) (m' >>= f') := by
  intro d d' b e same done
  obtain ⟨a, middle, early, late⟩ := bind_eq_ok_iff.mp done
  obtain ⟨middle', early', same⟩ := first d d' a middle same early
  obtain ⟨e', late', same⟩ := rest a middle middle' b e same late
  exact ⟨e', bind_eq_ok_iff.mpr ⟨a, middle', early', late'⟩, same⟩

end Build

open Build

section Steps

variable {g g' : Graph}

theorem Draft.make_follows (same : g.unsourced = g'.unsourced) (opType : String)
    (inputs : List Tensor) (attributes : Fields) :
    Follows (Draft.make g opType inputs attributes) (Draft.make g' opType inputs attributes) := by
  intro d d' t e drafts done
  rw [make_apply] at done ⊢
  cases fits : infer opType (inputs.map Tensor.toFacts) attributes with
  | error fault =>
    rw [fits] at done
    contradiction
  | ok inferred =>
    rw [fits] at done
    cases done
    simp only [unsourced, Draft.mk.injEq] at drafts
    obtain ⟨counter, _, ops, tensors, operands, committed⟩ := drafts
    have number := Graph.freeNumber_congr same opType d.counter
    rw [counter] at number
    refine ⟨_, by rw [counter, number], ?_⟩
    simp [unsourced, withOp, record, ops, tensors, operands, committed, counter, number,
      Op.unsourced]

theorem Draft.constant_follows (same : g.unsourced = g'.unsourced)
    (data : Except Breakdown Dense) (stem : String) :
    Follows (Draft.constant g data stem) (Draft.constant g' data stem) := by
  intro d d' t e drafts done
  rw [constant_apply] at done ⊢
  cases data with
  | error failure => contradiction
  | ok data =>
    cases done
    simp only [unsourced, Draft.mk.injEq] at drafts
    obtain ⟨counter, _, ops, tensors, operands, committed⟩ := drafts
    have number := Graph.freeNumber_congr same stem d.counter
    rw [counter] at number
    have next : d'.nextConstant g' stem data = d.nextConstant g stem data := by
      simp [nextConstant, counter, number]
    refine ⟨d'.withConstant g' stem data, by simp only [next], ?_⟩
    simp [unsourced, withConstant, ops, tensors, operands, committed, counter, number, next]

theorem Axes.allOf_follows (same : g.unsourced = g'.unsourced) (data : Tensor) :
    Follows (allOf g data) (allOf g' data) := by
  unfold allOf
  refine (Draft.make_follows same _ _ _).bind fun lengths => ?_
  refine (Draft.make_follows same _ _ _).bind fun rank => ?_
  refine (Draft.make_follows same _ _ _).bind fun stop => ?_
  refine (Draft.constant_follows same _ _).bind fun start => ?_
  refine (Draft.constant_follows same _ _).bind fun step => ?_
  exact Draft.make_follows same _ _ _

theorem Axes.operand_follows (same : g.unsourced = g'.unsourced) (axes : Axes) :
    Follows (axes.operand g) (axes.operand g') := by
  unfold operand
  split
  · exact Draft.constant_follows same _ _
  · exact follows_pure _
  · exact follows_pure _
  · exact follows_throw _ _

end Steps

/-- Contexts that differ in what a lowering does not look at. -/
structure Context.Alike (ctx ctx' : Context) : Prop where
  opType : ctx.node.opType = ctx'.node.opType
  opset : ctx.node.opset = ctx'.node.opset
  attributes : ctx.node.attributes = ctx'.node.attributes
  operands : ctx.operands = ctx'.operands
  graph : ctx.graph.unsourced = ctx'.graph.unsourced

section Routines

variable {ctx ctx' : Context}

theorem Context.fail_follows {α : Type} (cause : NodeFailure.Cause) (m : Build α) :
    Follows (ctx.fail cause) m := follows_throw _ _

namespace Axes

theorem checkFixed_follows (values : List Int) (rank : Nat) :
    Follows (checkFixed ctx values rank) (checkFixed ctx' values rank) := by
  unfold checkFixed
  split
  · exact Context.fail_follows _ _
  · exact follows_pure _

theorem checkOperand_follows (axes : Tensor) (rank : Nat) :
    Follows (checkOperand ctx axes rank) (checkOperand ctx' axes rank) := by
  unfold checkOperand
  refine Follows.bind ?_ fun _ => ?_
  · unfold checkCount
    split
    · split
      · exact Context.fail_follows _ _
      · exact follows_pure _
    · exact follows_pure _
  · unfold checkValues
    split
    · exact (follows_ofExcept _).bind fun _ => checkFixed_follows _ _
    · exact follows_pure _

theorem whenRanked_follows (data : Tensor) {check check' : Nat → Build Unit}
    (follows : ∀ rank, Follows (check rank) (check' rank)) :
    Follows (whenRanked data check) (whenRanked data check') := by
  unfold whenRanked
  split
  · exact follows _
  · exact follows_pure _

theorem every_follows (alike : ctx.Alike ctx') (data : Tensor) :
    Follows (every ctx data) (every ctx' data) := by
  unfold every
  split
  · exact follows_pure _
  · exact (allOf_follows alike.graph data).bind fun _ => follows_pure _

theorem whenAbsent_follows (alike : ctx.Alike ctx') (data : Tensor) (noop : Int) :
    Follows (whenAbsent ctx data noop) (whenAbsent ctx' data noop) := by
  unfold whenAbsent
  split
  · exact follows_pure _
  · exact (allOf_follows alike.graph data).bind fun _ => follows_pure _

theorem resolve_follows (alike : ctx.Alike ctx') (data : Tensor) (policy : Option AxesPolicy) :
    Follows (resolve ctx data policy) (resolve ctx' data policy) := by
  unfold resolve
  split
  · unfold fromAttribute Context.read
    rw [alike.attributes]
    refine (follows_ofExcept _).bind fun values => ?_
    dsimp only
    split
    · exact every_follows alike data
    · exact (whenRanked_follows data fun _ => checkFixed_follows _ _).bind fun _ => follows_pure _
  · unfold fromInput Context.read Context.operand?
    rw [alike.attributes, alike.operands]
    refine (follows_ofExcept _).bind fun noop => ?_
    split
    · exact whenAbsent_follows alike data noop
    · split
      · exact Context.fail_follows _ _
      · split
        · exact whenAbsent_follows alike data noop
        · exact (whenRanked_follows data fun _ => checkOperand_follows _ _).bind
            fun _ => follows_pure _
  · exact follows_throw _ _

end Axes

namespace Reduction

variable (r : Reduction)

theorem prepare_follows (alike : ctx.Alike ctx') (x : Tensor) :
    Follows (r.prepare ctx x) (r.prepare ctx' x) := by
  unfold prepare
  split
  · exact Draft.make_follows alike.graph _ _ _
  · exact Draft.make_follows alike.graph _ _ _
  · exact follows_pure _

theorem finish_follows (alike : ctx.Alike ctx') (x : Tensor) :
    Follows (r.finish ctx x) (r.finish ctx' x) := by
  unfold finish
  split
  · exact Draft.make_follows alike.graph _ _ _
  · exact Draft.make_follows alike.graph _ _ _
  · exact follows_pure _

theorem reduce_follows (alike : ctx.Alike ctx') (keepDims : Bool) (axes : Axes) (x : Tensor) :
    Follows (r.reduce ctx keepDims axes x) (r.reduce ctx' keepDims axes x) := by
  unfold reduce
  split
  · exact follows_pure _
  · exact (Axes.operand_follows alike.graph axes).bind fun _ => Draft.make_follows alike.graph _ _ _

theorem lower_follows (alike : ctx.Alike ctx') (regime : Regime) :
    Follows (r.lower regime ctx) (r.lower regime ctx') := by
  unfold lower
  refine Follows.bind ?_ fun data => Follows.bind ?_ fun _ => Follows.bind ?_ fun keep => ?_
  · unfold Context.operand Context.operand?
    rw [alike.operands]
    split
    · exact follows_pure _
    · exact Context.fail_follows _ _
  · unfold checkType
    split
    · exact follows_pure _
    · exact Context.fail_follows _ _
  · unfold Context.read
    rw [alike.attributes]
    exact follows_ofExcept _
  · refine (Axes.resolve_follows alike data regime.policy).bind fun axes => ?_
    refine (prepare_follows r alike data).bind fun prepared => ?_
    exact (reduce_follows r alike _ axes prepared).bind fun reduced => finish_follows r alike reduced

end Reduction

end Routines

/-- A node is lowered to the same outputs and graph, whatever the sources are. -/
theorem lowerNode_unsourced {node node' : SourceNode} {operands : List (Option Tensor)}
    {g g' h : Graph} {outputs : List Tensor} (opType : node.opType = node'.opType)
    (opset : node.opset = node'.opset) (attributes : node.attributes = node'.attributes)
    (same : g.unsourced = g'.unsourced)
    (done : lowerNode .standard node operands g = (.ok outputs, h)) :
    ∃ h', lowerNode .standard node' operands g' = (.ok outputs, h') ∧
      h.unsourced = h'.unsourced := by
  obtain ⟨r, t, d, known, late, rfl, lowered, rfl⟩ := lowerNode_eq_ok done
  have alike : Context.Alike ⟨node, operands, g⟩ ⟨node', operands, g'⟩ :=
    ⟨opType, opset, attributes, rfl, same⟩
  have counter : g.counter = g'.counter := (congrArg Graph.counter same :)
  have blanks : (Lowering.blank node g).unsourced = (Lowering.blank node' g').unsourced := by
    simp [Lowering.blank, Draft.unsourced, counter]
  obtain ⟨d', lowered', drafts⟩ := r.lower_follows alike _ _ _ t d blanks lowered
  rw [opset] at lowered'
  refine ⟨_, lowerNode_of_lower (opType ▸ known) (opset ▸ late) lowered', ?_⟩
  have last : d.counter = d'.counter := (congrArg Draft.counter drafts :)
  have start : ({ g with counter := d.counter } : Graph).unsourced =
      ({ g' with counter := d'.counter } : Graph).unsourced := by
    have rest := congrArg (fun h : Graph => { h with counter := d.counter }) same
    rw [last] at rest ⊢
    exact rest
  rw [Draft.attach_unsourced, Draft.attach_unsourced, drafts, start]

end ReductionIR
