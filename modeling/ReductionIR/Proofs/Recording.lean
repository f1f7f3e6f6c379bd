import ReductionIR.Proofs.Relowering
import ReductionIR.Proofs.Totality
/-
Graphs of reductions as they are written. The model has their constants for initializers and what
no operator makes for inputs, so that a conversion of it starts with just that, each tensor as it
was.
-/
namespace ReductionIR

open Draft Stepwise

variable {codec : Codec}

/-! A graph and its model -/

/-- A graph of reductions, and the model it is written as. -/
structure Graph.Recorded (codec : Codec) (g : Graph) (order : List String) (m : Model.Graph) :
    Prop where
  wired : g.Wired
  writable : g.Writable codec
  whole : ∀ id t, g.tensors.find? id = some t → t.Whole
  reductions : ∀ id op, g.ops.find? id = some op →
    ∃ kind keepDims data axes out, g.Reduces op kind keepDims data axes out
  ordered : Export.Ordered g order
  written : Export.WrittenAs codec g order m

theorem Graph.defaultOpset_of_toModel {g : Graph} {opset : Int} {allow : Bool} {written : Model}
    (done : g.toModel codec opset allow = .ok written) : written.defaultOpset = .ok opset := by
  unfold toModel at done
  dsimp only [bind, Except.bind, throw, throwThe, MonadExceptOf.throw] at done
  -- every step but the last one may have ended with a fault
  repeat' split at done
  all_goals first
    | contradiction
    | cases done
      rfl

/-- A tensor is given, or made by one of some operators. -/
def Graph.Known (g : Graph) (done : List String) (t : Tensor) : Prop :=
  ∀ p, (g.placement t).producer? = some p → p ∈ done

theorem Graph.known_concat_iff {g : Graph} (wired : g.Wired) {op : Op} {done : List String}
    (there : g.ops.find? op.id = some op) {id : String} {t : Tensor}
    (found : g.tensors.find? id = some t) :
    g.Known (done ++ [op.id]) t ↔ g.Known done t ∨ id = Graph.resultId op.id := by
  constructor
  · intro known
    refine or_iff_not_imp_right.mpr fun other p made => ?_
    rcases List.mem_append.mp (known p made) with old | last
    · exact old
    · obtain rfl := List.mem_singleton.mp last
      exact absurd (wired.eq_result there found made) other
  · rintro (known | rfl) p made
    · exact List.mem_append_left _ (known p made)
    · obtain ⟨_, placed⟩ := wired.placed op.id op there
      obtain ⟨t', result, _, producer⟩ := placed.result
      obtain rfl := Option.some.inj (found.symm.trans result)
      exact List.mem_append_right _
        (List.mem_singleton.mpr (Option.some.inj (made.symm.trans producer)))

/-! Tensors that stand for others -/

/-- A tensor stands for another one: of the same element type and shape, and with the same data
    unless it is a scalar that was computed. -/
structure Tensor.Echoes (t u : Tensor) : Prop extends t.Likens u where
  data : u.data = t.data ∨ t.shape = .scalar ∧ t.data = none

theorem Tensor.Resembles.echoes {t u : Tensor} (same : t.Resembles u) : t.Echoes u :=
  { same.likens with data := Or.inl (congrArg Facts.data same).symm }

theorem Tensor.Echoes.resembles {t u : Tensor} (echoes : t.Echoes u) (many : t.shape ≠ .scalar) :
    t.Resembles u := by
  rcases echoes.data with same | ⟨scalar, _⟩
  · have dtype := echoes.dtype
    have shape := echoes.shape
    obtain ⟨⟨_, _, _⟩, _⟩ := t
    obtain ⟨⟨_, _, _⟩, _⟩ := u
    cases dtype
    cases shape
    cases same
    rfl
  · contradiction

/-! What a written model gives -/

namespace Graph.Recorded

variable {g : Graph} {order : List String} {m : Model.Graph} (recorded : g.Recorded codec order m)

include recorded

theorem initializers_eq : m.initializers = Export.constantsOf codec g := by
  have none_more :
      ((Export.opsIn g order).flatMap fun op => (Export.pieceOf codec op).initializers) = [] := by
    refine List.flatMap_eq_nil_iff.mpr fun op member => ?_
    obtain ⟨_, _, _, _, _, reduces⟩ := recorded.reductions op.id op
      ((Export.mem_opsIn_iff recorded.wired recorded.ordered).mp member)
    rw [reduces.pieceOf_eq]
  rw [recorded.written.initializers, none_more, List.append_nil]

theorem unmade_of_given {name : String} (given : name ∈ m.givenNames) :
    ∃ t, g.tensors.find? name = some t ∧ g.Known [] t := by
  have known : ∀ {t}, (g.placement t).producer? = none → g.Known [] t := by
    intro t unmade p producer
    rw [unmade] at producer
    contradiction
  rw [Model.Graph.givenNames, recorded.initializers_eq, recorded.written.inputNames recorded.wired,
    List.mem_append] at given
  rcases given with constant | input
  · obtain ⟨t, data, found, held⟩ :=
      Export.stored_of_constant recorded.wired recorded.writable constant
    exact ⟨t, found, known ((recorded.wired.roles name t found).of_stored held)⟩
  · obtain ⟨t, found⟩ := recorded.wired.inputs_known name input
    rw [← recorded.wired.keyed name t found] at input
    exact ⟨t, found, known ((recorded.wired.roles name t found).of_input input).2⟩

theorem array_eq {init : Model.Initializer} (member : init ∈ m.initializers) :
    ∃ t data, g.tensors.find? init.name = some t ∧ t.data = some data ∧
      codec.array init = .ok data := by
  rw [recorded.initializers_eq] at member
  obtain ⟨t, data, found, held, same⟩ :=
    (Export.mem_constantsOf_iff recorded.wired recorded.writable).mp member
  refine ⟨t, data, found, held, ?_⟩
  rw [same]
  exact (recorded.writable.stored init.name t data found held).array_written init.name

theorem initializer_resembles {init : Model.Initializer} (member : init ∈ m.initializers)
    {data : Dense} (read : codec.array init = .ok data) (origin : Origin) :
    ∃ t, g.tensors.find? init.name = some t ∧
      t.Resembles (.constant origin init.name data) := by
  obtain ⟨t, array, found, held, back⟩ := recorded.array_eq member
  obtain rfl : data = array := Except.ok.inj (read.symm.trans back)
  obtain ⟨dtype, shape⟩ := recorded.whole init.name t found data held
  refine ⟨t, found, ?_⟩
  change t.toFacts = ⟨data.kind.dtype, data.shape, some data⟩
  rw [← dtype, ← shape, ← held]

theorem input_resembles {value : Model.ValueInfo} (member : value ∈ m.inputs) (origin : Origin) :
    ∃ t, g.tensors.find? value.name = some t ∧ t.Resembles (value.tensor origin) := by
  rw [recorded.written.inputs] at member
  obtain ⟨t, listed, rfl⟩ := List.mem_map.mp member
  obtain ⟨id, input, found⟩ := List.mem_filterMap.mp listed
  have named := recorded.wired.keyed id t found
  subst named
  refine ⟨t, found, ?_⟩
  have unstored := ((recorded.wired.roles t.id t found).of_input input).1
  change t.toFacts = ⟨.ofCode t.dtype.code, t.shape, none⟩
  rw [DType.ofCode_code, ← unstored]

theorem exists_tensor {id : String} (known : id ∈ g.inputs ∨ g.tensors.contains id = true ∨
    ∃ op ∈ g.ops.values, id ∈ op.outputs) : ∃ t, g.tensors.find? id = some t := by
  rcases known with input | held | ⟨op, member, written⟩
  · exact recorded.wired.inputs_known id input
  · exact Option.isSome_iff_exists.mp held
  · have perm := Export.opsIn_perm recorded.ordered
    have found := (Export.mem_opsIn_iff recorded.wired recorded.ordered).mp
      (perm.mem_iff.mpr member)
    obtain ⟨_, placed⟩ := recorded.wired.placed op.id op found
    obtain ⟨t, result, _⟩ := placed.result
    rw [recorded.wired.outputs_eq found, List.mem_singleton] at written
    exact ⟨t, written ▸ result⟩

end Graph.Recorded

/-- No name that a written model gives looks like the id of a result. -/
theorem Graph.Recorded.unclashing {names : List String} {g : Graph} {order : List String}
    {m : Model.Graph} (recorded : g.Recorded codec order m)
    (sourced : ∀ id t, g.tensors.find? id = some t → g.Sourced names id)
    (apart : ∀ name ∈ names, ∀ (kind : OpKind) n,
      name ≠ Graph.resultId (Graph.numbered kind.opType n)) : m.Unclashing := by
  intro name given kind n same
  obtain ⟨t, found, unmade⟩ := recorded.unmade_of_given given
  cases sourced name t found with
  | named given => exact apart name given kind n same
  | numbered stem k id_eq => exact Graph.resultId_ne_numbered _ _ _ (same.symm.trans id_eq)
  | @result op known id_eq =>
    obtain ⟨_, placed⟩ := recorded.wired.placed op.id op known
    obtain ⟨t', result, _, producer⟩ := placed.result
    obtain rfl := Option.some.inj (found.symm.trans (id_eq ▸ result))
    exact absurd (unmade op.id producer) List.not_mem_nil

end ReductionIR
