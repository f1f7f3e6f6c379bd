import ReductionIR.Proofs.Agreement
import ReductionIR.Proofs.Codecs
import ReductionIR.Proofs.Reordering
/-
Initializers that become graph inputs. What the file stores of a value that is read as data only
has no part in a conversion: with its element type and shape alone the same nodes are lowered, to
tensors of the same element types and shapes.
-/
namespace ReductionIR

open Stepwise Conversion

variable {codec : Codec}

namespace ElemKind

/-- Element codes stand for the same type in stored arrays and in declared values, but for those
    of texts and short floats. -/
theorem dtype_of_code {kind : ElemKind}
    (typed : kind.code ∉ [DType.string.code, DType.bfloat16.code]) :
    DType.ofCode kind.code = kind.dtype := by
  cases kind
  case text | object | bfloat16 => simp [code, DType.code] at typed
  all_goals rfl

end ElemKind

namespace Model

variable {init : Initializer} {data : Dense}

/-- The input that declares the element type and the dims of an initializer. -/
def Initializer.declared (init : Initializer) (data : Dense) : ValueInfo :=
  ⟨init.name, .tensor init.elemCode data.shape⟩

theorem Initializer.declared_likens (code : data.kind.code = init.elemCode)
    (typed : init.elemCode ∉ [DType.string.code, DType.bfloat16.code]) (origin origin' : Origin) :
    (Tensor.constant origin init.name data).Likens ((init.declared data).tensor origin') := by
  rw [← code] at typed
  refine ⟨?_, rfl⟩
  change data.kind.dtype = DType.ofCode init.elemCode
  rw [← code, ElemKind.dtype_of_code typed]

theorem Initializer.shape_declared (reads : codec.Reads) (read : codec.array init = .ok data)
    (natural : ∀ n ∈ init.dims, 0 ≤ n) : data.shape = .static init.dims := by
  rw [Dense.shape, reads.dims_eq read natural]

/-- A model without one of its initializers, and with one more input. -/
def moved (m : Model) (index position : Nat) (value : ValueInfo) : Model :=
  { m with graph := { m.graph with
      initializers := m.graph.initializers.eraseIdx index
      inputs := m.graph.inputs.take position ++ value :: m.graph.inputs.drop position } }

end Model

namespace Conversion

variable {strict : Bool} {opset : Int} {c c' : Conversion} {nodes : List Model.Node}
  {node : Model.Node} {source : SourceNode} {x x' : Tensor}

/-! What comes in before the first node -/

/-- States in which all names but one stand for the same facts. -/
structure Apart (name : String) (t? t'? : Option Tensor) (c c' : Conversion) : Prop where
  first : c.values.find? name = t?
  second : c'.values.find? name = t'?
  others : ∀ other, other ≠ name → c.facts? other = c'.facts? other

namespace Apart

variable {name : String} {t? t'? : Option Tensor} {t t' : Tensor}

theorem bindValue (apart : Apart name t? t'? c c') {other : String} (new : other ≠ name)
    (same : t.Resembles t') {g g' : Graph} :
    Apart name t? t'? { c.bindValue other t with graph := g }
      { c'.bindValue other t' with graph := g' } where
  first := (Table.find?_insert_of_ne new.symm).trans apart.first
  second := (Table.find?_insert_of_ne new.symm).trans apart.second
  others key distinct := by
    have facts := apart.others key distinct
    unfold facts? Conversion.bindValue at *
    dsimp only
    rw [Table.find?_insert, Table.find?_insert]
    split
    · exact congrArg some same
    · exact facts

/-- Initializers of other names come in alike, whatever their numbers are, or the same one cannot
    be read. -/
theorem initializers {inits : List Model.Initializer}
    (new : name ∉ inits.map Model.Initializer.name)
    (apart : Apart name t? t'? c c') (i i' : Nat) :
    (∃ d d', (inits.zipIdx i).forM (fun init => addInitializer codec init.1 init.2) c = .ok () d ∧
      (inits.zipIdx i').forM (fun init => addInitializer codec init.1 init.2) c' = .ok () d' ∧
      Apart name t? t'? d d') ∨
    ∃ fault d d', (inits.zipIdx i).forM (fun init => addInitializer codec init.1 init.2) c =
        .error fault d ∧
      (inits.zipIdx i').forM (fun init => addInitializer codec init.1 init.2) c' =
        .error fault d' := by
  induction inits generalizing c c' i i' with
  | nil => exact Or.inl ⟨c, c', rfl, rfl, apart⟩
  | cons init rest ih =>
    rw [List.map_cons, List.mem_cons, not_or] at new
    have turn : ∀ i c,
        ((init :: rest).zipIdx i).forM (fun init => addInitializer codec init.1 init.2) c =
          (addInitializer codec init i >>= fun _ => (rest.zipIdx (i + 1)).forM
            fun init => addInitializer codec init.1 init.2) c := fun _ _ => rfl
    rw [turn, turn]
    cases read : codec.array init with
    | error sort =>
      have ended : ∀ i c, addInitializer codec init i c = .error (.bare (.foreign sort)) c := by
        intro i c
        unfold addInitializer Model.Initializer.tensor
        rw [read]
        rfl
      exact Or.inr ⟨_, _, _, bind_of_error (ended i c), bind_of_error (ended i' c')⟩
    | ok data =>
      have entered : ∀ i c, addInitializer codec init i c = .ok () _ :=
        fun i c => addInitializer_eq_ok.mpr ⟨data, read, rfl⟩
      rw [bind_of_ok (entered i c), bind_of_ok (entered i' c')]
      have alike : (Tensor.constant (.given i) init.name data).Resembles
          (.constant (.given i') init.name data) := rfl
      exact ih new.2 (apart.bindValue (Ne.symm new.1) alike) _ _

theorem addInput (apart : Apart name t? t'? c c') {value : Model.ValueInfo}
    (known : value.name = name → t?.isSome ∧ t'?.isSome) (i i' : Nat) :
    Apart name t? t'? (c.addInput value i) (c'.addInput value i') := by
  unfold Conversion.addInput
  by_cases same : value.name = name
  · have both := known same
    rw [← apart.first, ← apart.second, ← same] at both
    rw [Table.contains, Table.contains, if_pos both.1, if_pos both.2]
    exact apart
  · have bound : c.values.contains value.name = c'.values.contains value.name := by
      simpa [facts?, Table.contains] using congrArg Option.isSome (apart.others value.name same)
    rw [bound]
    split
    · exact apart
    · have alike : (value.tensor (.given i)).Resembles (value.tensor (.given i')) := rfl
      exact apart.bindValue same alike

theorem inputs {values : List Model.ValueInfo}
    (known : name ∈ values.map Model.ValueInfo.name → t?.isSome ∧ t'?.isSome)
    (apart : Apart name t? t'? c c') (i i' : Nat) :
    Apart name t? t'? ((values.zipIdx i).foldl (fun c value => c.addInput value.1 value.2) c)
      ((values.zipIdx i').foldl (fun c value => c.addInput value.1 value.2) c') := by
  induction values generalizing c c' i i' with
  | nil => exact apart
  | cons value rest ih =>
    rw [List.map_cons, List.mem_cons] at known
    refine ih (fun later => known (Or.inr later)) (apart.addInput (fun here => ?_) i i') _ _
    exact known (Or.inl here.symm)

theorem enter {value : Model.ValueInfo} (apart : Apart value.name (some t) none c c') (i : Nat) :
    Apart value.name (some t) (some (value.tensor (.given i))) c (c'.addInput value i) := by
  have absent : c'.values.contains value.name = false :=
    Table.contains_eq_false_iff.mpr apart.second
  unfold Conversion.addInput
  rw [absent]
  refine ⟨apart.first, Table.find?_insert_self .., fun other distinct => ?_⟩
  rw [apart.others other distinct]
  exact congrArg (Option.map Tensor.toFacts) (Table.find?_insert_of_ne distinct).symm

theorem one_more {value : Model.ValueInfo} {values : List Model.ValueInfo} {position : Nat}
    (new : value.name ∉ (values.take position).map Model.ValueInfo.name)
    (apart : Apart value.name (some t) none c c') (i i' : Nat) :
    ∃ origin, Apart value.name (some t) (some (value.tensor origin))
      ((values.zipIdx i).foldl (fun c value => c.addInput value.1 value.2) c)
      (((values.take position ++ value :: values.drop position).zipIdx i').foldl
        (fun c value => c.addInput value.1 value.2) c') := by
  have split : values.zipIdx i = (values.take position).zipIdx i ++
      (values.drop position).zipIdx (i + (values.take position).length) := by
    rw [← List.zipIdx_append, List.take_append_drop]
  have earlier := apart.inputs (fun member => absurd member new) i i'
  have entered := earlier.enter (i' + (values.take position).length)
  rw [split, List.zipIdx_append, List.zipIdx_cons, List.foldl_append, List.foldl_append,
    List.foldl_cons]
  exact ⟨_, entered.inputs (fun _ => ⟨rfl, rfl⟩) _ _⟩

end Apart

/-! Nodes -/

/-- States in which every name stands for tensors that inference cannot tell apart, or for two
    chosen ones. -/
structure Mirrors (x x' : Tensor) (c c' : Conversion) : Prop where
  values : ∀ name, Option.Rel (x.Follows x') (c.values.find? name) (c'.values.find? name)
  failures : c.failures = c'.failures

theorem Apart.mirrors {name : String} (apart : Apart name (some x) (some x') c c')
    (failures : c.failures = c'.failures) : Mirrors x x' c c' := by
  refine ⟨fun other => ?_, failures⟩
  by_cases same : other = name
  · rw [same, apart.first, apart.second]
    exact .some (Tensor.follows_self x x')
  · exact Tensor.rel_of_facts (fun _ _ => Or.inl) (apart.others other same)

namespace Mirrors

theorem contains_eq (mirrors : Mirrors x x' c c') (name : String) :
    c.values.contains name = c'.values.contains name := by
  unfold Table.contains
  rcases Tensor.rel_iff.mp (mirrors.values name) with ⟨first, second⟩ | ⟨t, t', first, second, _⟩
  · rw [first, second]
  · rw [first, second]
    rfl

theorem operand (mirrors : Mirrors x x' c c') (node : Model.Node) (i : Nat) :
    Option.Rel (x.Follows x') (c.operandsOf node)[i]?.join (c'.operandsOf node)[i]?.join := by
  unfold operandsOf
  rw [List.getElem?_map, List.getElem?_map]
  cases node.inputs[i]? with
  | none => exact .none
  | some name =>
    by_cases left_out : name = ""
    · simp only [left_out, Option.map_some, ↓reduceIte, Option.join_some]
      exact .none
    · simp only [left_out, Option.map_some, ↓reduceIte, Option.join_some]
      exact mirrors.values name

/-- A node that does not take its axes from the first of the chosen tensors has the same fate, and
    makes tensors that go on with the relation. -/
theorem attempt (mirrors : Mirrors x x' c c') (likens : x.Likens x')
    (free : (c.operandsOf node)[1]?.join ≠ some x) (source : SourceNode) :
    (∃ t t', c.attempt node source = .ok [t] ∧ c'.attempt node source = .ok [t'] ∧
      x.Follows x' t t') ∨
    ∃ fault, c.attempt node source = .error fault ∧ c'.attempt node source = .error fault := by
  unfold Conversion.attempt
  rw [← obstacle?_congr fun name _ => mirrors.contains_eq name]
  cases c.obstacle? node with
  | some cause => exact Or.inr ⟨_, rfl, rfl⟩
  | none =>
    have data := mirrors.operand node 0
    have axes : (c.operandsOf node)[1]?.join.map Tensor.toFacts =
        (c'.operandsOf node)[1]?.join.map Tensor.toFacts := by
      rcases Tensor.rel_iff.mp (mirrors.operand node 1) with
        ⟨first, second⟩ | ⟨t, t', first, second, same | ⟨rfl, _⟩⟩
      · rw [first, second]
      · rw [first, second]
        exact congrArg some same
      · exact absurd first free
    rcases lowerNode_follows rfl rfl rfl
        (Tensor.rel_mono data fun _ _ follows => follows.likens likens) axes c.graph c'.graph with
      ⟨t, t', done, done', same | ⟨first, second⟩⟩ | ⟨fault, fault', failed, failed', same⟩
    · exact Or.inl ⟨t, t', done, done', Or.inl same⟩
    · rw [first, second] at data
      cases data with
      | some follows => exact Or.inl ⟨t, t', done, done', follows⟩
    · obtain rfl := lowerNode_fault_unique failed failed' same
      exact Or.inr ⟨fault, failed, failed'⟩

theorem bindOutputs (mirrors : Mirrors x x' c c') (names : List String) {t t' : Tensor}
    (follows : x.Follows x' t t') (g g' : Graph) :
    Mirrors x x' ({ c with graph := g }.bindOutputs names [t])
      ({ c' with graph := g' }.bindOutputs names [t']) where
  values name := by
    rw [find?_bindOutputs, find?_bindOutputs]
    split
    · exact .some follows
    · exact mirrors.values name
  failures := by
    rw [failures_bindOutputs, failures_bindOutputs]
    exact mirrors.failures

/-- A turn at such a node gives it the same fate, or ends both loops with the same fault. -/
theorem turn {d d' : Conversion} {fates : List (Option NodeFailure)} (mirrors : Mirrors x x' d d')
    (likens : x.Likens x') (strict : Bool) (free : (d.operandsOf node)[1]?.join ≠ some x)
    (before : Collected opset c nodes fates d) (before' : Collected opset c' nodes fates d') :
    (∃ fates e e', Collected opset c (nodes ++ [node]) fates e ∧
      Collected opset c' (nodes ++ [node]) fates e' ∧
      nodeStep .standard strict opset node nodes.length d = .ok () e ∧
      nodeStep .standard strict opset node nodes.length d' = .ok () e' ∧ Mirrors x x' e e') ∨
    ∃ fault e e', nodeStep .standard strict opset node nodes.length d = .error fault e ∧
      nodeStep .standard strict opset node nodes.length d' = .error fault e' := by
  cases read : SourceNode.ofModel node opset (some (nodes.length : Int)) with
  | error failure => exact Or.inr ⟨_, d, d', nodeStep_of_unread read, nodeStep_of_unread read⟩
  | ok source =>
    rcases mirrors.attempt likens free source with ⟨t, t', done, done', follows⟩ |
      ⟨fault, ended, ended'⟩
    · obtain ⟨g, lowers⟩ := lowers_of_attempt done
      obtain ⟨g', lowers'⟩ := lowers_of_attempt done'
      exact Or.inl ⟨_, _, _, before.lowered read lowers, before'.lowered read lowers',
        nodeStep_of_lowers read lowers, nodeStep_of_lowers read lowers',
        mirrors.bindOutputs node.outputs follows g g'⟩
    · rcases ends_of_attempt ended with ⟨failure, added, rfl, fails⟩ | ⟨g, breaks⟩
      · rcases ends_of_attempt ended' with ⟨_, added', same, fails'⟩ | ⟨g', breaks'⟩
        · cases same
          rw [nodeStep_of_fails read fails, nodeStep_of_fails read fails']
          -- a strict loop ends here, a collecting one goes on with one more failure
          cases strict with
          | true => exact Or.inr ⟨_, _, _, rfl, rfl⟩
          | false =>
            refine Or.inl ⟨_, _, _, before.failed read fails, before'.failed read fails', rfl,
              rfl, mirrors.values, ?_⟩
            exact congrArg (· ++ [failure]) mirrors.failures
        · exact absurd trivial breaks'.2.2
      · rcases ends_of_attempt ended' with ⟨_, _, rfl, _⟩ | ⟨g', breaks'⟩
        · exact absurd trivial breaks.2.2
        · exact Or.inr ⟨fault, _, _, nodeStep_of_breaks read breaks,
            nodeStep_of_breaks read breaks'⟩

/-- The loop over nodes, of which none takes its axes from the first of the chosen tensors, gives
    them the same fates or ends with the same fault. -/
theorem loop (mirrors : Mirrors x x' c c') (likens : x.Likens x') (strict : Bool) (opset : Int)
    (free : ∀ i node fates before, nodes[i]? = some node →
      Collected opset c (nodes.take i) fates before →
      (before.operandsOf node)[1]?.join ≠ some x) :
    (∃ fates d d', Collected opset c nodes fates d ∧ Collected opset c' nodes fates d' ∧
      nodesStep strict opset nodes c = .ok () d ∧ nodesStep strict opset nodes c' = .ok () d' ∧
      Mirrors x x' d d') ∨
    ∃ fault d d', nodesStep strict opset nodes c = .error fault d ∧
      nodesStep strict opset nodes c' = .error fault d' := by
  induction nodes using List.reverseRecOn with
  | nil => exact Or.inl ⟨[], c, c', .nil, .nil, rfl, rfl, mirrors⟩
  | append_singleton nodes node ih =>
    have earlier : ∀ i other fates before, nodes[i]? = some other →
        Collected opset c (nodes.take i) fates before →
        (before.operandsOf other)[1]?.join ≠ some x := by
      intro i other fates before found collected
      have inside : i < nodes.length := (List.getElem?_eq_some_iff.mp found).1
      refine free i other fates before ?_ ?_
      · rw [List.getElem?_append_left inside, found]
      · rwa [List.take_append_of_le_length (Nat.le_of_lt inside)]
    rw [nodesStep_concat]
    -- either both loops reach the last node with the relation intact, or both ended before it
    rcases ih earlier with ⟨fates, d, d', before, before', early, early', middle⟩ |
      ⟨fault, d, d', ended, ended'⟩
    · have here : (d.operandsOf node)[1]?.join ≠ some x := by
        refine free nodes.length node fates d List.getElem?_concat_length ?_
        rwa [List.take_left]
      rw [bind_of_ok early, bind_of_ok early']
      exact middle.turn likens strict here before before'
    · exact Or.inr ⟨fault, d, d', bind_of_error ended, bind_of_error ended'⟩

end Mirrors

end Conversion

namespace Model

variable {m : Model} {sourceName : String} {index position : Nat} {init : Initializer}
  {data : Dense} {before after : List Initializer}

/-- No node takes its axes from the tensor of an initializer, under whichever name. -/
def NeverAxes (codec : Codec) (m : Model) (sourceName : String) (index : Nat) : Prop :=
  ∀ i node before warnings, m.graph.nodes[i]? = some node →
    (m.upTo i).convert codec .standard false sourceName = (.ok before, warnings) →
    (before.operandsOf node)[1]?.join.map Tensor.origin ≠ some (.given index)

theorem NeverAxes.free (never : m.NeverAxes codec sourceName index) {opset : Int}
    {start : Conversion} (enters : m.Enters codec sourceName opset start) {t : Tensor}
    (origin : t.origin = .given index) (i : Nat) (node : Node)
    (fates : List (Option NodeFailure)) (c : Conversion)
    (found : m.graph.nodes[i]? = some node)
    (collected : Collected opset start (m.graph.nodes.take i) fates c) :
    (c.operandsOf node)[1]?.join ≠ some t := by
  intro taken
  have converts := enters.convert_eq false (m.graph.nodes.take i) []
  rw [nodesStep_eq_ok_iff.mpr ⟨fates, collected⟩] at converts
  have other : (c.operandsOf node)[1]?.join.map Tensor.origin ≠ some (.given index) :=
    never i node _ _ found converts
  rw [taken, Option.map_some, origin] at other
  exact other rfl

/-- The initializers of both models come in alike, but for the one that is moved, or end both
    conversions. -/
theorem moved_initializers (split : m.graph.initializers = before ++ init :: after)
    (read : codec.array init = .ok data)
    (named : init.name ∉ (before ++ after).map Initializer.name) (sourceName : String) :
    (∃ c c', m.graph.initializers.zipIdx.forM (fun init => addInitializer codec init.1 init.2)
        (m.startOf sourceName) = .ok () c ∧
      (before ++ after).zipIdx.forM (fun init => addInitializer codec init.1 init.2)
        (m.startOf sourceName) = .ok () c' ∧
      Apart init.name (some (.constant (.given before.length) init.name data)) none c c') ∨
    ∃ fault c c', m.graph.initializers.zipIdx.forM (fun init => addInitializer codec init.1 init.2)
        (m.startOf sourceName) = .error fault c ∧
      (before ++ after).zipIdx.forM (fun init => addInitializer codec init.1 init.2)
        (m.startOf sourceName) = .error fault c' := by
  rw [List.map_append, List.mem_append, not_or] at named
  rw [split, List.zipIdx_append, List.zipIdx_append, Nat.zero_add, forM_append, forM_append]
  cases first : before.zipIdx.forM (fun init => addInitializer codec init.1 init.2)
      (m.startOf sourceName) with
  | error fault c => exact Or.inr ⟨fault, c, c, bind_of_error first, bind_of_error first⟩
  | ok _ c =>
    have absent : c.values.find? init.name = none := by
      rw [← Table.contains_eq_false_iff, Bool.eq_false_iff, Ne, bound_of_initializers first]
      exact not_or.mpr ⟨Bool.false_ne_true, named.1⟩
    -- the one initializer is entered in one conversion only, and the others follow in both
    have entered : addInitializer codec init before.length c = .ok () _ :=
      addInitializer_eq_ok.mpr ⟨data, read, rfl⟩
    have turn : ((init :: after).zipIdx before.length).forM
        (fun init => addInitializer codec init.1 init.2) c =
        (addInitializer codec init before.length >>= fun _ =>
          (after.zipIdx (before.length + 1)).forM
            fun init => addInitializer codec init.1 init.2) c := rfl
    rw [bind_of_ok first, bind_of_ok first, turn, bind_of_ok entered]
    refine Apart.initializers named.2 ⟨?_, absent, fun other distinct => ?_⟩ _ _
    · exact Table.find?_insert_self ..
    · exact congrArg (Option.map Tensor.toFacts) (Table.find?_insert_of_ne distinct)

/-- What is given comes in alike, but for the moved tensors, or ends both conversions with the
    same fault. -/
theorem moved_enters (stored : m.graph.initializers[index]? = some init)
    (read : codec.array init = .ok data)
    (once : init.name ∉ (m.graph.initializers.eraseIdx index).map Initializer.name)
    (new : init.name ∉ (m.graph.inputs.take position).map ValueInfo.name) (sourceName : String) :
    (∃ opset c c' origin, m.Enters codec sourceName opset c ∧
      (m.moved index position (init.declared data)).Enters codec sourceName opset c' ∧
      Mirrors (.constant (.given index) init.name data) ((init.declared data).tensor origin) c c') ∨
    ∃ fault warnings warnings', ∀ strict,
      m.convert codec .standard strict sourceName = (.error fault, warnings) ∧
      (m.moved index position (init.declared data)).convert codec .standard strict sourceName =
        (.error fault, warnings') := by
  have imports : (m.moved index position (init.declared data)).defaultOpset = m.defaultOpset := rfl
  cases imported : m.defaultOpset with
  | error failure =>
    refine Or.inr ⟨.model failure, [], [], fun strict => ?_⟩
    simp only [convert, imports, imported, and_self]
  | ok opset =>
    obtain ⟨inside, found⟩ := List.getElem?_eq_some_iff.mp stored
    have split : m.graph.initializers =
        m.graph.initializers.take index ++ init :: m.graph.initializers.drop (index + 1) := by
      rw [← found, ← List.drop_eq_getElem_cons inside, List.take_append_drop]
    have length : (m.graph.initializers.take index).length = index :=
      List.length_take_of_le (Nat.le_of_lt inside)
    rw [List.eraseIdx_eq_take_drop_succ] at once
    -- the name is stored in one conversion, and declared later in the other one
    rcases moved_initializers split read once sourceName with
      ⟨c, c', first, first', apart⟩ | ⟨fault, c, c', ended, ended'⟩
    · rw [length] at apart
      rw [← List.eraseIdx_eq_take_drop_succ] at first'
      have second := forM_modify fun value : ValueInfo × Nat => addInput value.1 value.2
      have enters : m.Enters codec sourceName opset _ := ⟨imported, c, first, second _ c⟩
      have enters' :
          (m.moved index position (init.declared data)).Enters codec sourceName opset _ :=
        ⟨imported, c', first', second _ c'⟩
      have undeclared : Apart (init.declared data).name _ none c c' := apart
      obtain ⟨origin, declared⟩ := undeclared.one_more new m.graph.initializers.length
        (m.graph.initializers.eraseIdx index).length
      have failures := enters.failures_eq.trans enters'.failures_eq.symm
      exact Or.inl ⟨opset, _, _, origin, enters, enters', declared.mirrors failures⟩
    · rw [← List.eraseIdx_eq_take_drop_succ] at ended'
      refine Or.inr ⟨fault, c.warnings, c'.warnings, fun strict => ⟨?_, ?_⟩⟩
      · exact convert_of_ended imported (bind_of_error ended)
      · exact convert_of_ended (imports.trans imported) (bind_of_error ended')

end Model

/-- Whether a value is stored in the file or fed makes no difference to what is lowered. Moved from
    the initializers to the inputs, with its element type and dims, a value whose elements can be
    read, and are no texts and no short floats, and from which no node takes its axes, leaves all
    fates of nodes and the element types and shapes of all names; and what ends one conversion ends
    the other. Its dims are those of the file, unless one was left open there. -/
theorem initializers_pass_for_inputs (codec : Codec) (reads : codec.Reads) (m : Model)
    (sourceName : String) (strict : Bool) (index position : Nat) (init : Model.Initializer)
    (data : Dense) (stored : m.graph.initializers[index]? = some init)
    (read : codec.array init = .ok data)
    (typed : init.elemCode ∉ [DType.string.code, DType.bfloat16.code])
    (once : init.name ∉ (m.graph.initializers.eraseIdx index).map Model.Initializer.name)
    (new : init.name ∉ (m.graph.inputs.take position).map Model.ValueInfo.name)
    (never : m.NeverAxes codec sourceName index) :
    ((∀ n ∈ init.dims, 0 ≤ n) → data.shape = .static init.dims) ∧
    ((∃ converted converted' warnings warnings',
      m.convert codec .standard strict sourceName = (.ok converted, warnings) ∧
      (m.moved index position (init.declared data)).convert codec .standard strict sourceName =
        (.ok converted', warnings') ∧
      (∃ opset fates, m.HasFates codec sourceName opset fates converted ∧
        (m.moved index position (init.declared data)).HasFates codec sourceName opset fates
          converted') ∧
      converted.valueNames.contains init.name = true ∧
      ∀ name, Option.Rel Tensor.Likens (converted.valueNames.find? name)
        (converted'.valueNames.find? name)) ∨
    ∃ fault warnings warnings',
      m.convert codec .standard strict sourceName = (.error fault, warnings) ∧
      (m.moved index position (init.declared data)).convert codec .standard strict sourceName =
        (.error fault, warnings')) := by
  refine ⟨Model.Initializer.shape_declared reads read, ?_⟩
  rcases Model.moved_enters stored read once new sourceName with
    ⟨opset, c, c', origin, enters, enters', mirrors⟩ | ⟨fault, warnings, warnings', ended⟩
  · have likens :=
      Model.Initializer.declared_likens (reads.code_eq read) typed (.given index) origin
    have converts := enters.convert_eq strict m.graph.nodes m.graph.outputs
    have converts' := enters'.convert_eq strict m.graph.nodes m.graph.outputs
    rcases mirrors.loop likens strict opset (never.free enters rfl) with
      ⟨fates, d, d', collected, collected', done, done', reached⟩ | ⟨fault, d, d', ended, ended'⟩
    · rw [done] at converts
      rw [done'] at converts'
      refine Or.inl ⟨_, _, _, _, converts, converts', ⟨opset, fates, enters.hasFates collected,
        enters'.hasFates collected'⟩, ?_, fun name => ?_⟩
      · dsimp only [Model.handOut]
        rw [(kept_of_outputs _ _).1]
        refine collected.bound_iff.mpr (Or.inl ((enters.bound_iff _).mpr ?_))
        exact List.mem_append_left _ (List.mem_map_of_mem (List.mem_of_getElem? stored))
      · dsimp only [Model.handOut]
        rw [(kept_of_outputs _ _).1, (kept_of_outputs _ _).1]
        exact Tensor.rel_mono (reached.values name) fun _ _ follows => follows.likens likens
    · rw [ended] at converts
      rw [ended'] at converts'
      exact Or.inr ⟨fault, _, _, converts, converts'⟩
  · exact Or.inr ⟨fault, warnings, warnings', (ended strict).1, (ended strict).2⟩

/-- A stored value is reduced over stored axes, by one node in range and by one that is not. -/
def storedMatrix : Model :=
  { opsetImports := [("", 13)]
    graph :=
      { name := "m"
        inputs := [⟨"x", .tensor 1 (.ranked [.named "n"])⟩]
        initializers :=
          [{ name := "a", elemCode := 7, dims := [1], elements := [.int 1] },
           { name := "w", elemCode := 6, dims := [1, 2], elements := [.int 3, .int 4] }]
        nodes :=
          [{ opType := "ReduceSum", inputs := ["w", "a"], outputs := ["y"] },
           { opType := "ReduceSum", inputs := ["x", "a"], outputs := ["z"] }] } }

theorem storedMatrix_neverAxes : storedMatrix.NeverAxes .current "m" 1 := by
  intro i node before warnings found done
  have each : storedMatrix.graph.nodes.zipIdx.all (fun entry =>
      ((storedMatrix.upTo entry.2).convert .current .standard false "m").1.toOption.all
        fun before =>
          (before.operandsOf entry.1)[1]?.join.map Tensor.origin != some (.given 1)) = true := by
    decide +kernel
  have member : (node, i) ∈ storedMatrix.graph.nodes.zipIdx :=
    List.mem_zipIdx_iff_getElem?.mpr found
  have here := List.all_eq_true.mp each _ member
  simpa [done, Except.toOption] using here

/-- The value may be fed before the other input: the same node fails, and the sum is as it was. -/
theorem storedMatrix_may_be_fed :
    storedMatrix.NeverAxes .current "m" 1 ∧ ∃ converted converted' warnings warnings',
      storedMatrix.convert .current .standard false "m" = (.ok converted, warnings) ∧
      (storedMatrix.moved 1 0 ⟨"w", .tensor 6 (.static [1, 2])⟩).convert .current .standard
        false "m" = (.ok converted', warnings') ∧
      converted.failures.map NodeFailure.kind = [.axisOutOfRange] ∧
      converted'.failures = converted.failures ∧
      ∀ name, Option.Rel Tensor.Likens (converted.valueNames.find? name)
        (converted'.valueNames.find? name) := by
  have kinds : (storedMatrix.convert .current .standard false "m").1.toOption.map
      (fun converted => converted.failures.map NodeFailure.kind) = some [.axisOutOfRange] := by
    decide +kernel
  refine ⟨storedMatrix_neverAxes, ?_⟩
  obtain ⟨_, either⟩ := initializers_pass_for_inputs .current Codec.current_reads
    storedMatrix "m" false 1 0
    { name := "w", elemCode := 6, dims := [1, 2], elements := [.int 3, .int 4] }
    ⟨.int32, [1, 2], [.int 3, .int 4]⟩ rfl rfl (by decide) (by decide) (by decide)
    storedMatrix_neverAxes
  rcases either with
    ⟨converted, converted', warnings, warnings', done, done', ⟨opset, fates, fated, fated'⟩, _,
      same⟩ | ⟨fault, warnings, _, failed, _⟩
  · rw [done] at kinds
    refine ⟨converted, converted', warnings, warnings', done, done', Option.some.inj kinds, ?_,
      same⟩
    rw [fated.failures_eq, fated'.failures_eq]
  · rw [failed] at kinds
    contradiction

namespace Model

/-- A model that stores one value, and is fed a vector. -/
def storing (elemCode : Int) (dims : List Int) (elements : List Value) (nodes : List Node) :
    Model :=
  { opsetImports := [("", 13)]
    graph :=
      { name := "m"
        inputs := [⟨"x", .tensor 1 (.ranked [.named "n"])⟩]
        initializers := [{ name := "w", elemCode, dims, elements }]
        nodes } }

/-- The element type that a strict conversion gives the value, if there is a result. -/
def typeOfStored? (m : Model) : Option (Option DType) :=
  (m.convert .current .standard true "m").1.toOption.map fun converted =>
    (converted.valueNames.find? "w").map fun t => t.dtype

/-- One node passes the value on, and another one takes its axes from what is passed on. -/
def passingOn : List Node :=
  [{ opType := "ReduceSum", inputs := ["w"], outputs := ["y"]
     attributes := [{ name := "noop_with_empty_axes", data := .int 1 }] },
   { opType := "ReduceSum", inputs := ["x", "y"], outputs := ["z"] }]

/-- A sum of the value. -/
def summing : List Node := [{ opType := "ReduceSum", inputs := ["w"], outputs := ["y"] }]

/-- Nodes may read a value as data only, and it makes a difference all the same whether it is stored
    or fed: when what stands for it under another name is read as axes, when its elements are short
    floats or texts, and when it has no element type and cannot be read. -/
theorem stored_values_make_a_difference :
    (∀ node ∈ passingOn ++ summing, "w" ∉ node.inputs.drop 1) ∧
    (storing 7 [1] [.int 5] passingOn).typeOfStored? = none ∧
    ((storing 7 [1] [.int 5] passingOn).moved 0 0 ⟨"w", .tensor 7 (.static [1])⟩).typeOfStored? =
      some (some .int64) ∧
    (storing 16 [0] [] summing).typeOfStored? = none ∧
    ((storing 16 [0] [] summing).moved 0 0 ⟨"w", .tensor 16 (.static [0])⟩).typeOfStored? =
      some (some .bfloat16) ∧
    (storing 8 [0] [] []).typeOfStored? = some (some .unknown) ∧
    ((storing 8 [0] [] []).moved 0 0 ⟨"w", .tensor 8 (.static [0])⟩).typeOfStored? =
      some (some .string) ∧
    (storing 0 [0] [] []).typeOfStored? = none ∧
    ((storing 0 [0] [] []).moved 0 0 ⟨"w", .tensor 0 (.static [0])⟩).typeOfStored? =
      some (some .unknown) := by
  decide +kernel

end Model

end ReductionIR
