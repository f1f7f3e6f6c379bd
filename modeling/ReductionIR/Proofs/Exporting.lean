import ReductionIR.Proofs.Encoding
import ReductionIR.Proofs.Sorting
/-
Writing a converted graph succeeds, and the written model computes the solution of the graph:
its nodes come in an order in which every operator is behind its producers.
-/
namespace ReductionIR

open Stepwise

variable {codec : Codec}

/-! The checks of a writer -/

namespace Graph

variable {g : Graph}

theorem Wired.mem_producers (wired : g.Wired) {op : Op} {id p : String} {t : Tensor}
    (input : id ∈ op.inputs) (found : g.tensors.find? id = some t)
    (made : (g.placement t).producer? = some p) : p ∈ Export.producers g op := by
  obtain ⟨maker, known, _⟩ := wired.producer_known found made
  exact Export.mem_producers_iff.mpr ⟨id, input, t, found, made, Table.contains_of_find? known⟩

theorem Wired.validates (wired : g.Wired) : g.validate = .ok () := by
  refine validate_of_known ?_ ?_ ?_
  · intro op member id listed
    obtain ⟨key, found⟩ := Table.exists_key_of_mem_values member
    obtain ⟨n, placed⟩ := wired.placed key op found
    rcases List.mem_append.mp listed with input | output
    · obtain ⟨t, there, _⟩ := placed.earlier id input
      exact Table.contains_of_find? there
    · obtain ⟨t, there, outputs, _⟩ := placed.result
      rw [outputs, List.mem_singleton, wired.keyed _ t there] at output
      exact output ▸ Table.contains_of_find? there
  · intro id t p found made
    obtain ⟨op, known, _⟩ := wired.producer_known found made
    exact Table.contains_of_find? known
  · intro id t reader found consumer
    obtain ⟨op, known⟩ := wired.readers id t found reader consumer
    exact Table.contains_of_find? known

theorem Wired.no_unfed (wired : g.Wired) : g.tensors.values.find? (Export.isUnfed g) = none := by
  rw [List.find?_eq_none]
  intro t member
  obtain ⟨id, found⟩ := Table.exists_key_of_mem_values member
  unfold Export.isUnfed
  rcases wired.roles id t found with ⟨input, _, _⟩ | ⟨held, _, _, _⟩ | ⟨_, _, _, _, made⟩
  · simp [input]
  · simp [held]
  · simp [made]

/-- Producers have smaller numbers, so operators can be sorted. -/
theorem Wired.sorted (wired : g.Wired) :
    ∃ order, Export.sorted g = .ok (order.filterMap g.ops.find?) ∧ Export.Ordered g order := by
  classical
  let rank : String → Nat := fun id =>
    if made : ∃ n stem, id = numbered stem n then made.choose else 0
  have rank_numbered : ∀ stem n, rank (numbered stem n) = n := by
    intro stem n
    have made : ∃ m other, numbered stem n = numbered other m := ⟨n, stem, rfl⟩
    obtain ⟨other, same⟩ := made.choose_spec
    have chosen : rank (numbered stem n) = made.choose := dif_pos made
    rw [chosen]
    exact (number_eq_of_numbered_eq same).symm
  refine @Export.sorted_eq_ok g rank fun id op found p producer => ?_
  obtain ⟨input, member, kept⟩ := List.mem_filterMap.mp producer
  obtain ⟨made, _⟩ := Option.filter_eq_some_iff.mp kept
  obtain ⟨n, placed⟩ := wired.placed id op found
  obtain ⟨t, there, before⟩ := placed.earlier input member
  rw [there, Option.bind_some] at made
  obtain ⟨stem, m, rfl, smaller⟩ := before p made
  rw [← wired.opKeyed id op found, placed.id_eq, rank_numbered, rank_numbered]
  exact smaller

end Graph

namespace Export

variable {g : Graph}

theorem mem_constantData_iff (wired : g.Wired) {id : String} {data : Dense} :
    (id, data) ∈ constantData g ↔ ∃ t, g.tensors.find? id = some t ∧ t.data = some data := by
  constructor
  · intro member
    obtain ⟨t, listed, kept⟩ := List.mem_filterMap.mp member
    obtain ⟨key, found⟩ := Table.exists_key_of_mem_values listed
    split at kept
    · obtain ⟨data, held, same⟩ := Option.map_eq_some_iff.mp kept
      cases same
      exact ⟨t, (wired.keyed key t found).symm ▸ found, held⟩
    · contradiction
  · rintro ⟨t, found, held⟩
    refine List.mem_filterMap.mpr ⟨t, Table.mem_values_of_find? found, ?_⟩
    rcases wired.roles _ t found with ⟨_, unstored, _⟩ | ⟨_, inner, marked, _⟩ |
      ⟨_, _, unstored, _, _⟩
    · rw [held] at unstored
      contradiction
    · rw [wired.keyed _ t found] at inner
      simp [inner, marked, held, wired.keyed _ t found]
    · rw [held] at unstored
      contradiction

/-- The constants as they are written. -/
def constantsOf (codec : Codec) (g : Graph) : List Model.Initializer :=
  (constantData g).map fun entry => codec.written entry.1 entry.2

section Constants

variable (wired : g.Wired) (writable : g.Writable codec)

include wired writable

theorem restores_of_constant {entry : String × Dense} (member : entry ∈ constantData g) :
    codec.Restores entry.2 := by
  obtain ⟨t, found, held⟩ := (mem_constantData_iff wired).mp member
  exact writable.stored entry.1 t entry.2 found held

theorem constants_eq_ok : constants codec g = .ok (constantsOf codec g) :=
  except_mapM_eq_ok fun entry member =>
    initializer_eq_ok (restores_of_constant wired writable member) entry.1

theorem names_constantsOf :
    (constantsOf codec g).map Model.Initializer.name = (constantData g).map Prod.fst := by
  rw [constantsOf, List.map_map]
  exact List.map_congr_left fun entry member =>
    (restores_of_constant wired writable member).name_written entry.1

theorem mem_constantsOf_iff {init : Model.Initializer} :
    init ∈ constantsOf codec g ↔ ∃ t data, g.tensors.find? init.name = some t ∧
      t.data = some data ∧ init = codec.written init.name data := by
  unfold constantsOf
  rw [List.mem_map]
  constructor
  · rintro ⟨⟨id, data⟩, member, rfl⟩
    have named := (restores_of_constant wired writable member).name_written id
    obtain ⟨t, found, held⟩ := (mem_constantData_iff wired).mp member
    exact ⟨t, data, named.symm ▸ found, held, by rw [named]⟩
  · rintro ⟨t, data, found, held, same⟩
    exact ⟨(init.name, data), (mem_constantData_iff wired).mpr ⟨t, found, held⟩, same.symm⟩

end Constants

/-- What an operator that can be written is written as. -/
def pieceOf (codec : Codec) (op : Op) : Pieces := (pieces codec op).toOption.getD {}

theorem pieceOf_encodes (laws : codec.Lawful) {op : Op} (writable : op.Writable) :
    pieces codec op = .ok (pieceOf codec op) ∧ Encodes codec op (pieceOf codec op) := by
  obtain ⟨p, written, encodes⟩ := pieces_encodes laws writable
  have same : pieceOf codec op = p := by
    rw [pieceOf, written]
    rfl
  exact ⟨same ▸ written, same ▸ encodes⟩

theorem foldl_append (ps : List Pieces) (start : Pieces) :
    ps.foldl Pieces.append start = ⟨start.initializers ++ ps.flatMap Pieces.initializers,
      start.nodes ++ ps.flatMap Pieces.nodes⟩ := by
  induction ps generalizing start with
  | nil => simp
  | cons p rest ih => simp [ih, Pieces.append]

/-- The operators of an order. -/
def opsIn (g : Graph) (order : List String) : List Op := order.filterMap g.ops.find?

theorem opsIn_concat {g : Graph} {op : Op} (found : g.ops.find? op.id = some op)
    (order : List String) : opsIn g (order ++ [op.id]) = opsIn g order ++ [op] := by
  simp [opsIn, List.filterMap_append, found]

/-- A graph input or output as it is written. -/
def infoOf (t : Tensor) : Model.ValueInfo := ⟨t.id, .tensor t.dtype.code t.shape⟩

/-- A model that a graph was written as. -/
structure WrittenAs (codec : Codec) (g : Graph) (order : List String) (m : Model.Graph) :
    Prop where
  inputs : m.inputs = (g.tensorsOf g.inputs).map infoOf
  outputs : m.outputs = (g.tensorsOf g.outputs).map infoOf
  initializers : m.initializers =
    constantsOf codec g ++ (opsIn g order).flatMap fun op => (pieceOf codec op).initializers
  nodes : m.nodes = (opsIn g order).flatMap fun op => (pieceOf codec op).nodes

/-- The first tensor that has no rank although it must have one. -/
def unranked? (allowUnknownRank : Bool) (ts : List Tensor) : Option Tensor :=
  if allowUnknownRank then none else ts.find? fun t => t.shape = .unknownRank

/-- Tensors of storable shapes become values, unless one must have a rank and has none. -/
theorem valueInfos_eq (allow : Bool) {ts : List Tensor} (storable : ∀ t ∈ ts, t.shape.Storable) :
    ts.mapM (valueInfo allow) = (unranked? allow ts).elim (.ok (ts.map infoOf))
      fun t => .error (.model (.unknownRank t.id)) := by
  induction ts with
  | nil => cases allow <;> rfl
  | cons t rest ih =>
    have others := ih fun u later => storable u (List.mem_cons_of_mem _ later)
    have fits := storable t (List.mem_cons_self ..)
    rw [List.mapM_cons, others]
    unfold valueInfo
    cases shape : t.shape with
    | unknownRank =>
      cases allow with
      | true => simp [unranked?, infoOf, shape, bind, Except.bind, pure, Except.pure]
      | false => simp [unranked?, shape, bind, Except.bind]
    | ranked dims =>
      have same : unranked? allow (t :: rest) = unranked? allow rest := by
        simp [unranked?, shape]
      rw [same]
      dsimp only
      rw [if_pos (List.all_eq_true.mpr (fits dims shape))]
      cases unranked? allow rest with
      | none => simp [infoOf, shape, bind, Except.bind, pure, Except.pure]
      | some u => rfl

theorem ids_tensorsOf (wired : g.Wired) {ids : List String}
    (known : ∀ id ∈ ids, ∃ t, g.tensors.find? id = some t) :
    (g.tensorsOf ids).map Tensor.id = ids := by
  unfold Graph.tensorsOf
  induction ids with
  | nil => rfl
  | cons id rest ih =>
    obtain ⟨t, found⟩ := known id (List.mem_cons_self ..)
    rw [List.filterMap_cons_some found, List.map_cons, wired.keyed id t found,
      ih fun other later => known other (List.mem_cons_of_mem _ later)]

theorem storable_tensorsOf {ids : List String}
    (known : ∀ id ∈ ids, ∃ t, g.tensors.find? id = some t ∧ t.shape.Storable) :
    ∀ t ∈ g.tensorsOf ids, t.shape.Storable := by
  intro t member
  obtain ⟨id, listed, found⟩ := List.mem_filterMap.mp member
  obtain ⟨u, there, storable⟩ := known id listed
  obtain rfl : t = u := Option.some.inj (found.symm.trans there)
  exact storable

theorem WrittenAs.inputNames {order : List String} {m : Model.Graph}
    (written : WrittenAs codec g order m) (wired : g.Wired) :
    m.inputs.map Model.ValueInfo.name = g.inputs := by
  rw [written.inputs, List.map_map]
  exact ids_tensorsOf wired wired.inputs_known

theorem unranked?_append (allow : Bool) (ids more : List String) :
    unranked? allow (g.tensorsOf (ids ++ more)) =
      (unranked? allow (g.tensorsOf ids)).or (unranked? allow (g.tensorsOf more)) := by
  cases allow <;> simp [unranked?, Graph.tensorsOf, List.filterMap_append, List.find?_append]

/-- A graph that is wired and writable is written, at every opset that can be written, unless an
    input or output must have a rank and has none. -/
theorem toModel_eq (laws : codec.Lawful) (wired : g.Wired) (writable : g.Writable codec)
    {opset : Int} (least : 18 ≤ opset) (greatest : opset ≤ 28) :
    ∃ model order, Ordered g order ∧ WrittenAs codec g order model.graph ∧
      ∀ allow, g.toModel codec opset allow =
        (unranked? allow (g.tensorsOf (g.inputs ++ g.outputs))).elim (.ok model)
          fun t => .error (.model (.unknownRank t.id)) := by
  obtain ⟨order, sorted, ordered⟩ := wired.sorted
  have written : (order.filterMap g.ops.find?).mapM (pieces codec) =
      .ok ((order.filterMap g.ops.find?).map (pieceOf codec)) := by
    refine except_mapM_eq_ok fun op member => ?_
    obtain ⟨id, _, found⟩ := List.mem_filterMap.mp member
    exact (pieceOf_encodes laws (writable.ops id op found)).1
  obtain ⟨version, known⟩ := laws.exists_version least greatest
  have late : ¬ opset < Breakdown.leastExportOpset := by
    have fixed : Breakdown.leastExportOpset = 18 := rfl
    omega
  let body : Pieces :=
    ((order.filterMap g.ops.find?).map (pieceOf codec)).foldl Pieces.append
      { initializers := constantsOf codec g }
  refine ⟨{ irVersion := version, producerName, opsetImports := [("", opset)],
            graph := { name := g.name, inputs := (g.tensorsOf g.inputs).map infoOf,
                       outputs := (g.tensorsOf g.outputs).map infoOf,
                       initializers := body.initializers, nodes := body.nodes } },
    order, ordered, ⟨rfl, rfl, ?_, ?_⟩, fun allow => ?_⟩
  · dsimp only [body]
    rw [foldl_append]
    simp [List.flatMap_map, opsIn]
  · dsimp only [body]
    rw [foldl_append]
    simp [List.flatMap_map, opsIn]
  · unfold Graph.toModel
    rw [if_neg late, wired.validates, valueInfos_eq allow (storable_tensorsOf writable.inputs),
      constants_eq_ok wired writable, wired.no_unfed, sorted,
      valueInfos_eq allow (storable_tensorsOf writable.outputs), known, unranked?_append]
    simp only [Fault.lift, Except.mapError, bind, Except.bind, pure, Except.pure, written]
    cases unranked? allow (g.tensorsOf g.inputs) with
    | some t => rfl
    | none =>
      cases unranked? allow (g.tensorsOf g.outputs) with
      | some t => rfl
      | none => rfl

end Export

/-! Runs of a written graph -/

/-- No tensor has the id of the axes of a written Squeeze. -/
def Graph.AxesApart (g : Graph) : Prop :=
  ∀ id t n, g.tensors.find? id = some t → id ≠ Graph.numbered "Squeeze" n ++ "_axes"

theorem Conversion.Named.axesApart {names : List String} {c : Conversion} (named : Named names c)
    (free : ∀ name ∈ names, ∀ n, name ≠ Graph.numbered "Squeeze" n ++ "_axes") :
    c.graph.AxesApart := by
  intro id t n found
  have member := (Table.contains_iff_mem_keys _ _).mp (Table.contains_of_find? found)
  rcases named.tensors id member with given | ⟨stem, k, _, rfl | rfl⟩
  · exact free id given n
  · exact Graph.numbered_ne_axes _ _ _
  · exact Graph.resultId_ne_axes _ _

namespace Export

variable {α : Type} {I : Interpretation α} {fed env env' : Env α} {g : Graph}
  {order : List String} {m : Model.Graph}

/-- When some operators are done, tensors that wait for no others have their values. -/
structure Agrees (codec : Codec) (I : Interpretation α) (g : Graph) (env : Env α)
    (done : List String) (env' : Env α) : Prop where
  tensors : ∀ id t, g.tensors.find? id = some t →
    (∀ p, (g.placement t).producer? = some p → p ∈ done) → env' id = env id
  axes : ∀ id op, g.ops.find? id = some op → ∀ init ∈ (pieceOf codec op).initializers,
    env' init.name = some (I.stored firstAxis)

theorem given_of_named {id : String} {data : Dense}
    (named : ∃ init ∈ m.initializers, init.name = id)
    (same : ∀ init ∈ m.initializers, init.name = id → codec.array init = .ok data) :
    m.given codec I fed id = some (I.stored data) := by
  unfold Model.Graph.given
  cases found : m.initializers.find? (·.name == id) with
  | none =>
    obtain ⟨init, member, rfl⟩ := named
    have other := List.find?_eq_none.mp found init member
    simp at other
  | some init =>
    have equal : init.name = id := by simpa using List.find?_some found
    exact Model.Initializer.value?_of_array I (same init (List.mem_of_find?_eq_some found) equal)

section Run

variable (laws : codec.Lawful) (wired : g.Wired) (writable : g.Writable codec)
  (apart : g.AxesApart)

include laws wired writable apart

theorem axes_apart {id : String} {op : Op} (found : g.ops.find? id = some op)
    {init : Model.Initializer} (member : init ∈ (pieceOf codec op).initializers) :
    g.tensors.find? init.name = none := by
  obtain ⟨n, placed⟩ := wired.placed id op found
  obtain ⟨named, squeeze⟩ :=
    (pieceOf_encodes laws (writable.ops id op found)).2.named init member
  rw [placed.id_eq, squeeze] at named
  cases there : g.tensors.find? init.name with
  | none => rfl
  | some t => exact absurd named (apart _ t n there)

theorem array_of_written (written : WrittenAs codec g order m) {init : Model.Initializer}
    (member : init ∈ m.initializers) :
    (∃ t data, g.tensors.find? init.name = some t ∧ t.data = some data ∧
      codec.array init = .ok data) ∨
    (g.tensors.find? init.name = none ∧ codec.array init = .ok firstAxis) := by
  rw [written.initializers] at member
  rcases List.mem_append.mp member with constant | axes
  · obtain ⟨t, data, found, held, same⟩ := (mem_constantsOf_iff wired writable).mp constant
    refine Or.inl ⟨t, data, found, held, ?_⟩
    rw [same]
    exact (writable.stored init.name t data found held).array_written _
  · obtain ⟨op, listed, inPiece⟩ := List.mem_flatMap.mp axes
    obtain ⟨id, _, found⟩ := List.mem_filterMap.mp listed
    refine Or.inr ⟨axes_apart laws wired writable apart found inPiece, ?_⟩
    exact (pieceOf_encodes laws (writable.ops id op found)).2.fixed init inPiece

theorem stored_of_written (written : WrittenAs codec g order m) {init : Model.Initializer}
    (member : init ∈ m.initializers) {t : Tensor} (found : g.tensors.find? init.name = some t) :
    ∃ data, t.data = some data ∧ codec.array init = .ok data := by
  rcases array_of_written laws wired writable apart written member with
    ⟨u, data, there, held, read⟩ | ⟨free, _⟩
  · obtain rfl : t = u := Option.some.inj (found.symm.trans there)
    exact ⟨data, held, read⟩
  · rw [free] at found
    contradiction

/-- A written model starts from the constants and the fed inputs of its graph. -/
theorem given_agrees (solves : g.Solves I fed env) (ordered : Ordered g order)
    (written : WrittenAs codec g order m) : Agrees codec I g env [] (m.given codec I fed) where
  tensors := by
    intro id t found early
    -- a fed tensor has no initializer, a stored one has its own; no operator is done yet
    rcases wired.roles id t found with ⟨input, unstored, _⟩ | @⟨data, held, _, _, _⟩ |
      ⟨_, _, _, _, made⟩
    · rw [wired.keyed id t found] at input
      have absent : m.initializers.find? (·.name == id) = none := by
        rw [List.find?_eq_none]
        intro init member same
        obtain rfl := eq_of_beq same
        obtain ⟨data, held, _⟩ :=
          stored_of_written laws wired writable apart written member found
        rw [held] at unstored
        contradiction
      unfold Model.Graph.given
      rw [absent, written.inputNames wired]
      dsimp only
      rw [if_pos input, solves.inputs id input]
    · have value : g.constant? I id = some (I.stored data) := by
        simp [Graph.constant?, found, held]
      have named := (writable.stored id t data found held).name_written id
      rw [solves.constants id _ value]
      refine given_of_named ⟨codec.written id data, ?_, named⟩ ?_
      · rw [written.initializers]
        refine List.mem_append_left _ ((mem_constantsOf_iff wired writable).mpr ?_)
        exact ⟨t, data, named.symm ▸ found, held, by rw [named]⟩
      · rintro init member rfl
        obtain ⟨other, stored, read⟩ :=
          stored_of_written laws wired writable apart written member found
        rw [held, Option.some.injEq] at stored
        rw [read, stored]
    · exact absurd (early _ made) List.not_mem_nil
  axes := by
    intro id op found init member
    have free := axes_apart laws wired writable apart found member
    refine given_of_named ⟨init, ?_, rfl⟩ ?_
    · rw [written.initializers]
      refine List.mem_append_right _ (List.mem_flatMap.mpr ⟨op, ?_, member⟩)
      exact List.mem_filterMap.mpr ⟨id, (ordered.mem_iff id).mpr ⟨op, found⟩, found⟩
    · intro other also same
      rcases array_of_written laws wired writable apart written also with
        ⟨u, _, there, _, _⟩ | ⟨_, fixed⟩
      · rw [same, free] at there
        contradiction
      · exact fixed

/-- An operator whose producers are done gives its output the value of the solution. -/
theorem Agrees.step (solves : g.Solves I fed env) {done : List String}
    (agrees : Agrees codec I g env done env') {id : String} {op : Op}
    (found : g.ops.find? id = some op) (behind : ∀ p ∈ producers g op, p ∈ done) :
    ∃ env'', (pieceOf codec op).nodes.foldlM (fun env node => node.execute? I env) env' =
        some env'' ∧ Agrees codec I g env (done ++ [id]) env'' := by
  obtain ⟨node, nodes, transcribes, value⟩ :=
    (pieceOf_encodes laws (writable.ops id op found)).2.node
  have outputs := transcribes.outputs_eq
  obtain ⟨out, x, written, there, computed⟩ := solves.ops id op found
  obtain ⟨n, placed⟩ := wired.placed id op found
  have inputs : ∀ input ∈ op.inputs, env' input = env input := by
    intro input member
    obtain ⟨t, known, _⟩ := placed.earlier input member
    refine agrees.tensors input t known fun p made => behind p ?_
    exact wired.mem_producers member known made
  -- the node sees the values its operator sees, so it computes the same
  have computes : node.written? I env' = some x :=
    (value α I env env' inputs (agrees.axes id op found)).trans computed
  refine ⟨Function.update env' out (some x), ?_, ?_⟩
  · simp [nodes, Model.Node.execute?, outputs, written, computes]
  · exact {
      tensors := by
        intro other t known early
        by_cases same : other = out
        · rw [same, Function.update_self, there]
        · rw [Function.update_of_ne same]
          refine agrees.tensors other t known fun p made => ?_
          rcases List.mem_append.mp (early p made) with before | now
          · exact before
          · -- the operator writes nothing else
            rw [List.mem_singleton.mp now, ← wired.opKeyed id op found] at made
            have result := wired.eq_result ((wired.opKeyed id op found).symm ▸ found) known made
            rw [wired.outputs_eq found, List.singleton_inj] at written
            exact absurd (result.trans written) same
      axes := by
        intro other op' also init member
        have free := axes_apart laws wired writable apart also member
        obtain ⟨t, result, outputs', _⟩ := placed.result
        have different : init.name ≠ out := by
          rintro rfl
          rw [written, List.singleton_inj] at outputs'
          rw [outputs', wired.keyed _ t result, result] at free
          contradiction
        rw [Function.update_of_ne different]
        exact agrees.axes other op' also init member }

/-- The operators that are left run in their order. -/
theorem Agrees.run (solves : g.Solves I fed env) (ordered : Ordered g order)
    {after before : List String} (split : order = before ++ after)
    (agrees : Agrees codec I g env before env') :
    ∃ env'', ((opsIn g after).flatMap fun op => (pieceOf codec op).nodes).foldlM
        (fun env node => node.execute? I env) env' = some env'' ∧
      Agrees codec I g env order env'' := by
  induction after generalizing before env' with
  | nil =>
    rw [List.append_nil] at split
    exact ⟨env', rfl, split ▸ agrees⟩
  | cons id rest ih =>
    obtain ⟨op, found⟩ := (ordered.mem_iff id).mp (by simp [split])
    obtain ⟨middle, first, agrees⟩ := agrees.step laws wired writable apart solves found
      (ordered.behind before id rest split op found)
    obtain ⟨last, others, agrees⟩ := ih (by simp [split]) agrees
    refine ⟨last, ?_, agrees⟩
    rw [opsIn, List.filterMap_cons_some found, List.flatMap_cons, List.foldlM_append, first]
    exact others

theorem execute_eq_some (solves : g.Solves I fed env) (ordered : Ordered g order)
    (written : WrittenAs codec g order m) :
    ∃ env', m.execute? codec I fed = some env' ∧
      ∀ id t, g.tensors.find? id = some t → env' id = env id := by
  obtain ⟨env', run, agrees⟩ :=
    (given_agrees laws wired writable apart solves ordered written).run laws wired writable apart
      solves ordered (List.nil_append order).symm
  refine ⟨env', ?_, ?_⟩
  · rw [Model.Graph.execute?, written.nodes]
    exact run
  · intro id t found
    refine agrees.tensors id t found fun p made => ?_
    obtain ⟨producer, there, _⟩ := wired.producer_known found made
    exact (ordered.mem_iff p).mpr ⟨producer, there⟩

end Run

end Export

end ReductionIR
