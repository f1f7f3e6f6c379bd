import ReductionIR.Proofs.Closing
/-
The names in a written model. What the graph gives or makes keeps its id; the axes of a squeeze get
a name that is put together from its id, and nothing looks whether that name is taken.
-/
namespace ReductionIR

open Stepwise

variable {codec : Codec}

theorem flatMap_singletons {β γ : Type} {p : β → Prop} [DecidablePred p] {f : β → γ} (bs : List β) :
    (bs.flatMap fun b => if p b then [f b] else []) = (bs.filter fun b => p b).map f := by
  induction bs with
  | nil => rfl
  | cons b rest ih =>
    rw [List.flatMap_cons, List.filter_cons, ih]
    by_cases chosen : p b
    · simp [chosen]
    · simp [chosen]

/-- The names of what a model gives and makes. -/
def Model.Graph.names (m : Model.Graph) : List String :=
  m.givenNames ++ m.nodes.flatMap Model.Node.outputs

/-- The ids of what a graph gives and makes. -/
def Graph.sourceIds (g : Graph) : List String :=
  (g.tensorsOf g.inputs).map Tensor.id ++ (Export.constantData g).map Prod.fst ++
    g.ops.values.flatMap Op.outputs

def Graph.squeezes (g : Graph) : List Op := g.ops.values.filter fun op => op.opType = "Squeeze"

namespace Export

variable {g : Graph} {op : Op} {p : Pieces}

/-- The name that the axes of a squeeze get. -/
def axesName (op : Op) : String := op.id ++ "_axes"

/-! Parts -/

theorem valueInfo_name {allow : Bool} {t : Tensor} {info : Model.ValueInfo}
    (done : valueInfo allow t = .ok info) : info.name = t.id := by
  unfold valueInfo at done
  split at done <;> split at done <;> cases done <;> rfl

section Named

variable (keeps : codec.KeepsNames)

include keeps

theorem initializer_name {name : String} {data : Dense} {init : Model.Initializer}
    (done : initializer codec name data = .ok init) : init.name = name :=
  keeps name data init (mapError_eq_ok_iff.mp (lift_eq_ok_iff.mp done))

theorem names_of_constants {inits : List Model.Initializer} (done : constants codec g = .ok inits) :
    inits.map Model.Initializer.name = (constantData g).map Prod.fst :=
  except_map_of_mapM (fun _ _ made => initializer_name keeps made) done

/-- What is written for an operator has its outputs, and a name is made up for a squeeze only. -/
theorem pieces_names (done : pieces codec op = .ok p) :
    p.nodes.flatMap Model.Node.outputs = op.outputs ∧
      p.initializers.map Model.Initializer.name =
        if op.opType = "Squeeze" then [axesName op] else [] := by
  unfold pieces at done
  cases known : OpKind.ofName? op.opType with
  | none => simp [known] at done
  | some kind =>
    have named : kind.opType = op.opType := by simpa using List.find?_some known
    rw [← named]
    simp only [known] at done
    -- only a squeeze has an initializer of its own, for its axes
    cases kind with
    | squeeze =>
      obtain ⟨array, _, done⟩ := except_bind_eq_ok_iff.mp done
      obtain ⟨axes, made, done⟩ := except_bind_eq_ok_iff.mp done
      have name := initializer_name keeps made
      split at done
      · contradiction
      · cases done
        simp [OpKind.opType, axesName, name]
    | reduce kind =>
      rw [lift_eq_ok_iff] at done
      obtain ⟨keep, _, done⟩ := except_bind_eq_ok_iff.mp done
      split at done
      · cases done
        cases kind <;> simp [OpKind.opType, ReduceKind.opType]
      · contradiction
    | range =>
      change rangeNode op = _ at done
      unfold rangeNode at done
      split at done
      · cases done
        simp [OpKind.opType, plainNode]
      · contradiction
    | exp | log | multiply | shapeOf =>
      cases done
      simp [OpKind.opType, plainNode]

end Named

/-! Models -/

theorem parts_of_toModel {opset : Int} {allow : Bool} {written : Model}
    (done : g.toModel codec opset allow = .ok written) :
    ∃ order ps inits, Ordered g order ∧ (opsIn g order).mapM (pieces codec) = .ok ps ∧
      (g.tensorsOf g.inputs).mapM (valueInfo allow) = .ok written.graph.inputs ∧
      constants codec g = .ok inits ∧
      written.graph.initializers = inits ++ ps.flatMap Pieces.initializers ∧
      written.graph.nodes = ps.flatMap Pieces.nodes := by
  unfold Graph.toModel at done
  dsimp only at done
  split at done
  · contradiction
  obtain ⟨_, _, done⟩ := except_bind_eq_ok_iff.mp done
  obtain ⟨inputs, fed, done⟩ := except_bind_eq_ok_iff.mp done
  obtain ⟨inits, stored, done⟩ := except_bind_eq_ok_iff.mp done
  split at done
  · contradiction
  obtain ⟨ops, sort, done⟩ := except_bind_eq_ok_iff.mp done
  obtain ⟨ps, each, done⟩ := except_bind_eq_ok_iff.mp done
  obtain ⟨outputs, _, done⟩ := except_bind_eq_ok_iff.mp done
  split at done
  · contradiction
  obtain rfl := Except.ok.inj done
  obtain ⟨order, rfl, ordered⟩ := ordered_of_sorted sort
  refine ⟨order, ps, inits, ordered, each, fed, stored, ?_, ?_⟩ <;> rw [foldl_append]
  rfl

/-- Written names are the ids of what is given and made, and the names of the axes of squeezes. -/
theorem names_perm (keeps : codec.KeepsNames) {opset : Int} {allow : Bool} {written : Model}
    (done : g.toModel codec opset allow = .ok written) :
    written.graph.names.Perm (g.sourceIds ++ g.squeezes.map axesName) := by
  obtain ⟨order, ps, inits, ordered, each, fed, stored, initializers, nodes⟩ :=
    parts_of_toModel done
  have perm := opsIn_perm ordered
  have inputs : written.graph.inputs.map Model.ValueInfo.name =
      (g.tensorsOf g.inputs).map Tensor.id :=
    except_map_of_mapM (fun t info => valueInfo_name) fed
  have made : (ps.flatMap Pieces.nodes).flatMap Model.Node.outputs =
      (opsIn g order).flatMap Op.outputs := by
    rw [List.flatMap_assoc, List.flatMap_def, List.flatMap_def,
      except_map_of_mapM (fun op p made => (pieces_names keeps made).1) each]
  have axes : (ps.flatMap Pieces.initializers).map Model.Initializer.name =
      ((opsIn g order).filter fun op => op.opType = "Squeeze").map axesName := by
    rw [List.map_flatMap, List.flatMap_def,
      except_map_of_mapM (fun op p made => (pieces_names keeps made).2) each, ← List.flatMap_def,
      flatMap_singletons]
  have constants := names_of_constants keeps stored
  have allOutputs := perm.flatMap_right Op.outputs
  have allAxes := (perm.filter fun op => op.opType = "Squeeze").map axesName
  unfold Model.Graph.names Model.Graph.givenNames Graph.sourceIds Graph.squeezes
  rw [initializers, nodes, List.map_append, inputs, constants, axes, made,
    List.perm_iff_count]
  intro name
  have sameOutputs := allOutputs.count_eq name
  have sameAxes := allAxes.count_eq name
  simp only [List.count_append]
  omega

theorem nodup_axesNames_iff : (g.squeezes.map axesName).Nodup ↔ (g.squeezes.map Op.id).Nodup := by
  have named : g.squeezes.map axesName = (g.squeezes.map Op.id).map (· ++ "_axes") := by
    rw [List.map_map]
    rfl
  rw [named, List.nodup_map_iff fun _ _ same => (String.append_left_inj _).mp same]

end Export

/-- When the inputs, constants and outputs of a graph have ids of their own, the names in the model
    that is written are distinct just when the squeezes have ids of their own as well, and nothing
    in the graph has the name that is made up for the axes of one. -/
theorem written_names_are_distinct_iff (codec : Codec) (keeps : codec.KeepsNames) {g : Graph}
    {opset : Int} {allow : Bool} {written : Model}
    (done : g.toModel codec opset allow = .ok written) (distinct : g.sourceIds.Nodup) :
    written.graph.names.Nodup ↔ (g.squeezes.map Op.id).Nodup ∧
      ∀ op ∈ g.squeezes, Export.axesName op ∉ g.sourceIds := by
  rw [(Export.names_perm keeps done).nodup_iff, List.nodup_append', Export.nodup_axesNames_iff]
  constructor
  · rintro ⟨_, once, apart⟩
    refine ⟨once, ?_⟩
    intro op member taken
    exact apart taken (List.mem_map_of_mem member)
  · rintro ⟨once, free⟩
    refine ⟨distinct, once, ?_⟩
    intro name taken made
    obtain ⟨op, member, rfl⟩ := List.mem_map.mp made
    exact free op member taken

/-- The sum of a tensor of unknown rank over all axes, beside an input that nothing reads. -/
def sumBeside (name : String) : Model :=
  { opsetImports := [("", 13)]
    graph :=
      { name := "m"
        inputs := [⟨"x", .tensor 1 .unknownRank⟩, ⟨name, .tensor 7 (.static [1])⟩]
        outputs := [⟨"y", .tensor 1 .unknownRank⟩]
        initializers := []
        nodes := [{ opType := "ReduceSum", inputs := ["x"], outputs := ["y"] }] } }

/-- The axes of the squeeze go by the name of the other input. -/
theorem input_name_is_made_up_again : ∃ converted warnings written,
    (sumBeside "Squeeze_3_axes").convert .current .standard true "m" = (.ok converted, warnings) ∧
    converted.graph.toModel .current 18 true = .ok written ∧ converted.graph.sourceIds.Nodup ∧
    ¬ written.graph.names.Nodup := by
  obtain ⟨converted, warnings, done⟩ : ∃ converted warnings,
      (sumBeside "Squeeze_3_axes").convert .current .standard true "m" =
        (.ok converted, warnings) :=
    Model.exists_converted (by decide +kernel)
  have computed : ((sumBeside "Squeeze_3_axes").convert .current .standard true "m").1.toOption.map
      (fun converted => (converted.graph.sourceIds,
        (converted.graph.toModel .current 18 true).toOption.map fun written =>
          written.graph.names)) =
      some (["x", "Squeeze_3_axes", "range_start_4", "range_step_5", "ShapeOf_1:0", "ShapeOf_2:0",
          "Squeeze_3:0", "Range_6:0", "ReduceSum_7:0"],
        some ["range_start_4", "range_step_5", "Squeeze_3_axes", "x", "Squeeze_3_axes",
          "ShapeOf_1:0", "ShapeOf_2:0", "Squeeze_3:0", "Range_6:0", "ReduceSum_7:0"]) := by
    decide +kernel
  rw [done] at computed
  obtain ⟨ids, names⟩ := Prod.mk.inj (Option.some.inj computed)
  obtain ⟨written, exported, names⟩ := Option.map_eq_some_iff.mp names
  refine ⟨converted, warnings, written, done, toOption_eq_some_iff.mp exported, ?_, ?_⟩
  · rw [ids]
    decide
  · rw [names]
    decide

/-- Under another name it is in nobody's way. -/
theorem other_input_name_is_free : ∃ converted warnings written,
    (sumBeside "w").convert .current .standard true "m" = (.ok converted, warnings) ∧
    converted.graph.toModel .current 18 true = .ok written ∧ written.graph.names.Nodup := by
  obtain ⟨converted, warnings, done⟩ : ∃ converted warnings,
      (sumBeside "w").convert .current .standard true "m" = (.ok converted, warnings) :=
    Model.exists_converted (by decide +kernel)
  have computed : ((sumBeside "w").convert .current .standard true "m").1.toOption.map
      (fun converted => (converted.graph.sourceIds, converted.graph.squeezes.map Op.id,
        (converted.graph.toModel .current 18 true).toBool)) =
      some (["x", "w", "range_start_4", "range_step_5", "ShapeOf_1:0", "ShapeOf_2:0",
        "Squeeze_3:0", "Range_6:0", "ReduceSum_7:0"], ["Squeeze_3"], true) := by
    decide +kernel
  rw [done] at computed
  obtain ⟨ids, rest⟩ := Prod.mk.inj (Option.some.inj computed)
  obtain ⟨squeezes, returns⟩ := Prod.mk.inj rest
  obtain ⟨written, exported⟩ : ∃ written,
      converted.graph.toModel .current 18 true = .ok written := by
    cases exported : converted.graph.toModel .current 18 true with
    | error fault => simp [exported, Except.toBool] at returns
    | ok written => exact ⟨written, rfl⟩
  refine ⟨converted, warnings, written, done, exported, ?_⟩
  refine (written_names_are_distinct_iff .current Codec.current_keepsNames exported
    (by rw [ids]; decide)).mpr ⟨?_, ?_⟩
  · rw [squeezes]
    decide
  · have free : ∀ id ∈ converted.graph.squeezes.map Op.id,
        id ++ "_axes" ∉ converted.graph.sourceIds := by
      rw [squeezes, ids]
      decide
    intro op member
    exact free op.id (List.mem_map_of_mem member)

end ReductionIR
