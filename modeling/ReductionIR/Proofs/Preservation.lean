import ReductionIR.Proofs.Shadowing
import ReductionIR.Proofs.Simulation
/-
Converting a model and writing the graph keeps what the model computes. Where axes are
computed or fed, their number alone tells how many dims a reduction drops, so each must be
named once; otherwise a reduction of the result may be lowered for a rank that it has not.
-/
namespace ReductionIR

/-- Written at an opset and run on fed tensors, a converted model gives the tensors that names
    stand for the values of these names. -/
def Converted.Computes {α : Type} (converted : Converted) (codec : Codec) (I : Interpretation α)
    (opset : Int) (fed values : Env α) : Prop :=
  ∃ (written : Model) (env : Env α), converted.graph.toModel codec opset true = .ok written ∧
    written.graph.execute? codec I fed = some env ∧
    ∀ name t, converted.valueNames.find? name = some t →
      ∃ x, values name = some x ∧ env t.id = some x

/-- A model that converts can be written at every opset of a file, and the written model computes
    the values of the source model. -/
theorem written_model_preserves_values (codec : Codec) (laws : codec.Lawful) (m : Model)
    {α : Type} (I : Interpretation α) (lawful : I.Lawful) (once : m.graph.SingleAssignment)
    (storable : m.graph.Storable codec) (unclashing : m.graph.Unclashing) (free : m.graph.AxesFree)
    (sourceName : String) (converted : Converted) (warnings : List String)
    (done : m.convert codec .standard true sourceName = (.ok converted, warnings)) (source : Int)
    (imported : m.defaultOpset = .ok source) (fed : Env α) (supplied : m.graph.FedBy fed)
    (values : Env α) (run : m.graph.run? codec I true source fed = some values) (opset : Int)
    (least : 18 ≤ opset) (greatest : opset ≤ 28) :
    converted.Computes codec I opset fed values := by
  obtain ⟨c, solution, graph, names, simulates⟩ :=
    Model.convert_simulates laws lawful unclashing once storable supplied done imported run
  have apart := simulates.toNamed.axesApart free
  unfold Converted.Computes
  rw [graph, names]
  obtain ⟨written, order, ordered, form, exported⟩ :=
    Export.toModel_eq laws simulates.wired simulates.writable least greatest
  obtain ⟨env, executed, agrees⟩ := Export.execute_eq_some laws simulates.wired
    simulates.writable apart simulates.solves ordered form
  refine ⟨written, env, exported true, executed, ?_⟩
  intro name t found
  obtain ⟨x, value, there, _⟩ := simulates.described name t found
  exact ⟨x, value, (agrees t.id t (simulates.own name t found)).trans there⟩

/-! Models that convert, and what their written form computes -/

/-- The tensors of a list of names. -/
def Env.ofList {α : Type} (fed : List (String × Concrete α)) : Env α := fun name =>
  List.lookup name fed

/-- The value that the written model gives to the tensor of a name. -/
def Converted.written? {α : Type} (converted : Converted) (codec : Codec) (I : Interpretation α)
    (opset : Int) (fed : Env α) (name : String) : Option (Concrete α) := do
  let t ← converted.valueNames.find? name
  let written ← (converted.graph.toModel codec opset true).toOption
  let env ← written.graph.execute? codec I fed
  env t.id

theorem Converted.Computes.written?_eq {α : Type} {converted : Converted} {codec : Codec}
    {I : Interpretation α} {opset : Int} {fed values : Env α}
    (computes : converted.Computes codec I opset fed values) {name : String}
    (bound : converted.valueNames.contains name = true) :
    converted.written? codec I opset fed name = values name := by
  obtain ⟨written, env, exported, executed, agrees⟩ := computes
  obtain ⟨t, found⟩ := Option.isSome_iff_exists.mp bound
  obtain ⟨x, value, there⟩ := agrees name t found
  simp [written?, found, exported, executed, Except.toOption, there, value]

/-- Reductions that leave the right number of elements, all of them the number of reduced axes. -/
def Interpretation.counting : Interpretation (Option Int) :=
  { probe id with
    reduce _ positions keepDims x :=
      ⟨lengthsReduced positions keepDims x.dims,
        List.replicate (lengthsReduced positions keepDims x.dims).prod (some positions.card)⟩ }

theorem Interpretation.lawful_counting : counting.Lawful where
  dims_reduce := fun _ _ _ _ => rfl
  filled_reduce := fun _ _ _ _ _ => List.length_replicate ..

deriving instance DecidableEq for Concrete

namespace Model

/-- A model that converts, and has values on fed tensors that its written form does not
    compute. -/
def IsLost (m : Model) (fed : Env (Option Int)) : Prop :=
  m.graph.SingleAssignment ∧ ∃ converted warnings source values,
    m.convert .current .standard true "m" = (.ok converted, warnings) ∧
    m.defaultOpset = .ok source ∧
    m.graph.run? .current .counting false source fed = some values ∧
    ¬ converted.Computes .current .counting 18 fed values

/-- Do the written model and the source model give a name different values? -/
def differsAt (m : Model) (fed : Env (Option Int)) (name : String) : Bool :=
  match m.convert .current .standard true "m", m.defaultOpset with
  | (.ok converted, _), .ok source =>
    (m.graph.run? .current .counting false source fed).any fun values =>
      converted.valueNames.contains name &&
        decide (converted.written? .current .counting 18 fed name ≠ values name)
  | _, _ => false

theorem isLost_of_differsAt {m : Model} {fed : Env (Option Int)} (name : String)
    (once : m.graph.SingleAssignment) (differs : m.differsAt fed name = true) :
    m.IsLost fed := by
  unfold differsAt at differs
  split at differs
  · rename_i converted warnings source done imported
    obtain ⟨values, run, differs⟩ := (Option.any_eq_true _ _).mp differs
    obtain ⟨bound, apart⟩ := (Bool.and_eq_true _ _).mp differs
    exact ⟨once, converted, warnings, source, values, done, imported, run,
      fun computes => of_decide_eq_true apart (computes.written?_eq bound)⟩
  · contradiction

/-- A sum that drops the dims of fed axes, and a greatest element of what is left. -/
def fedAxesModel : Model :=
  { opsetImports := [("", 13)]
    graph :=
      { name := "m"
        inputs := [⟨"x", .tensor 1 (.dynamic 3)⟩, ⟨"axes", .tensor 7 (.static [2])⟩]
        nodes :=
          [{ opType := "ReduceSum", inputs := ["x", "axes"], outputs := ["y"]
             attributes := [{ name := "keepdims", data := .int 0 }] },
           { opType := "ReduceMax", inputs := ["y"], outputs := ["z"] }] } }

/-- Log-sum-exps of all elements of the inputs, the first of them called `"y"`. -/
def logSumExpsModel (inputs : List ValueInfo) : Model :=
  { opsetImports := [("", 13)]
    graph :=
      { name := "m"
        inputs
        nodes := inputs.zipIdx.map fun value =>
          { opType := "ReduceLogSumExp", inputs := [value.1.name]
            outputs := [if value.2 = 0 then "y" else "z"] } } }

/-- The lengths of three axes and the axes to drop. -/
def cubeAnd (axes : List Int) : Env (Option Int) :=
  Env.ofList [("x", ⟨[1, 1, 1], [none]⟩), ("axes", ⟨[axes.length], axes.map some⟩)]

/-- A matrix of one element under each name. -/
def matrices (names : List String) : Env (Option Int) :=
  Env.ofList (names.map fun name => (name, ⟨[1, 1], [none]⟩))

/-- Axes that differ keep the values, also at the last opset of a file. -/
theorem values_of_distinct_axes : ∃ converted warnings values,
    fedAxesModel.convert .current .standard true "m" = (.ok converted, warnings) ∧
    fedAxesModel.graph.run? .current .counting true 13 (cubeAnd [0, -1]) = some values ∧
    values "z" = some ⟨[1], [some 1]⟩ ∧
    converted.Computes .current .counting 28 (cubeAnd [0, -1]) values := by
  obtain ⟨converted, warnings, done⟩ : ∃ converted warnings,
      fedAxesModel.convert .current .standard true "m" = (.ok converted, warnings) :=
    exists_converted (by decide +kernel)
  have last : (fedAxesModel.graph.run? .current .counting true 13 (cubeAnd [0, -1])).bind (· "z") =
      some ⟨[1], [some 1]⟩ := by decide +kernel
  obtain ⟨values, run, last⟩ := Option.bind_eq_some_iff.mp last
  refine ⟨converted, warnings, values, done, run, last, ?_⟩
  have storable : fedAxesModel.graph.Storable .current := by
    constructor
    · intro value member
      rcases List.mem_pair.mp member with rfl | rfl
      · exact Inference.storable_dynamic 3
      · intro dims shape
        cases shape
        decide
    · intro init member
      exact nomatch member
  have supplied : fedAxesModel.graph.FedBy (cubeAnd [0, -1]) := by
    intro value member _
    rcases List.mem_pair.mp member with rfl | rfl
    · exact ⟨_, rfl, rfl, Inference.describes_dynamic rfl⟩
    · exact ⟨_, rfl, rfl, Dense.shape_describes ⟨.int64, [2], []⟩⟩
  exact written_model_preserves_values .current Codec.current_lawful fedAxesModel .counting
    Interpretation.lawful_counting
    ⟨by decide +kernel, by decide +kernel, by decide +kernel, by decide +kernel⟩ storable
    (Graph.unclashing_of_plain (by decide +kernel)) (Graph.axesFree_of_plain (by decide +kernel))
    "m" converted warnings done 13 rfl (cubeAnd [0, -1]) supplied values run 28 (by decide)
    (by decide)

/-- An axis fed twice makes the rank that a reduction leaves smaller than it is, and a matrix fed
    for a vector is reduced as a vector; inputs may be overwritten by a result and by the axes of
    a written Squeeze. -/
theorem values_are_lost : fedAxesModel.IsLost (cubeAnd [0, 0]) ∧
    (logSumExpsModel [⟨"x", .tensor 1 (.dynamic 1)⟩]).IsLost (matrices ["x"]) ∧
    (logSumExpsModel [⟨"Exp_1:0", .tensor 1 (.dynamic 2)⟩]).IsLost (matrices ["Exp_1:0"]) ∧
    (logSumExpsModel [⟨"x", .tensor 1 .unknownRank⟩,
      ⟨"Squeeze_3_axes", .tensor 1 (.dynamic 2)⟩]).IsLost (matrices ["x", "Squeeze_3_axes"]) := by
  refine ⟨isLost_of_differsAt "z" ?_ (by decide +kernel),
    isLost_of_differsAt "y" ?_ (by decide +kernel),
    isLost_of_differsAt "y" ?_ (by decide +kernel),
    isLost_of_differsAt "z" ?_ (by decide +kernel)⟩ <;>
  exact ⟨by decide +kernel, by decide +kernel, by decide +kernel, by decide +kernel⟩

end Model

end ReductionIR
