import ReductionIR.Conversion
import ReductionIR.Proofs.Atomicity
/-
Runs of a conversion, stage by stage: what each step does to the graph and to the values,
and what a loop reaches when every turn of it keeps a condition.
-/
namespace ReductionIR

open Stepwise

variable {codec : Codec}

theorem SourceNode.ofModel_eq_ok {node : Model.Node} {opset : Int} {position : Option Int}
    {source : SourceNode} (read : ofModel node opset position = .ok source) :
    source.opType = node.opType ∧ source.opset = opset ∧
      Model.storeOf node.attributes = .ok source.attributes := by
  unfold ofModel at read
  obtain ⟨attributes, stored, read⟩ := except_bind_eq_ok_iff.mp read
  cases read
  exact ⟨rfl, rfl, stored⟩

namespace Conversion

variable {c c' : Conversion}

theorem forM_induction {β : Type} {l : List β} {f : β → Step Unit} {P : Nat → Conversion → Prop}
    (turn : ∀ i b c c', l[i]? = some b → P i c → f b c = .ok () c' → P (i + 1) c')
    (start : P 0 c) (done : l.forM f c = .ok () c') : P l.length c' := by
  induction l generalizing P c with
  | nil =>
    cases done
    exact start
  | cons b rest ih =>
    change (f b >>= fun _ => rest.forM f) c = .ok () c' at done
    obtain ⟨_, middle, first, later⟩ := bind_eq_ok_iff.mp done
    have next := turn 0 b c middle rfl start first
    refine ih (P := fun i c => P (i + 1) c) ?_ next later
    intro i b' c c' found holds step
    exact turn (i + 1) b' c c' (by simpa using found) holds step

theorem modify_eq_ok {f : Conversion → Conversion} :
    (modify f : Step Unit) c = .ok () c' ↔ c' = f c := by
  change EStateM.Result.ok () (f c) = .ok () c' ↔ _
  simp [eq_comm]

theorem addInitializer_eq_ok {init : Model.Initializer} {index : Nat} :
    addInitializer codec init index c = .ok () c' ↔
      ∃ data, codec.array init = .ok data ∧
        c' = { c.bindValue init.name (.constant (.given index) init.name data) with
          graph := c.graph.addConstant (.constant (.given index) init.name data) } := by
  unfold addInitializer Model.Initializer.tensor
  rw [bind_eq_ok_iff]
  cases codec.array init with
  | error failure => simp [Fault.lift, Except.mapError, bind, Except.bind, ofExcept_apply]
  | ok data =>
    simp only [bind, Except.bind, pure, Except.pure, Fault.lift, Except.mapError, ofExcept_apply,
      EStateM.Result.ok.injEq, Except.ok.injEq, exists_eq_left']
    constructor
    · rintro ⟨t, middle, ⟨rfl, rfl⟩, step⟩
      exact modify_eq_ok.mp step
    · intro same
      exact ⟨_, c, ⟨rfl, rfl⟩, modify_eq_ok.mpr same⟩

/-! Turns of the loop over nodes -/

section Turn

variable {node : Model.Node} {source : SourceNode}

/-- A node is lowered in a state, to some outputs and a graph. -/
def Lowers (c : Conversion) (node : Model.Node) (source : SourceNode) (outputs : List Tensor)
    (g : Graph) : Prop :=
  c.obstacle? node = none ∧
    lowerNode .standard source (c.operandsOf node) c.graph = (.ok outputs, g)

/-- A node fails in a state, and a lowering that is tried leaves a warning too. -/
inductive Fails (c : Conversion) (node : Model.Node) (source : SourceNode) :
    NodeFailure → List String → Prop
  | untried {cause : NodeFailure.Cause} (obstacle : c.obstacle? node = some cause) :
      Fails c node source { cause, operator := node.opType, location := some source.location } []
  | refused {failure : NodeFailure} (clear : c.obstacle? node = none)
      (lowered : lowerNode .standard source (c.operandsOf node) c.graph =
        (.error (.node failure), c.graph)) :
      Fails c node source failure
        ["Skipping " ++ source.location ++ ": " ++ failure.message]

/-- A lowering breaks for no reason of its node. -/
def Breaks (c : Conversion) (node : Model.Node) (source : SourceNode) (fault : Fault)
    (g : Graph) : Prop :=
  c.obstacle? node = none ∧
    lowerNode .standard source (c.operandsOf node) c.graph = (.error fault, g) ∧ ¬ fault.Blamed

/-- There is no other way for a node. -/
theorem lowers_or_fails_or_breaks (c : Conversion) (node : Model.Node) (source : SourceNode) :
    (∃ outputs g, c.Lowers node source outputs g) ∨
      (∃ failure added, c.Fails node source failure added) ∨
      ∃ fault g, c.Breaks node source fault g := by
  cases obstacle : c.obstacle? node with
  | some cause => exact Or.inr (Or.inl ⟨_, _, .untried obstacle⟩)
  | none =>
    cases lowered : lowerNode .standard source (c.operandsOf node) c.graph with
    | mk result g =>
      cases result with
      | ok outputs => exact Or.inl ⟨outputs, g, obstacle, lowered⟩
      | error fault =>
        rcases (lowerNode_eq_error lowered).2 with ⟨rfl, cause, rfl⟩ | other
        · exact Or.inr (Or.inl ⟨_, _, .refused obstacle lowered⟩)
        · exact Or.inr (Or.inr ⟨fault, g, obstacle, lowered, other⟩)

section Turns

variable {strict : Bool} {opset : Int} {position : Nat}

theorem nodeStep_apply
    (read : SourceNode.ofModel node opset (some (position : Int)) = .ok source) :
    nodeStep .standard strict opset node position c =
      match c.obstacle? node with
      | some cause =>
        note strict { cause, operator := node.opType, location := some source.location } c
      | none => lowerStep .standard strict node source c := by
  unfold nodeStep
  simp only [bind, EStateM.bind, ofExcept_apply, read, Fault.lift, Except.mapError, get, getThe,
    MonadStateOf.get, EStateM.get]
  cases c.obstacle? node <;> rfl

theorem nodeStep_of_unread {failure : Breakdown}
    (unread : SourceNode.ofModel node opset (some (position : Int)) = .error failure) :
    nodeStep .standard strict opset node position c = .error (.bare failure) c := by
  unfold nodeStep
  apply bind_eq_error_iff.mpr
  rw [ofExcept_apply, unread]
  exact Or.inl rfl

theorem nodeStep_of_lowers
    (read : SourceNode.ofModel node opset (some (position : Int)) = .ok source)
    {outputs : List Tensor} {g : Graph} (lowers : c.Lowers node source outputs g) :
    nodeStep .standard strict opset node position c =
      .ok () ({ c with graph := g }.bindOutputs node.outputs outputs) := by
  obtain ⟨clear, lowered⟩ := lowers
  rw [nodeStep_apply read, clear]
  simp only [lowerStep, bind, EStateM.bind, get, getThe, MonadStateOf.get, EStateM.get, lowered]
  rfl

theorem nodeStep_of_fails
    (read : SourceNode.ofModel node opset (some (position : Int)) = .ok source)
    {failure : NodeFailure} {added : List String} (fails : c.Fails node source failure added) :
    nodeStep .standard strict opset node position c =
      if strict then .error (.node failure) c
      else .ok () { c with
        failures := c.failures ++ [failure], warnings := c.warnings ++ added } := by
  rw [nodeStep_apply read]
  cases fails with
  | untried obstacle =>
    rw [obstacle]
    cases strict <;> simp [note] <;> rfl
  | refused clear lowered =>
    rw [clear]
    simp only [lowerStep, bind, EStateM.bind, get, getThe, MonadStateOf.get, EStateM.get, lowered]
    cases strict <;> rfl

theorem nodeStep_of_breaks
    (read : SourceNode.ofModel node opset (some (position : Int)) = .ok source)
    {fault : Fault} {g : Graph} (breaks : c.Breaks node source fault g) :
    nodeStep .standard strict opset node position c = .error fault { c with graph := g } := by
  obtain ⟨clear, lowered, other⟩ := breaks
  rw [nodeStep_apply read, clear]
  simp only [lowerStep, bind, EStateM.bind, get, getThe, MonadStateOf.get, EStateM.get, lowered]
  cases fault <;> first | rfl | exact absurd trivial other

/-- A turn that comes to an end lowers its node or, unless the conversion is strict, notes a
    failure. -/
theorem nodeStep_eq_ok_iff : nodeStep .standard strict opset node position c = .ok () c' ↔
    ∃ source, SourceNode.ofModel node opset (some (position : Int)) = .ok source ∧
      ((∃ outputs g, c.Lowers node source outputs g ∧
          c' = { c with graph := g }.bindOutputs node.outputs outputs) ∨
        (strict = false ∧ ∃ failure added, c.Fails node source failure added ∧
          c' = { c with
            failures := c.failures ++ [failure], warnings := c.warnings ++ added })) := by
  constructor
  · intro done
    cases read : SourceNode.ofModel node opset (some (position : Int)) with
    | error failure =>
      unfold nodeStep at done
      obtain ⟨_, _, failed, _⟩ := bind_eq_ok_iff.mp done
      rw [ofExcept_apply, read] at failed
      contradiction
    | ok source =>
      refine ⟨source, rfl, ?_⟩
      -- a node that breaks ends every conversion, one that fails a strict one
      rcases lowers_or_fails_or_breaks c node source with
        ⟨outputs, g, lowers⟩ | ⟨failure, added, fails⟩ | ⟨fault, g, breaks⟩
      · rw [nodeStep_of_lowers read lowers] at done
        cases done
        exact Or.inl ⟨outputs, g, lowers, rfl⟩
      · rw [nodeStep_of_fails read fails] at done
        cases strict with
        | true => contradiction
        | false =>
          cases done
          exact Or.inr ⟨rfl, failure, added, fails, rfl⟩
      · rw [nodeStep_of_breaks read breaks] at done
        contradiction
  · rintro ⟨source, read, ⟨outputs, g, lowers, rfl⟩ | ⟨rfl, failure, added, fails, rfl⟩⟩
    · exact nodeStep_of_lowers read lowers
    · exact nodeStep_of_fails read fails

end Turns

theorem nodeStep_eq_ok {strict : Bool} {opset : Int} {position : Nat}
    (done : nodeStep .standard strict opset node position c = .ok () c') :
    ∃ source, SourceNode.ofModel node opset (some (position : Int)) = .ok source ∧
      ((c.obstacle? node = none ∧ ∃ outputs g',
          lowerNode .standard source (c.operandsOf node) c.graph = (.ok outputs, g') ∧
          c' = { c with graph := g' }.bindOutputs node.outputs outputs) ∨
        (strict = false ∧ c'.graph = c.graph ∧ c'.values = c.values)) := by
  obtain ⟨source, read, ⟨outputs, g, ⟨clear, lowered⟩, rfl⟩ | ⟨lenient, _, _, _, rfl⟩⟩ :=
    nodeStep_eq_ok_iff.mp done
  · exact ⟨source, read, Or.inl ⟨clear, outputs, g, lowered, rfl⟩⟩
  · exact ⟨source, read, Or.inr ⟨lenient, rfl, rfl⟩⟩

end Turn

theorem bindOutputs_eq (names : List String) (outputs : List Tensor) (c : Conversion) :
    c.bindOutputs names outputs =
      { c with values := (names.zip outputs).foldl (fun values entry =>
          if entry.1 = "" then values else values.insert entry.1 entry.2) c.values } := by
  unfold bindOutputs
  generalize names.zip outputs = pairs
  induction pairs generalizing c with
  | nil => rfl
  | cons pair rest ih =>
    rw [List.foldl_cons, List.foldl_cons, ih]
    split <;> rfl

@[simp] theorem graph_bindOutputs (names : List String) (outputs : List Tensor)
    (c : Conversion) : (c.bindOutputs names outputs).graph = c.graph := by
  rw [bindOutputs_eq]

@[simp] theorem failures_bindOutputs (names : List String) (outputs : List Tensor)
    (c : Conversion) : (c.bindOutputs names outputs).failures = c.failures := by
  rw [bindOutputs_eq]

theorem find?_bindOutputs (names : List String) (out : Tensor) (name : String) :
    (c.bindOutputs names [out]).values.find? name =
      if names.head? = some name ∧ name ≠ "" then some out else c.values.find? name := by
  cases names with
  | nil => simp [bindOutputs]
  | cons first rest =>
    by_cases empty : first = ""
    · by_cases same : first = name
      · simp [bindOutputs, empty, ← same]
      · simp [bindOutputs, empty, empty ▸ same]
    · by_cases same : first = name
      · simp [bindOutputs, bindValue, empty, ← same]
      · have other : name ≠ first := Ne.symm same
        simp [bindOutputs, bindValue, empty, same, Table.find?_insert_of_ne other]

theorem steps_eq_ok {registry : Registry} {strict : Bool} {opset : Int} {m : Model.Graph}
    (done : steps codec registry strict opset m c = .ok () c') :
    ∃ c₁ c₂ c₃,
      m.initializers.zipIdx.forM (fun init => addInitializer codec init.1 init.2) c = .ok () c₁ ∧
      (m.inputs.zipIdx m.initializers.length).forM
        (fun value => (modify (addInput value.1 value.2) : Step Unit)) c₁ = .ok () c₂ ∧
      m.nodes.zipIdx.forM (fun node => nodeStep registry strict opset node.1 node.2) c₂ =
        .ok () c₃ ∧
      m.outputs.forM (fun value => (modify (addOutput value) : Step Unit)) c₃ = .ok () c' := by
  unfold steps at done
  obtain ⟨_, c₁, first, done⟩ := bind_eq_ok_iff.mp done
  obtain ⟨_, c₂, second, done⟩ := bind_eq_ok_iff.mp done
  obtain ⟨_, c₃, third, done⟩ := bind_eq_ok_iff.mp done
  exact ⟨c₁, c₂, c₃, first, second, third, done⟩

theorem steps_of_stages {registry : Registry} {strict : Bool} {opset : Int} {m : Model.Graph}
    {c₁ c₂ c₃ : Conversion}
    (first : m.initializers.zipIdx.forM (fun init => addInitializer codec init.1 init.2) c =
      .ok () c₁)
    (second : (m.inputs.zipIdx m.initializers.length).forM
      (fun value => (modify (addInput value.1 value.2) : Step Unit)) c₁ = .ok () c₂)
    (third : m.nodes.zipIdx.forM (fun node => nodeStep registry strict opset node.1 node.2) c₂ =
      .ok () c₃)
    (fourth : m.outputs.forM (fun value => (modify (addOutput value) : Step Unit)) c₃ =
      .ok () c') :
    steps codec registry strict opset m c = .ok () c' :=
  bind_eq_ok_iff.mpr ⟨(), c₁, first, bind_eq_ok_iff.mpr ⟨(), c₂, second,
    bind_eq_ok_iff.mpr ⟨(), c₃, third, fourth⟩⟩⟩

section Stages

variable {P : Nat → Conversion → Prop}

/-- The first loop enters constants, numbered from 0 on. -/
theorem initializers_induction {inits : List Model.Initializer}
    (turn : ∀ i init data c, inits[i]? = some init → codec.array init = .ok data → P i c →
      P (i + 1) { c.bindValue init.name (.constant (.given i) init.name data) with
        graph := c.graph.addConstant (.constant (.given i) init.name data) })
    (start : P 0 c)
    (done : inits.zipIdx.forM (fun init => addInitializer codec init.1 init.2) c = .ok () c') :
    P inits.length c' := by
  have last := forM_induction (P := P) ?_ start done
  · rwa [List.length_zipIdx] at last
  · rintro i ⟨init, index⟩ c c' found holds step
    rw [List.getElem?_zipIdx, Nat.zero_add] at found
    obtain ⟨_, there, same⟩ := Option.map_eq_some_iff.mp found
    cases same
    obtain ⟨data, read, rfl⟩ := addInitializer_eq_ok.mp step
    exact turn i init data c there read holds

theorem inputs_induction {values : List Model.ValueInfo} {offset : Nat}
    (turn : ∀ i value c, values[i]? = some value → P i c → P (i + 1) (addInput value (offset + i) c))
    (start : P 0 c)
    (done : (values.zipIdx offset).forM
      (fun value => (modify (addInput value.1 value.2) : Step Unit)) c = .ok () c') :
    P values.length c' := by
  have last := forM_induction (P := P) ?_ start done
  · rwa [List.length_zipIdx] at last
  · rintro i ⟨value, index⟩ c c' found holds step
    rw [List.getElem?_zipIdx] at found
    obtain ⟨_, there, same⟩ := Option.map_eq_some_iff.mp found
    cases same
    obtain rfl := modify_eq_ok.mp step
    exact turn i value c there holds

theorem nodes_induction {nodes : List Model.Node} {strict : Bool} {opset : Int}
    (turn : ∀ i node c c', nodes[i]? = some node → P i c →
      nodeStep .standard strict opset node i c = .ok () c' → P (i + 1) c')
    (start : P 0 c)
    (done : nodes.zipIdx.forM (fun node => nodeStep .standard strict opset node.1 node.2) c =
      .ok () c') : P nodes.length c' := by
  have last := forM_induction (P := P) ?_ start done
  · rwa [List.length_zipIdx] at last
  · rintro i ⟨node, index⟩ c c' found holds step
    rw [List.getElem?_zipIdx, Nat.zero_add] at found
    obtain ⟨_, there, same⟩ := Option.map_eq_some_iff.mp found
    cases same
    exact turn i node c c' there holds step

theorem outputs_induction {P : Conversion → Prop} {values : List Model.ValueInfo}
    (turn : ∀ value c, P c → P (c.addOutput value)) (start : P c)
    (done : values.forM (fun value => (modify (addOutput value) : Step Unit)) c = .ok () c') :
    P c' := by
  refine forM_induction (P := fun _ c => P c) ?_ start done
  intro i value c c' _ holds step
  obtain rfl := modify_eq_ok.mp step
  exact turn value c holds

end Stages

end Conversion

/-- The state a conversion starts from. -/
def Model.startOf (m : Model) (sourceName : String) : Conversion :=
  { graph := { name := SourceNode.nameOr m.graph.name sourceName } }

/-- What a conversion hands out at its end. -/
def Model.handOut (m : Model) (strict : Bool) (sourceName : String) (c : Conversion) :
    Converted :=
  { graph := c.graph, strict, sourceName, producer := m.producerName, opsets := m.opsets,
    valueNames := c.values, failures := c.failures }

theorem Model.convert_eq_ok_iff {m : Model} {registry : Registry} {strict : Bool}
    {sourceName : String} {converted : Converted} {warnings : List String} :
    m.convert codec registry strict sourceName = (.ok converted, warnings) ↔
      ∃ opset c, m.defaultOpset = .ok opset ∧
        Conversion.steps codec registry strict opset m.graph (m.startOf sourceName) = .ok () c ∧
        converted = m.handOut strict sourceName c ∧ warnings = c.warnings := by
  unfold convert
  cases m.defaultOpset with
  | error failure => simp
  | ok opset =>
    simp only [Except.ok.injEq, exists_and_left, exists_eq_left']
    cases run : Conversion.steps codec registry strict opset m.graph (m.startOf sourceName) with
    | error fault c =>
      rw [Model.startOf] at run
      simp [EStateM.run, run]
    | ok _ c =>
      rw [Model.startOf] at run
      simp [EStateM.run, run, handOut, eq_comm]

theorem Model.convert_eq_ok {m : Model} {registry : Registry} {strict : Bool}
    {sourceName : String} {converted : Converted} {warnings : List String}
    (done : m.convert codec registry strict sourceName = (.ok converted, warnings)) :
    ∃ opset c, m.defaultOpset = .ok opset ∧
      Conversion.steps codec registry strict opset m.graph (m.startOf sourceName) = .ok () c ∧
      converted.graph = c.graph ∧ converted.valueNames = c.values := by
  obtain ⟨opset, c, imported, steps, rfl, _⟩ := convert_eq_ok_iff.mp done
  exact ⟨opset, c, imported, steps, rfl, rfl⟩

/-- A condition that holds when everything given has come in, and that nodes and outputs keep,
    holds at the end. -/
theorem Model.convert_induction {m : Model} {P : Conversion → Prop}
    (enter : ∀ sourceName c₁ c₂,
      m.graph.initializers.zipIdx.forM (fun init => Conversion.addInitializer codec init.1 init.2)
        (m.startOf sourceName) = .ok () c₁ →
      (m.graph.inputs.zipIdx m.graph.initializers.length).forM (fun value =>
        (modify (Conversion.addInput value.1 value.2) : Conversion.Step Unit)) c₁ = .ok () c₂ →
      P c₂)
    (lower : ∀ (c : Conversion) node source outputs g', P c →
      lowerNode .standard source (c.operandsOf node) c.graph = (.ok outputs, g') →
      P ({ c with graph := g' }.bindOutputs node.outputs outputs))
    (skip : ∀ c c' : Conversion, P c → c'.graph = c.graph → c'.values = c.values → P c')
    (output : ∀ value (c : Conversion), P c → P (c.addOutput value)) {strict : Bool}
    {sourceName : String} {converted : Converted} {warnings : List String}
    (done : m.convert codec .standard strict sourceName = (.ok converted, warnings)) :
    ∃ c : Conversion, converted.graph = c.graph ∧ converted.valueNames = c.values ∧ P c := by
  obtain ⟨opset, c, _, run, graph, values⟩ := convert_eq_ok done
  obtain ⟨c₁, c₂, c₃, first, second, third, last⟩ := Conversion.steps_eq_ok run
  have lowered : P c₃ := by
    refine Conversion.nodes_induction (P := fun _ c => P c) ?_ (enter sourceName c₁ c₂ first second)
      third
    intro i node c c' _ holds turn
    obtain ⟨source, _, ⟨_, outputs, g', lowered, rfl⟩ | ⟨_, same, kept⟩⟩ :=
      Conversion.nodeStep_eq_ok turn
    · exact lower c node source outputs g' holds lowered
    · exact skip c c' holds same kept
  exact ⟨c, graph, values, Conversion.outputs_induction output lowered last⟩

theorem Model.exists_converted {m : Model} {registry : Registry} {strict : Bool}
    {sourceName : String} (fine : (m.convert codec registry strict sourceName).1.toBool = true) :
    ∃ converted warnings,
      m.convert codec registry strict sourceName = (.ok converted, warnings) := by
  cases result : m.convert codec registry strict sourceName with
  | mk outcome warnings =>
    rw [result] at fine
    cases outcome with
    | error fault => simp [Except.toBool] at fine
    | ok converted => exact ⟨converted, warnings, rfl⟩

end ReductionIR
