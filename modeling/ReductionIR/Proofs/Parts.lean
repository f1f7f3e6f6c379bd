import ReductionIR.Proofs.Lowered
/-
Evaluation of the parts of a lowering. Each part writes results of its own only, so what
matters is which ids it finds the data and the axes under.
-/
namespace ReductionIR

open Draft

theorem OpKind.ofName?_opType (kind : OpKind) : OpKind.ofName? kind.opType = some kind := by
  cases kind with
  | reduce kind => cases kind <;> rfl
  | _ => rfl

variable {α : Type} {I : Interpretation α} {env env' : Env α} {source? : Option String}

theorem run_opOf (I : Interpretation α) (env : Env α) (source? : Option String)
    (kind : OpKind) (n : Nat) (inputs : List String) (attributes : Fields) (rest : List Op) :
    Op.run I env (opOf kind.opType n inputs attributes source? :: rest) =
      ((inputs.mapM env).bind (I.apply kind attributes)).bind fun y =>
        Op.run I (Function.update env
          (Graph.resultId (Graph.numbered kind.opType n)) (some y)) rest := by
  simp only [Op.run, opOf, Op.value?, OpKind.ofName?_opType]
  rfl

theorem resultId_ne_of_kind {a b : String} (different : a ≠ b) (m n : Nat) :
    Graph.resultId (Graph.numbered a m) ≠ Graph.resultId (Graph.numbered b n) :=
  fun same => different (Graph.resultId_numbered_injective same).1

/-! All axes -/

/-- The ids that computing all axes writes. -/
def allIds (lengths rank stop last : Nat) : List String :=
  [Graph.resultId (Graph.numbered "ShapeOf" lengths),
    Graph.resultId (Graph.numbered "ShapeOf" rank),
    Graph.resultId (Graph.numbered "Squeeze" stop),
    Graph.resultId (Graph.numbered "Range" last)]

/-- A tensor of integers. -/
def Interpretation.Integral (I : Interpretation α) (c : Concrete α) : Prop :=
  ∃ ns : List Int, c.elements = ns.map I.integer

theorem Interpretation.integral_vector (I : Interpretation α) (ns : List Int) :
    I.Integral (I.vector ns) := ⟨ns, rfl⟩

/-- The environment behind the operators that compute all axes, which hold a tensor at the
    end. -/
def allEnv (I : Interpretation α) (env : Env α) (x : Concrete α) (lengths rank stop last : Nat)
    (axes : Concrete α) : Env α :=
  Function.update
    (Function.update
      (Function.update
        (Function.update env (Graph.resultId (Graph.numbered "ShapeOf" lengths))
          (some (I.shapeOf x)))
        (Graph.resultId (Graph.numbered "ShapeOf" rank)) (some (I.shapeOf (I.shapeOf x))))
      (Graph.resultId (Graph.numbered "Squeeze" stop)) (some ⟨[], [I.integer x.rank]⟩))
    (Graph.resultId (Graph.numbered "Range" last)) (some axes)

variable {data : String} {x axes : Concrete α} {lengths rank stop start step last : Nat}

@[simp] theorem Interpretation.stored_scalarOf (I : Interpretation α) (n : Int) :
    I.stored (Axes.scalarOf n) = ⟨[], [I.integer n]⟩ := rfl

/-- Computing all axes works when the two constants bound a range. -/
theorem run_allOps (lengths rank stop start step last : Nat) (source? : Option String)
    (atData : env data = some x) :
    Op.run I env (Axes.allOps data lengths rank stop start step last source?) =
      (((env (Graph.numbered "range_start" start)).bind fun first =>
        (env (Graph.numbered "range_step" step)).bind fun width =>
          I.range first ⟨[], [I.integer x.rank]⟩ width).map
        (allEnv I env x lengths rank stop last)) := by
  let a := Graph.resultId (Graph.numbered "ShapeOf" lengths)
  let b := Graph.resultId (Graph.numbered "ShapeOf" rank)
  let c := Graph.resultId (Graph.numbered "Squeeze" stop)
  let env₁ := Function.update env a (some (I.shapeOf x))
  let env₂ := Function.update env₁ b (some (I.shapeOf (I.shapeOf x)))
  let env₃ := Function.update env₂ c (some ⟨[], [I.integer x.rank]⟩)
  have one : ([data].mapM env).bind (I.apply .shapeOf []) = some (I.shapeOf x) := by
    simp [atData, Interpretation.apply]
  have two : ([a].mapM env₁).bind (I.apply .shapeOf []) = some (I.shapeOf (I.shapeOf x)) := by
    simp [env₁, Interpretation.apply]
  have three : ([b].mapM env₂).bind (I.apply .squeeze [("axes", .ofInts [0])]) =
      some ⟨[], [I.integer x.rank]⟩ := by
    have axes : Fields.find? [("axes", Value.ofInts [0])] "axes" = some (.list [.int 0]) := rfl
    have read : [Value.int 0].mapM Attribute.intItem? = some [0] := rfl
    simp [env₂, Interpretation.apply, axes, read, I.squeeze_shapeOf_shapeOf]
  -- The constants have no id of a result, so nothing has changed them.
  have kept : ∀ (stem : String) (n : Nat),
      env₃ (Graph.numbered stem n) = env (Graph.numbered stem n) := by
    intro stem n
    have free : ∀ op, Graph.numbered stem n ≠ Graph.resultId op :=
      fun op => (Graph.resultId_ne_numbered op stem n).symm
    simp [env₃, env₂, env₁, a, b, c, free]
  have four : ([Graph.numbered "range_start" start, c,
      Graph.numbered "range_step" step].mapM env₃).bind
        (I.apply .range [("output_type", .dtype .int64)]) =
      (env (Graph.numbered "range_start" start)).bind fun first =>
        (env (Graph.numbered "range_step" step)).bind fun width =>
          I.range first ⟨[], [I.integer x.rank]⟩ width := by
    have middle : env₃ c = some ⟨[], [I.integer x.rank]⟩ := Function.update_self ..
    cases first : env (Graph.numbered "range_start" start) with
    | none => simp [kept, first]
    | some lower =>
      cases width : env (Graph.numbered "range_step" step) with
      | none => simp [kept, first, width, middle]
      | some unit => simp [kept, first, width, middle, Interpretation.apply]
  have step₁ := run_opOf I env source? .shapeOf lengths [data] []
  have step₂ := run_opOf I env₁ source? .shapeOf rank [a] []
  have step₃ := run_opOf I env₂ source? .squeeze stop [b] [("axes", .ofInts [0])]
  have step₄ := run_opOf I env₃ source? .range last
    [Graph.numbered "range_start" start, c, Graph.numbered "range_step" step]
    [("output_type", .dtype .int64)] []
  simp only [OpKind.opType] at step₁ step₂ step₃ step₄
  unfold Axes.allOps
  rw [step₁, one, Option.bind_some, step₂, two, Option.bind_some, step₃, three,
    Option.bind_some, step₄, four]
  exact (Option.map_eq_bind ..).symm

theorem allEnv_last : allEnv I env x lengths rank stop last axes
    (Graph.resultId (Graph.numbered "Range" last)) = some axes :=
  Function.update_self ..

theorem allEnv_of_not_mem {id : String} (outside : id ∉ allIds lengths rank stop last) :
    allEnv I env x lengths rank stop last axes id = env id := by
  simp only [allIds, List.mem_cons, List.not_mem_nil, or_false, not_or] at outside
  obtain ⟨na, nb, nc, ne⟩ := outside
  simp [allEnv, na, nb, nc, ne]

theorem integral_allEnv (env : Env α) (x : Concrete α) (ordered : lengths < rank)
    (whole : I.Integral axes) {id : String} (inside : id ∈ allIds lengths rank stop last) :
    ∃ c, allEnv I env x lengths rank stop last axes id = some c ∧ I.Integral c := by
  have ab : Graph.resultId (Graph.numbered "ShapeOf" lengths) ≠
      Graph.resultId (Graph.numbered "ShapeOf" rank) := by
    intro same
    have number := (Graph.resultId_numbered_injective same).2
    omega
  have ac := resultId_ne_of_kind (a := "ShapeOf") (b := "Squeeze") (by decide)
  have ae := resultId_ne_of_kind (a := "ShapeOf") (b := "Range") (by decide)
  have ce := resultId_ne_of_kind (a := "Squeeze") (b := "Range") (by decide)
  simp only [allIds, List.mem_cons, List.not_mem_nil, or_false] at inside
  rcases inside with rfl | rfl | rfl | rfl
  · refine ⟨I.shapeOf x, ?_, _, rfl⟩
    simp [allEnv, ab, ac, ae]
  · refine ⟨I.shapeOf (I.shapeOf x), ?_, _, rfl⟩
    simp [allEnv, ac, ae]
  · refine ⟨⟨[], [I.integer x.rank]⟩, ?_, [(x.rank : Int)], rfl⟩
    simp [allEnv, ce]
  · exact ⟨axes, allEnv_last, whole⟩

/-! The steps before the core, in it and after it -/

namespace Reduction

variable {r : Reduction} {x : String} {c : Concrete α}

/-- The environment that the operator before the core leaves. -/
def opened (I : Interpretation α) (r : Reduction) (env : Env α) (c : Concrete α) (n : Nat) :
    Env α :=
  match r.opener? with
  | none => env
  | some kind =>
    Function.update env (Graph.resultId (Graph.numbered kind.opType n)) (some (r.before I c))

theorem run_openerOps (n : Nat) (atData : env x = some c) :
    Op.run I env (r.openerOps x n source?) = some (r.opened I env c n) := by
  have square : I.multiply c c = some ⟨c.dims, List.zipWith I.product c.elements c.elements⟩ := by
    simp [Interpretation.multiply]
  cases r
  case logSumExp =>
    have step := run_opOf I env source? .exp n [x] [] []
    simpa [openerOps, opener?, openerInputs, opened, before, atData, Interpretation.apply, Op.run]
      using step
  case sumSquare =>
    have step := run_opOf I env source? .multiply n [x, x] [] []
    simpa [openerOps, opener?, openerInputs, opened, before, atData, Interpretation.apply, square,
      Op.run] using step
  all_goals rfl

theorem opened_preparedId (n : Nat) (atData : env x = some c) :
    r.opened I env c n (r.preparedId x n) = some (r.before I c) := by
  cases r
  case logSumExp => simp [opened, opener?, preparedId]
  case sumSquare => simp [opened, opener?, preparedId]
  all_goals simpa [opened, opener?, preparedId, before] using atData

theorem opened_of_ne (n : Nat) {id : String}
    (other : ∀ kind, r.opener? = some kind →
      id ≠ Graph.resultId (Graph.numbered kind.opType n)) :
    r.opened I env c n id = env id := by
  unfold opened
  cases known : r.opener? with
  | none => rfl
  | some kind => exact Function.update_of_ne (other kind known) _ _

theorem opened_opener {kind : OpKind} (known : r.opener? = some kind) (n : Nat) :
    r.opened I env c n (Graph.resultId (Graph.numbered kind.opType n)) =
      some (r.before I c) := by
  simp [opened, known]

theorem opened_eq_or (r : Reduction) (I : Interpretation α) (env : Env α) (c : Concrete α)
    (n : Nat) (id : String) :
    r.opened I env c n id = env id ∨ r.opened I env c n id = some (r.before I c) := by
  unfold opened
  cases r.opener? with
  | none => exact Or.inl rfl
  | some kind =>
    by_cases same : id = Graph.resultId (Graph.numbered kind.opType n)
    · exact Or.inr (by simp [same])
    · exact Or.inl (Function.update_of_ne same _ _)

theorem opened_range (r : Reduction) (c : Concrete α) (n m : Nat) :
    r.opened I env c n (Graph.resultId (Graph.numbered "Range" m)) =
      env (Graph.resultId (Graph.numbered "Range" m)) := by
  refine opened_of_ne n fun kind known => resultId_ne_of_kind ?_ m n
  cases r <;> cases known <;> decide

theorem opened_numbered (r : Reduction) (c : Concrete α) (stem : String) (n m : Nat) :
    r.opened I env c n (Graph.numbered stem m) = env (Graph.numbered stem m) :=
  opened_of_ne n fun _ _ => (Graph.resultId_ne_numbered _ _ _).symm

theorem result?_closerOps (source? : Option String) (n : Nat) (atCore : env x = some c) :
    Op.result? I env (r.closerOps x n source?) (r.finishedId x n) = some (r.after I c) := by
  have logged := run_opOf I env source? .log n [x] [] []
  cases r
  case logSum =>
    simp only [OpKind.opType] at logged
    simp [Op.result?, closerOps, finishedId, after, logged, atCore, Interpretation.apply, Op.run]
  case logSumExp =>
    simp only [OpKind.opType] at logged
    simp [Op.result?, closerOps, finishedId, after, logged, atCore, Interpretation.apply, Op.run]
  all_goals simpa [Op.result?, closerOps, finishedId, after, Op.run] using atCore

/-- The operators behind those that compute axes. -/
def coreAndSteps (r : Reduction) (keepDims : Bool) (x : String) (axes? : Option String)
    (first middle last : Nat) (source? : Option String) : List Op :=
  r.openerOps x first source? ++ (r.coreOps keepDims (r.preparedId x first) axes? middle source? ++
    r.closerOps (r.reducedId (r.preparedId x first) axes? middle) last source?)

/-- Where they leave the result. -/
def resultIdOf (r : Reduction) (x : String) (axes? : Option String) (first middle last : Nat) :
    String :=
  r.finishedId (r.reducedId (r.preparedId x first) axes? middle) last

theorem result?_of_no_axes (keepDims : Bool) (first middle last : Nat) (atData : env x = some c) :
    Op.result? I env (r.coreAndSteps keepDims x none first middle last source?)
      (r.resultIdOf x none first middle last) = some (r.after I (r.before I c)) := by
  have prepared : r.opened I env c first (r.preparedId x first) = some (r.before I c) :=
    opened_preparedId first atData
  have closed := result?_closerOps (r := r) (I := I) source? last prepared
  simpa [Op.result?, coreAndSteps, resultIdOf, coreOps, reducedId, Op.run_append,
    run_openerOps first atData] using closed

/-- The axes are read after the step before the core. -/
theorem result?_of_axes (keepDims : Bool) (axes : String) (first middle last : Nat)
    (atData : env x = some c) :
    Op.result? I env (r.coreAndSteps keepDims x (some axes) first middle last source?)
      (r.resultIdOf x (some axes) first middle last) =
      ((r.opened I env c first axes).bind
        (I.reduceOver r.kernel keepDims (r.before I c))).map (r.after I) := by
  have prepared : r.opened I env c first (r.preparedId x first) = some (r.before I c) :=
    opened_preparedId first atData
  let out := Graph.resultId (Graph.numbered (OpKind.reduce r.kernel).opType middle)
  have flag : ((Fields.find? [("keep_dims", Value.bool keepDims)] "keep_dims").getD
      (.bool true)).holds = keepDims := by
    simp [Fields.find?, Value.holds]
  have core := run_opOf I (r.opened I env c first) source? (.reduce r.kernel) middle
    [r.preparedId x first, axes] [("keep_dims", .bool keepDims)]
    (r.closerOps out last source?)
  have list : Op.run I env (r.coreAndSteps keepDims x (some axes) first middle last source?) =
      Op.run I (r.opened I env c first) (opOf (OpKind.reduce r.kernel).opType middle
        [r.preparedId x first, axes] [("keep_dims", .bool keepDims)] source? ::
          r.closerOps out last source?) := by
    rw [coreAndSteps, Op.run_append, run_openerOps first atData]
    rfl
  -- without a value of the axes the core has none, and so has the closer
  rw [Op.result?, list, core]
  cases atAxes : r.opened I env c first axes with
  | none => simp [prepared, atAxes]
  | some a =>
    cases reduced : I.reduceOver r.kernel keepDims (r.before I c) a with
    | none => simp [prepared, atAxes, Interpretation.apply, flag, reduced]
    | some y =>
      have atOut : Function.update (r.opened I env c first) out (some y) out = some y :=
        Function.update_self ..
      have closed := result?_closerOps (r := r) (I := I) source? last atOut
      have value : ([r.preparedId x first, axes].mapM (r.opened I env c first)).bind
          (I.apply (.reduce r.kernel) [("keep_dims", .bool keepDims)]) = some y := by
        simp [prepared, atAxes, Interpretation.apply, flag, reduced]
      rw [value, Option.bind_some, Option.bind_some, reduced]
      exact closed

end Reduction

end ReductionIR
