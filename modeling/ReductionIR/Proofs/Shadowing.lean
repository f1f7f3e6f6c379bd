import ReductionIR.Proofs.Meaning
/-
When a lowering computes something else. Results are stored under ids that are not tested for
freshness, so a result may take the place of the data or of run-time axes. Tensors whose
elements are integers or blank then tell the difference.
-/
namespace ReductionIR

open Draft

namespace Interpretation

variable {α : Type} {I : Interpretation α} {f : Option Int → Option Int}

/-- Elements that are integers or blank. The steps do as a function says, and reductions leave
    a tensor as it is. -/
def probe (f : Option Int → Option Int) : Interpretation (Option Int) where
  exp := f
  log := id
  product a _ := f a
  reduce _ _ _ x := x
  literal := Attribute.intItem?
  integer? := id
  integer?_literal _ := rfl

/-- What a probe sees of an environment. -/
def seen (I : Interpretation α) (env : Env α) : Env (Option Int) :=
  fun id => (env id).map fun c => c.map I.integer?

theorem integers?_seen (c : Concrete α) :
    (probe f).integers? (c.map I.integer?) = I.integers? c := by
  simp only [integers?, Concrete.map, List.mapM_map]
  rfl

theorem stored_seen (data : Dense) : (probe f).stored data = (I.stored data).map I.integer? := by
  simp [stored, Concrete.map, probe, Function.comp_def, I.integer?_literal]

theorem constant?_seen (g : Graph) (id : String) :
    g.constant? (probe f) id = (g.constant? I id).map fun c => c.map I.integer? := by
  unfold Graph.constant?
  cases g.tensors.find? id with
  | none => rfl
  | some t => cases known : t.data <;> simp [known, stored_seen (I := I)]

theorem fits_seen {t : Tensor} {a : Concrete α} (fits : t.Fits I a) :
    t.Fits (probe f) (a.map I.integer?) where
  shape_eq := fits.shape_eq
  filled := by simpa [Concrete.map] using fits.filled
  data_eq := by
    intro data known
    rw [fits.data_eq data known, stored_seen]

theorem axes?_seen (reading : Reading) (rank : Nat) (a : Option (Concrete α)) :
    reading.axes? (probe f) rank (a.map fun c => c.map I.integer?) = reading.axes? I rank a := by
  cases reading with
  | operand => cases a <;> simp [Reading.axes?, integers?_seen]
  | _ => rfl

theorem meaning?_probe_id (r : Reduction) (keepDims : Bool) (reading : Reading)
    (x : Concrete (Option Int)) (axes : Option (Concrete (Option Int))) :
    r.meaning? (probe id) keepDims reading x axes =
      (reading.axes? (probe id) x.rank axes).map fun _ => x := by
  have square : List.zipWith (probe id).product x.elements x.elements = x.elements := by
    induction x.elements with
    | nil => rfl
    | cons b rest ih => rw [List.zipWith_cons_cons, ih]; rfl
  have same : ∀ named, r.after (probe id) (r.core (probe id) keepDims named
      (r.before (probe id) x)) = x := by
    intro named
    cases r <;> cases named <;>
      simp [Reduction.after, Reduction.core, Reduction.before, Concrete.map, probe]
  simp only [Reduction.meaning?, same]

theorem integers?_before_lost {r : Reduction} {kind : OpKind} (known : r.opener? = some kind)
    {x : Concrete (Option Int)} (filled : x.elements ≠ []) :
    (probe fun _ => none).integers? (r.before (probe fun _ => none) x) = none := by
  obtain ⟨b, rest, elements⟩ := List.exists_cons_of_ne_nil filled
  cases r
  case logSumExp => simp [Reduction.before, integers?, Concrete.map, elements, probe]
  case sumSquare => simp [Reduction.before, integers?, elements, probe]
  all_goals contradiction

/-- A tensor of a rank with one element, which is blank. -/
def blank (rank : Nat) : Concrete (Option Int) := ⟨List.replicate rank 1, [none]⟩

theorem rank_blank (rank : Nat) : (blank rank).rank = rank := List.length_replicate ..

theorem integers?_blank (rank : Nat) : (probe f).integers? (blank rank) = none := rfl

theorem scalar?_blank (rank : Nat) : (blank rank).scalar?.bind (probe f).integer? = none := by
  cases rank <;> rfl

theorem range_blank (rank : Nat) (stop step : Concrete (Option Int)) :
    (probe f).range (blank rank) stop step = none := by
  simp [range, scalar?_blank]

theorem range_by_blank (rank : Nat) (start stop : Concrete (Option Int)) :
    (probe f).range start stop (blank rank) = none := by
  simp [range, scalar?_blank]

theorem not_integral_blank (rank : Nat) : ¬ (probe f).Integral (blank rank) := by
  rintro ⟨ns, elements⟩
  cases ns with
  | nil => contradiction
  | cons n rest =>
    rw [List.map_cons, blank, List.cons.injEq] at elements
    exact absurd elements.1 (by simp [integer, probe, Attribute.intItem?])

end Interpretation

namespace LoweredNode

open Interpretation

variable {s : LoweredNode} {α : Type} {I : Interpretation α} {env : Env α} {x y : Concrete α}
  {f : Option Int → Option Int}

theorem Feeds.seen (feeds : s.Feeds I env x) :
    s.Feeds (probe f) (I.seen env) (x.map I.integer?) where
  atData := by simp [Interpretation.seen, feeds.atData]
  rank_eq := feeds.rank_eq
  atAxes := by
    intro t read
    obtain ⟨a, there, fits⟩ := feeds.atAxes t read
    exact ⟨a.map I.integer?, by simp [Interpretation.seen, there], fits_seen fits⟩
  constants := by
    intro id other apart c constant
    rw [constant?_seen (I := I)] at constant
    obtain ⟨b, known, rfl⟩ := Option.map_eq_some_iff.mp constant
    simp [Interpretation.seen, feeds.constants id other apart b known]

/-- What a probe sees when the data is blank. -/
def blanked (s : LoweredNode) (I : Interpretation α) (env : Env α) (rank : Nat) :
    Env (Option Int) :=
  Function.update (I.seen env) s.data.id (some (blank rank))

/-- The data may be blank, unless it is where the axes are. -/
theorem Feeds.blanked (feeds : s.Feeds I env x)
    (apart : ∀ t, s.axes? = some t → t.id ≠ s.data.id) :
    s.Feeds (probe f) (s.blanked I env x.rank) (blank x.rank) where
  atData := Function.update_self ..
  rank_eq := by
    intro rank known
    rw [rank_blank, feeds.rank_eq rank known]
  atAxes := by
    intro t read
    rw [LoweredNode.blanked, Function.update_of_ne (apart t read)]
    exact feeds.seen.atAxes t read
  constants := by
    intro id other unread c constant
    rw [LoweredNode.blanked, Function.update_of_ne other]
    exact feeds.seen.constants id other unread c constant

theorem meaning?_seen (means : s.meaning? I env x = some y) (env' : Env (Option Int))
    (x' : Concrete (Option Int)) (same : x'.rank = x.rank)
    (axes : ∀ t, s.axes? = some t → env' t.id = I.seen env t.id) :
    ∃ y', s.meaning? (probe f) env' x' = some y' := by
  obtain ⟨named, known, _⟩ := Option.map_eq_some_iff.mp means
  have read : (s.axes?.bind fun t => env' t.id) =
      (s.axes?.bind fun t => env t.id).map fun c => c.map I.integer? := by
    cases there : s.axes? with
    | none => rfl
    | some t => exact axes t there
  rw [← Option.isSome_iff_exists, meaning?, Reduction.meaning?, read, same, axes?_seen, known]
  rfl

theorem Preserved.on_blank (preserved : s.Preserved) (feeds : s.Feeds I env x)
    (means : s.meaning? I env x = some y)
    (apart : ∀ t, s.axes? = some t → t.id ≠ s.data.id) :
    ∃ y', s.meaning? (probe f) (s.blanked I env x.rank) (blank x.rank) = some y' ∧
      Op.result? (probe f) (s.blanked I env x.rank) s.ops s.out.id = some y' := by
  obtain ⟨y', expected⟩ := meaning?_seen (f := f) means (s.blanked I env x.rank) (blank x.rank)
    (rank_blank x.rank) fun t read => Function.update_of_ne (apart t read) _ _
  exact ⟨y', expected, preserved _ _ _ _ _ (feeds.blanked apart) expected⟩

/-- What is computed on some data with elements, when run-time axes are not data without. -/
theorem Preserved.on_elements {t : Tensor} (preserved : s.Preserved) (feeds : s.Feeds I env x)
    (means : s.meaning? I env x = some y) (read : s.axes? = some t)
    (unlike : ¬ (s.data.id = t.id ∧ ∃ dims, t.shape = .ranked dims ∧ Dim.known 0 ∈ dims)) :
    ∃ env' x' y', env' s.data.id = some x' ∧ x'.elements ≠ [] ∧
      Op.result? (probe f) env' s.ops s.out.id = some y' := by
  -- axes apart from the data may see blank data; else the data are the axes, and not empty
  by_cases apart : t.id = s.data.id
  · obtain ⟨a, atAxes, fits⟩ := feeds.atAxes t read
    obtain rfl : x = a := by
      rw [apart, feeds.atData] at atAxes
      exact Option.some.inj atAxes
    have fed : s.Feeds (probe f) (I.seen env) (x.map I.integer?) := feeds.seen
    obtain ⟨y', expected⟩ := meaning?_seen (f := f) means (I.seen env) (x.map I.integer?) rfl
      fun _ _ => rfl
    refine ⟨_, _, y', fed.atData, ?_, preserved _ _ _ _ _ fed expected⟩
    intro empty
    have none_left : x.dims.prod = 0 := by
      rw [← fits.filled]
      simpa [Concrete.map] using empty
    obtain ⟨n, member, zero⟩ := List.prod_eq_zero_iff_exists_zero_nat.mp none_left
    subst zero
    exact unlike ⟨apart.symm, _, fits.shape_eq,
      List.mem_map_of_mem (List.mem_map_of_mem member)⟩
  · have others : ∀ u, s.axes? = some u → u.id ≠ s.data.id := by
      intro u also
      rw [read] at also
      cases also
      exact apart
    obtain ⟨y', _, computed⟩ := preserved.on_blank (f := f) feeds means others
    exact ⟨_, blank x.rank, y', Function.update_self .., by simp [blank], computed⟩

variable {operand? : Option Tensor} {d : Draft} {axesId? : Option String}
  {first middle last : Nat} {source? : Option String}

/-- Data in place of constant axes stops the reduction. -/
theorem Built.unshadowed_of_constant {stem : String} {n : Nat}
    (built : s.Built operand? d [] (some (Graph.numbered stem n)) first middle last source?)
    (unread : s.axes? = none) (preserved : s.Preserved) (feedable : s.Feedable) :
    s.Unshadowed := by
  obtain ⟨α, I, env, x, y, feeds, means⟩ := feedable
  unfold Unshadowed
  rw [unread]
  intro clash
  have same : s.data.id = Graph.numbered stem n := by
    simpa [built.ops_eq, axesIds_coreAndSteps] using clash
  obtain ⟨y', _, computed⟩ := preserved.on_blank (f := id) feeds means (by simp [unread])
  have atData : s.blanked I env x.rank s.data.id = some (blank x.rank) := Function.update_self ..
  have nothing : Op.run (probe id) (s.blanked I env x.rank) [] = some _ := rfl
  rw [built.result?_of_axes nothing atData, Reduction.opened_numbered, ← same, atData,
    Option.bind_some, Reduction.meaning?, Reading.axes?, Option.bind_some,
    integers?_blank] at computed
  contradiction

/-- Data in place of anything on the way to all axes stops the range or becomes a tensor of
    integers. -/
theorem Built.unshadowed_of_all {lengths rank stop start step end_ : Nat}
    (ordered : lengths < rank)
    (built : s.Built operand? d (Axes.allOps s.data.id lengths rank stop start step end_ source?)
      (some (Graph.resultId (Graph.numbered "Range" end_))) first middle last source?)
    (lower : d.Holds "range_start" start (Axes.scalarOf 0))
    (width : d.Holds "range_step" step (Axes.scalarOf 1))
    (unread : s.axes? = none) (preserved : s.Preserved) (feedable : s.Feedable) :
    s.Unshadowed := by
  obtain ⟨α, I, env, x, y, feeds, means⟩ := feedable
  obtain ⟨y', expected, computed⟩ := preserved.on_blank (f := id) feeds means (by simp [unread])
  have fed := feeds.blanked (f := id) (by simp [unread])
  obtain rfl : blank x.rank = y' := by
    rw [meaning?, meaning?_probe_id] at expected
    obtain ⟨_, _, same⟩ := Option.map_eq_some_iff.mp expected
    exact same
  unfold Unshadowed
  rw [unread]
  intro clash
  have run := run_allOps (I := probe id) lengths rank stop start step end_ source? fed.atData
  have stopped : Op.run (probe id) (s.blanked I env x.rank)
      (Axes.allOps s.data.id lengths rank stop start step end_ source?) ≠ none := by
    intro failed
    rw [built.ops_eq, Op.result?, Op.run_append, failed] at computed
    contradiction
  -- Otherwise the bounds of the range are blank.
  have atStart : s.data.id ≠ Graph.numbered "range_start" start := by
    intro same
    rw [← same, fed.atData, Option.bind_some] at run
    simp only [range_blank, Option.bind_fun_none, Option.map_none] at run
    exact stopped run
  have atStep : s.data.id ≠ Graph.numbered "range_step" step := by
    intro same
    rw [← same, fed.atData] at run
    simp only [range_by_blank, Option.bind_some, Option.bind_fun_none, Option.map_none] at run
    exact stopped run
  have lowest := fed.constants _ (Ne.symm atStart) (by simp [unread]) _
    (built.held _ (probe id) _ _ _ lower)
  have unit := fed.constants _ (Ne.symm atStep) (by simp [unread]) _
    (built.held _ (probe id) _ _ _ width)
  simp only [lowest, unit, Option.bind_some, stored_scalarOf, range_all, Option.map_some] at run
  have inside : s.data.id ∈ allIds lengths rank stop end_ := by
    simp only [built.ops_eq, List.flatMap_append, axesIds_allOps, axesIds_coreAndSteps,
      Option.toList_some, List.mem_append, List.mem_cons, List.not_mem_nil, or_false, atStart,
      atStep, false_or] at clash
    simp only [allIds, List.mem_cons, List.not_mem_nil, or_false]
    tauto
  obtain ⟨c, atData, whole⟩ := integral_allEnv (s.blanked I env x.rank) (blank x.rank) ordered
    (integral_vector (probe id) _) inside
  rw [built.result?_of_axes run atData, Reduction.opened_range, allEnv_last, Option.bind_some,
    meaning?_probe_id] at computed
  obtain ⟨_, _, rfl⟩ := Option.map_eq_some_iff.mp computed
  exact not_integral_blank _ whole

/-- Run-time axes in place of an elementwise result are lost. -/
theorem Built.unshadowed_of_given {t : Tensor}
    (built : s.Built operand? d [] (some t.id) first middle last source?) (read : s.axes? = some t)
    (preserved : s.Preserved) (feedable : s.Feedable) : s.Unshadowed := by
  obtain ⟨α, I, env, x, y, feeds, means⟩ := feedable
  by_contra clash
  unfold Unshadowed at clash
  rw [read] at clash
  obtain ⟨taken, unlike⟩ := not_or.mp clash
  obtain ⟨kind, opener, same⟩ : ∃ kind, s.reduction.opener? = some kind ∧
      Graph.resultId (Graph.numbered kind.opType first) = t.id := by
    simpa [built.ops_eq, stepIds_coreAndSteps] using taken
  obtain ⟨env', x', y', atData, filled, computed⟩ :=
    preserved.on_elements (f := fun _ => none) feeds means read unlike
  have nothing : Op.run (probe fun _ => none) env' [] = some _ := rfl
  rw [built.result?_of_axes nothing atData, ← same, Reduction.opened_opener opener,
    Option.bind_some, Reduction.meaning?, Reading.axes?, Option.bind_some,
    integers?_before_lost opener filled] at computed
  contradiction

/-- A lowering that preserves the meaning of its node, if there is one, has no operand in the
    way. -/
theorem Built.unshadowed {ops : List Op}
    (built : s.Built operand? d ops axesId? first middle last source?)
    (preserved : s.Preserved) (feedable : s.Feedable) : s.Unshadowed := by
  have parts := built.parts
  have axes := built.axes_eq
  generalize s.reading = reading at parts axes
  cases parts with
  | untouched =>
    unfold Unshadowed
    rw [axes]
    simp [Reading.source?, built.ops_eq, axesIds_coreAndSteps]
  | fixed holds => exact built.unshadowed_of_constant axes preserved feedable
  | ranked known holds => exact built.unshadowed_of_constant axes preserved feedable
  | synthesized ordered lower width =>
    exact built.unshadowed_of_all ordered lower width axes preserved feedable
  | given there known =>
    exact built.unshadowed_of_given (axes.trans there) preserved feedable

end LoweredNode

/-- A lowering preserves the meaning of its node exactly when no operand is in the way, or when
    the node means nothing on any tensors. -/
theorem lowering_preserves_iff_unshadowed (node : SourceNode) (operands : List (Option Tensor))
    (g g' : Graph) (outputs : List Tensor)
    (done : lowerNode .standard node operands g = (.ok outputs, g')) :
    ∃ s : LoweredNode, s.Describes node operands g outputs g' ∧
      (s.Preserved ↔ (s.Feedable → s.Unshadowed)) := by
  obtain ⟨s, describes, d, ops, axesId?, first, middle, last, source?, _, built⟩ :=
    LoweredNode.built_of_lowered done
  refine ⟨s, describes, built.unshadowed, ?_⟩
  intro clear α I env x y feeds means
  rw [built.result?_eq feeds (clear ⟨α, I, env, x, y, feeds, means⟩), means]

/-- A sum over all axes. -/
def plainSum : SourceNode := { opType := "ReduceSum", opset := 1 }

/-- A tensor of unknown rank. -/
def unranked (id : String) : Tensor :=
  { dtype := .float32, shape := .unknownRank, data := none, origin := .given 0, id, name := id }

def unrankedGraph (id : String) : Graph := Graph.addInput { name := "g" } (unranked id)

/-- The lowering of a sum over all axes of an input. -/
def sumOf (id : String) : Except Fault (List Tensor) × Graph :=
  lowerNode .standard plainSum [some (unranked id)] (unrankedGraph id)

theorem sumOf_eq (id : String) (fine : (sumOf id).1.toOption.map List.length = some 1) :
    ∃ out g', lowerNode .standard plainSum [some (unranked id)] (unrankedGraph id) =
      (.ok [out], g') ∧ (sumOf id).2 = g' := by
  change ∃ out g', sumOf id = (.ok [out], g') ∧ (sumOf id).2 = g'
  generalize sumOf id = lowered at fine
  obtain ⟨outcome, g'⟩ := lowered
  cases outcome with
  | error fault => contradiction
  | ok outputs =>
    obtain ⟨out, rfl⟩ := List.length_eq_one_iff.mp (Option.some.inj fine)
    exact ⟨out, g', rfl, rfl⟩

/-- A sum over all axes that was lowered. -/
def loweredSum (id : String) (out : Tensor) (g' : Graph) : LoweredNode :=
  { reduction := .sum, keepDims := true, reading := .all, data := unranked id, axes? := none, out,
    graph := g', ops := g'.opsSince (unrankedGraph id) }

/-- The input as a blank matrix. -/
def blankInput (id : String) (g' : Graph) : Env (Option Int) := fun key =>
  if key = id then some (Interpretation.blank 2)
  else g'.constant? (Interpretation.probe fun b => b) key

/-- Under the name that the result with its lengths gets, the sum reads the lengths of the
    input, and these have too few axes. -/
theorem lengths_take_the_place_of_data : ∃ out g',
    lowerNode .standard plainSum [some (unranked "ShapeOf_1:0")]
      (unrankedGraph "ShapeOf_1:0") = (.ok [out], g') ∧
    ∃ s : LoweredNode,
      s.Describes plainSum [some (unranked "ShapeOf_1:0")] (unrankedGraph "ShapeOf_1:0") [out] g' ∧
      ∃ (I : Interpretation (Option Int)) (env : Env (Option Int)) (x : Concrete (Option Int)),
        s.Feeds I env x ∧ s.meaning? I env x = some x ∧
        Op.result? I env s.ops s.out.id = none := by
  have stopped : (Op.run (Interpretation.probe fun b => b)
      (blankInput "ShapeOf_1:0" (sumOf "ShapeOf_1:0").2)
      ((sumOf "ShapeOf_1:0").2.opsSince (unrankedGraph "ShapeOf_1:0"))).isNone = true := by
    decide +kernel
  obtain ⟨out, g', lowered, same⟩ := sumOf_eq "ShapeOf_1:0" (by decide +kernel)
  rw [same] at stopped
  refine ⟨out, g', lowered, loweredSum "ShapeOf_1:0" out g', ?_,
    Interpretation.probe fun b => b, blankInput "ShapeOf_1:0" g', Interpretation.blank 2,
    ?_, ?_, ?_⟩
  · exact {
      operator_eq := rfl
      keepDims_eq := ⟨1, rfl, rfl⟩
      reading_eq := rfl
      data_eq := rfl
      axes_eq := rfl
      outputs_eq := rfl
      graph_eq := rfl
      ops_eq := rfl }
  · exact {
      atData := if_pos rfl
      rank_eq := fun _ known => nomatch known
      atAxes := fun _ read => nomatch read
      constants := by
        intro key other _ c constant
        exact (if_neg other).trans constant }
  · exact Interpretation.meaning?_probe_id .sum true .all (Interpretation.blank 2) none
  · rw [Op.result?, loweredSum, Option.isNone_iff_eq_none.mp stopped]
    rfl

/-- Under another name the input is summed. -/
theorem other_name_is_summed : ∃ out g',
    lowerNode .standard plainSum [some (unranked "x")] (unrankedGraph "x") = (.ok [out], g') ∧
    ∃ s : LoweredNode,
      s.Describes plainSum [some (unranked "x")] (unrankedGraph "x") [out] g' ∧ s.Preserved := by
  have clear : (unranked "x").id ∉
      ((sumOf "x").2.opsSince (unrankedGraph "x")).flatMap Op.axesIds := by
    decide +kernel
  obtain ⟨out, g', lowered, same⟩ := sumOf_eq "x" (by decide +kernel)
  rw [same] at clear
  obtain ⟨s, describes, whenever⟩ := lowering_preserves_iff_unshadowed plainSum
    [some (unranked "x")] (unrankedGraph "x") _ _ lowered
  refine ⟨out, g', lowered, s, describes, whenever.mpr fun _ => ?_⟩
  have unread : s.axes? = none := by
    rw [describes.axes_eq]
    cases s.reading <;> rfl
  have named : s.data = unranked "x" := (Option.some.inj describes.data_eq).symm
  unfold LoweredNode.Unshadowed
  rw [unread, describes.ops_eq, named]
  exact clear

end ReductionIR
