import ReductionIR.Proofs.Atomicity
import ReductionIR.Proofs.Linking
/-
Graphs built step by step. A step enters a tensor or an operator, makes up an id, or lowers a
node. Every step keeps the links exact, as long as tensors come in without links and marks,
nothing is replaced, and operators are new and list what is there.
-/
namespace ReductionIR

/-! Lowered drafts -/

namespace Draft

variable {g : Graph} {operands : List (Option Tensor)} {d : Draft}
  (sound : Sound g (operands.filterMap id) g.counter d)

include sound

theorem Sound.seated_cases {key : String} {t : Tensor}
    (found : (d.seated { g with counter := d.counter }).tensors.find? key = some t) :
    t ∈ d.tensors ∧ t.id = key ∨ g.tensors.find? key = some t ∨
      t ∈ operands.filterMap id ∧ t.id = key := by
  rw [sound.find?_seated, Option.or_eq_some_iff, Option.or_eq_some_iff] at found
  rcases found with drafted | ⟨_, old | ⟨_, noted⟩⟩
  · exact Or.inl (mem_of_drafted? drafted)
  · exact Or.inr (Or.inl old)
  · obtain ⟨named, given | drafted⟩ := sound.operands_known key t noted
    · exact Or.inr (Or.inr ⟨given, named⟩)
    · exact Or.inl ⟨drafted, named⟩

theorem Sound.seated_of_mem {t : Tensor} (member : t ∈ d.tensors) :
    (d.seated { g with counter := d.counter }).tensors.find? t.id = some t := by
  rw [sound.find?_seated, sound.drafted?_of_mem member]
  rfl

variable (linked : g.Linked) (admits : g.Admits (operands.filterMap id))

include linked

theorem Sound.unlinked_of_mem {t : Tensor} (member : t ∈ d.tensors) :
    (g.placement t).Unlinked := by
  obtain ⟨n, above, _, made⟩ := sound.made t member
  have initial : g.placement t = t.initial := by
    rw [Graph.placement, made.origin_eq, linked.ahead n above]
    rfl
  rw [initial]
  cases made <;> exact ⟨rfl, rfl, rfl, rfl⟩

include admits

/-- Origins tell the tensors apart that are there when operands and drafted tensors came in. -/
theorem Sound.numbered_seated : (d.seated { g with counter := d.counter }).Numbered := by
  have counter : (d.seated { g with counter := d.counter }).counter = d.counter := by
    rw [rest_seated]
  -- what was not drafted was there or was handed in
  let Old (t : Tensor) : Prop := g.tensors.find? t.id = some t ∨ t ∈ operands.filterMap id
  have origin_cases : ∀ key t,
      (d.seated { g with counter := d.counter }).tensors.find? key = some t →
        t ∈ d.tensors ∨ Old t := by
    intro key t found
    rcases sound.seated_cases found with ⟨drafted, _⟩ | old | ⟨given, _⟩
    · exact Or.inl drafted
    · exact Or.inr (Or.inl ((linked.keyed key t old).symm ▸ old))
    · exact Or.inr (Or.inr given)
  have old_le : ∀ t, Old t → ∀ n, t.origin = .made n → n ≤ g.counter := by
    intro t old n made
    rcases old with there | given
    · exact linked.number_le t.id t n there made
    · exact admits.number_le t given n made
  have apart : ∀ t ∈ d.tensors, ∀ u, Old u → t.origin ≠ u.origin := by
    intro t drafted u old same
    obtain ⟨n, above, _, made⟩ := sound.made t drafted
    have bound := old_le u old n (same ▸ made.origin_eq)
    omega
  constructor
  · intro a b t u first second same
    rcases origin_cases a t first with drafted | old <;>
      rcases origin_cases b u second with also | other
    · exact List.inj_on_of_nodup_map sound.origins_nodup drafted also same
    · exact absurd same (apart t drafted u other)
    · exact absurd same.symm (apart u also t old)
    · rcases old with there | given
      · rcases other with beside | handed
        · exact linked.told t.id u.id t u there beside same
        · exact (admits.told u handed t (Or.inr there) same.symm).symm
      · exact admits.told t given u other.symm same
  · intro key t n found made
    rw [counter]
    rcases origin_cases key t found with drafted | old
    · obtain ⟨m, _, bound, number⟩ := sound.made t drafted
      rw [Origin.made.inj (made.symm.trans number.origin_eq)]
      exact bound
    · exact Nat.le_trans (old_le t old n made) sound.start_le

/-- Operands and drafted tensors come in without links and marks. -/
theorem Sound.linked_seated
    (kept : ∀ key t, g.tensors.find? key = some t →
      (d.seated { g with counter := d.counter }).tensors.find? key = some t)
    (unlinked : ∀ t ∈ operands.filterMap id, g.tensors.find? t.id = none →
      (d.seated { g with counter := d.counter }).tensors.find? t.id = some t →
      (g.placement t).Unlinked) :
    (d.seated { g with counter := d.counter }).Linked := by
  have numbered := sound.numbered_seated linked admits
  refine linked.extend (by rw [rest_seated]) (by rw [rest_seated]) (by rw [rest_seated]) kept
    ?_ ?_ numbered ?_
  · intro key u found
    rw [seated, placement_foldl_addDrafted, rest_foldl_addOperand]
    · rfl
    · intro t member same
      exact numbered.told t.id key t u (sound.seated_of_mem member) found same
  · intro key t found absent
    rcases sound.seated_cases found with ⟨drafted, named⟩ | old | ⟨given, named⟩
    · exact ⟨named, sound.unlinked_of_mem linked drafted⟩
    · cases old.symm.trans absent
    · subst named
      exact ⟨rfl, unlinked t given absent found⟩
  · intro n beyond
    have counter : (d.seated { g with counter := d.counter }).counter = d.counter := by
      rw [rest_seated]
    rw [counter] at beyond
    rw [seated, find?_placements_foldl_addDrafted, rest_foldl_addOperand]
    · exact linked.ahead n (Nat.lt_of_le_of_lt sound.start_le beyond)
    · intro t member same
      obtain ⟨m, _, bound, made⟩ := sound.made t member
      rw [Origin.made.inj (made.origin_eq.symm.trans same)] at bound
      omega

/-- The operators of a draft list what came in with it, or was there. -/
theorem Sound.linked_attach
    (kept : ∀ key t, g.tensors.find? key = some t →
      (d.attach { g with counter := d.counter }).tensors.find? key = some t)
    (unlinked : ∀ t ∈ operands.filterMap id, g.tensors.find? t.id = none →
      (d.attach { g with counter := d.counter }).tensors.find? t.id = some t →
      (g.placement t).Unlinked) :
    (d.attach { g with counter := d.counter }).Linked := by
  rw [tensors_attach] at kept unlinked
  have seated := sound.linked_seated linked admits kept unlinked
  rw [attach_eq]
  refine seated.foldl_addNode sound.opIds_nodup ?_ ?_
  · intro op drafted
    obtain ⟨n, _, _, new⟩ := sound.newOps op drafted
    rw [rest_seated]
    exact ((Graph.isTaken_eq_false_iff g op.id).mp new.free).2
  · intro op drafted key listed
    rcases List.mem_append.mp listed with read | written
    · obtain ⟨t, noted⟩ := Option.isSome_iff_exists.mp (sound.operands_cover op drafted key read)
      rw [Table.contains, sound.find?_seated, noted]
      cases d.drafted? key <;> cases g.tensors.find? key <;> rfl
    · obtain ⟨t, member, _, outputs⟩ := sound.find?_result drafted
      rw [outputs] at written
      obtain rfl := List.mem_singleton.mp written
      exact Table.contains_of_find? (sound.seated_of_mem member)

end Draft

/-! Steps -/

/-- What a caller may do to a graph. -/
inductive Edit
  | input (t : Tensor)
  | output (t : Tensor)
  | constant (t : Tensor)
  | tensor (t : Tensor)
  | node (op : Op)
  | fresh (stem : String)
  | lower (source : SourceNode) (operands : List (Option Tensor))

namespace Edit

/-- The tensors that are handed in. -/
def handed : Edit → List Tensor
  | input t | output t | constant t | tensor t => [t]
  | node _ | fresh _ => []
  | lower _ operands => operands.filterMap id

/-- A lowering that fails leaves the graph it ends with. -/
def apply (g : Graph) : Edit → Graph
  | input t => g.addInput t
  | output t => g.addOutput t
  | constant t => g.addConstant t
  | tensor t => g.addTensor t
  | node op => g.addNode op
  | fresh stem => (g.freshId stem).2
  | lower source operands => (lowerNode .standard source operands g).2

/-- A step that replaces no tensor: what it enters is without links and marks, and an operator is
    new and lists ids that are in use. -/
structure Fits (edit : Edit) (g : Graph) : Prop where
  admits : g.Admits edit.handed
  kept : ∀ id t, g.tensors.find? id = some t → (edit.apply g).tensors.find? id = some t
  unlinked : ∀ t ∈ edit.handed, g.tensors.find? t.id = none →
    (edit.apply g).tensors.find? t.id = some t → (g.placement t).Unlinked
  known : ∀ op, edit = node op → g.ops.find? op.id = none ∧
    ∀ id ∈ op.inputs ++ op.outputs, g.tensors.contains id = true

variable {g : Graph}

theorem counter_le (edit : Edit) (g : Graph) : g.counter ≤ (edit.apply g).counter := by
  cases edit with
  | input t => exact Nat.le_refl _
  | output t => exact Nat.le_refl _
  | constant t => exact Nat.le_refl _
  | tensor t => exact Nat.le_refl _
  | node op =>
    rw [apply, Graph.rest_addNode]
  | fresh stem => exact Nat.le_of_lt (Graph.counter_lt_freeNumber g stem g.counter)
  | lower source operands =>
    rw [apply]
    cases lowered : lowerNode .standard source operands g with
    | mk result g' =>
      cases result with
      | ok outputs =>
        obtain ⟨t, d, _, sound, _, rfl⟩ := lowerNode_sound lowered
        rw [Draft.counter_attach]
        exact sound.start_le
      | error fault =>
        obtain ⟨⟨n, above, rfl⟩, _⟩ := lowerNode_eq_error lowered
        exact above

theorem linked_of_entering (linked : g.Linked) {edit : Edit} (fits : edit.Fits g) {t : Tensor}
    (handed : edit.handed = [t]) (tensors : (edit.apply g).tensors = g.tensors.insert t.id t) :
    (g.addTensor t).Linked := by
  have stands : (edit.apply g).tensors.find? t.id = some t := by
    rw [tensors, Table.find?_insert_self]
  refine linked.addTensor (handed ▸ fits.admits) ?_ ?_
  · intro u found
    exact Option.some.inj ((fits.kept t.id u found).symm.trans stands)
  · intro absent
    refine fits.unlinked t ?_ absent stands
    rw [handed]
    exact List.mem_singleton_self t

/-- A node whose operands are tensors of the graph may be lowered when no result gets an id in
    use. -/
theorem fits_lower (linked : g.Linked) {source : SourceNode} {operands : List (Option Tensor)}
    (owns : g.Owns operands)
    (free : ∀ op ∈ ((lower source operands).apply g).opsSince g,
      g.isTaken (Graph.resultId op.id) = false) : (lower source operands).Fits g where
  admits := linked.admits fun _ member => Draft.owned_of_present owns member
  kept := by
    intro id t found
    rw [apply] at free ⊢
    cases lowered : lowerNode .standard source operands g with
    | mk result g' =>
      rw [lowered] at free
      cases result with
      | ok outputs =>
        obtain ⟨_, d, _, sound, _, rfl⟩ := lowerNode_sound lowered
        rw [sound.opsSince_attach] at free
        rw [Draft.tensors_attach]
        exact sound.find?_seated_of_unclashed free found
      | error fault =>
        obtain ⟨⟨n, _, rfl⟩, _⟩ := lowerNode_eq_error lowered
        exact found
  unlinked := by
    intro t member absent
    cases (Draft.owned_of_present owns member).symm.trans absent
  known := fun _ same => nomatch same

theorem fits_node (linked : g.Linked) {op : Op} (new : g.ops.find? op.id = none)
    (known : ∀ id ∈ op.inputs ++ op.outputs, g.tensors.contains id = true) :
    (node op).Fits g where
  admits := linked.admits fun _ member => nomatch member
  kept := by
    intro id t found
    rw [apply, Graph.tensors_addNode]
    exact found
  unlinked := fun _ member => nomatch member
  known := by
    rintro _ ⟨⟩
    exact ⟨new, known⟩

/-- Every step keeps the links exact. -/
theorem Fits.linked {edit : Edit} (fits : edit.Fits g) (linked : g.Linked) :
    (edit.apply g).Linked := by
  cases edit with
  | input t =>
    have entered := linked_of_entering linked fits rfl rfl
    have own : (g.addTensor t).tensors.find? t.id = some t := Table.find?_insert_self ..
    have marked : Graph.Remarked (g.addTensor t) (g.addInput t) t
        { g.placement t with isInput := true } := ⟨rfl, rfl, rfl, rfl, rfl, rfl⟩
    exact entered.remark own marked (entered.inputs.join entered own marked rfl)
      (entered.outputs.stay entered own marked rfl)
  | output t =>
    have entered := linked_of_entering linked fits rfl rfl
    have own : (g.addTensor t).tensors.find? t.id = some t := Table.find?_insert_self ..
    have marked : Graph.Remarked (g.addTensor t) (g.addOutput t) t
        { g.placement t with isOutput := true } := ⟨rfl, rfl, rfl, rfl, rfl, rfl⟩
    exact entered.remark own marked (entered.inputs.stay entered own marked rfl)
      (entered.outputs.join entered own marked rfl)
  | constant t =>
    have entered := linked_of_entering linked fits rfl rfl
    have own : (g.addTensor t).tensors.find? t.id = some t := Table.find?_insert_self ..
    have marked : Graph.Remarked (g.addTensor t) (g.addConstant t) t
        { g.placement t with isInitializer := true } := ⟨rfl, rfl, rfl, rfl, rfl, rfl⟩
    exact entered.remark own marked (entered.inputs.stay entered own marked rfl)
      (entered.outputs.stay entered own marked rfl)
  | tensor t => exact linked_of_entering linked fits rfl rfl
  | node op =>
    obtain ⟨new, known⟩ := fits.known op rfl
    exact linked.addNode new known
  | fresh stem => exact linked.raise (Nat.le_of_lt (Graph.counter_lt_freeNumber g stem g.counter))
  | lower source operands =>
    have admits := fits.admits
    have kept := fits.kept
    have unlinked := fits.unlinked
    rw [apply] at kept unlinked ⊢
    cases lowered : lowerNode .standard source operands g with
    | mk result g' =>
      rw [lowered] at kept unlinked
      cases result with
      | ok outputs =>
        obtain ⟨t, d, _, sound, _, rfl⟩ := lowerNode_sound lowered
        exact sound.linked_attach linked admits kept unlinked
      | error fault =>
        obtain ⟨⟨n, above, rfl⟩, _⟩ := lowerNode_eq_error lowered
        exact linked.raise above

end Edit

/-- The graphs that steps lead to from the empty one. -/
inductive Graph.Run (name : String) : Graph → Prop
  | start : Run name { name }
  | step {g : Graph} {edit : Edit} (run : Run name g) (fits : edit.Fits g) :
      Run name (edit.apply g)

theorem Graph.Run.linked {name : String} {g : Graph} (run : Run name g) : g.Linked := by
  induction run with
  | start => exact linked_empty name
  | step _ fits ih => exact fits.linked ih

/-- Links are exact over whole runs, nothing dangles, and no step takes the counter back. -/
theorem links_are_exact_over_runs (name : String) (g : Graph) (run : Graph.Run name g) :
    g.Exact ∧ g.validate = .ok () ∧ ∀ edit : Edit, g.counter ≤ (edit.apply g).counter := by
  have linked := run.linked
  refine ⟨linked.toExact, linked.validate_eq, ?_⟩
  intro edit
  exact edit.counter_le g

/-- A matrix that a caller hands in. -/
def handedMatrix : Tensor :=
  { dtype := .float32, shape := .ranked [.known 2, .known 3], data := none, origin := .given 0,
    id := "x", name := "x" }

theorem handedMatrix_fits : (Edit.input handedMatrix).Fits { name := "g" } where
  admits := by
    constructor
    · intro t member u known _
      rcases known with also | found
      · rw [List.mem_singleton.mp member, List.mem_singleton.mp also]
      · cases found
    · intro t member n made
      rw [List.mem_singleton.mp member] at made
      cases made
  kept := fun _ _ found => nomatch found
  unlinked := by
    intro t member _ _
    rw [List.mem_singleton.mp member]
    exact ⟨rfl, rfl, rfl, rfl⟩
  known := fun _ same => nomatch same

/-- A run that lowers a sum, and a step that writes to its result. -/
theorem summed_matrix_is_linked : ∃ g, Graph.Run "g" g ∧ g.Exact ∧ g.validate = .ok () ∧
    g.ops.keys = ["ReduceSum_2", "again"] ∧ g.lastWriter? "ReduceSum_2:0" = some "again" := by
  let first : Graph := Graph.addInput { name := "g" } handedMatrix
  let sum : Edit := .lower { opType := "ReduceSum", opset := 1 } [some handedMatrix]
  let again : Op := { id := "again", opType := "Exp", inputs := ["x"], outputs := ["ReduceSum_2:0"] }
  have entered : Graph.Run "g" first := .step .start handedMatrix_fits
  have owns : first.Owns [some handedMatrix] := by
    intro t member
    cases List.mem_singleton.mp member
    rfl
  have summed : Graph.Run "g" (sum.apply first) :=
    .step entered (Edit.fits_lower entered.linked owns (by decide +kernel))
  have ended : Graph.Run "g" ((Edit.node again).apply (sum.apply first)) :=
    .step summed (Edit.fits_node summed.linked (by decide +kernel) (by decide +kernel))
  obtain ⟨exact, valid, _⟩ := links_are_exact_over_runs "g" _ ended
  exact ⟨_, ended, exact, valid, by decide +kernel, by decide +kernel⟩

end ReductionIR
