import Mathlib.Data.List.Nodup
import ReductionIR.Proofs.Drafting
/-
What committing a draft does to a graph. The operators go to the end of their table; an id
stands for what was drafted under it, else for what it stood for, else for an operand; and
links change only at tensors that the new operators name.
-/
namespace ReductionIR

/-! Drafted tensors under their ids -/

namespace Draft

/-- What was drafted under an id. -/
def drafted? (d : Draft) (id : String) : Option Tensor := d.tensors.find? (·.id == id)

theorem mem_of_drafted? {d : Draft} {id : String} {t : Tensor}
    (found : d.drafted? id = some t) : t ∈ d.tensors ∧ t.id = id := by
  refine ⟨List.mem_of_find?_eq_some found, ?_⟩
  simpa using List.find?_some found

variable {g : Graph} {given : List Tensor} {start : Nat} {d : Draft}

theorem Sound.ids_nodup (sound : Sound g given start d) : (d.tensors.map Tensor.id).Nodup := by
  rw [List.Nodup, List.pairwise_map]
  refine sound.numbers.imp_of_mem ?_
  intro s t drafted also smaller same
  obtain ⟨m, _, _, first⟩ := sound.made s drafted
  obtain ⟨n, _, _, second⟩ := sound.made t also
  have less := smaller m n first second
  have equal := first.number_eq_of_id_eq second same
  omega

theorem Sound.origins_nodup (sound : Sound g given start d) :
    (d.tensors.map fun t => t.origin).Nodup := by
  rw [List.Nodup, List.pairwise_map]
  refine sound.numbers.imp_of_mem ?_
  intro s t drafted also smaller same
  obtain ⟨m, _, _, first⟩ := sound.made s drafted
  obtain ⟨n, _, _, second⟩ := sound.made t also
  have less := smaller m n first second
  have equal := Origin.made.inj (first.origin_eq.symm.trans (same.trans second.origin_eq))
  omega

theorem Sound.drafted?_of_mem (sound : Sound g given start d) {t : Tensor}
    (drafted : t ∈ d.tensors) : d.drafted? t.id = some t := by
  unfold drafted?
  cases found : d.tensors.find? (·.id == t.id) with
  | none =>
    have absent := List.find?_eq_none.mp found t drafted
    simp at absent
  | some u =>
    have member := List.mem_of_find?_eq_some found
    have named : u.id = t.id := by simpa using List.find?_some found
    rw [List.inj_on_of_nodup_map sound.ids_nodup member drafted named]

theorem Sound.opIds_nodup (sound : Sound g given start d) : (d.ops.map Op.id).Nodup := by
  rw [List.Nodup, List.pairwise_map]
  refine sound.opNumbers.imp_of_mem ?_
  intro a b drafted also smaller same
  obtain ⟨m, _, _, first⟩ := sound.newOps a drafted
  obtain ⟨n, _, _, second⟩ := sound.newOps b also
  have less := smaller m n first.id_eq second.id_eq
  have equal := Graph.number_eq_of_numbered_eq
    (first.id_eq.symm.trans (same.trans second.id_eq))
  omega

end Draft

/-! Adding tensors -/

namespace Draft

/-- The graph with operands and tensors of the draft, before its operators come in. -/
def seated (d : Draft) (g : Graph) : Graph :=
  d.tensors.foldl addDrafted (d.operands.values.foldl addOperand g)

theorem attach_eq (d : Draft) (g : Graph) :
    d.attach g = d.ops.foldl Graph.addNode (d.seated g) := rfl

/-- A table gains absent pairs, the first one of a key. -/
theorem find?_foldl_addOperand (ts : List Tensor) (g : Graph) (id : String) :
    (ts.foldl addOperand g).tensors.find? id =
      (g.tensors.find? id).or (ts.find? (·.id == id)) := by
  induction ts generalizing g with
  | nil => simp
  | cons t rest ih =>
    rw [List.foldl_cons, ih]
    unfold addOperand
    by_cases same : t.id = id
    · subst same
      rw [List.find?_cons_of_pos (by simp)]
      cases known : g.tensors.contains t.id with
      | true =>
        obtain ⟨u, found⟩ := Option.isSome_iff_exists.mp known
        simp [found]
      | false =>
        have absent := Table.contains_eq_false_iff.mp known
        simp [Graph.addTensor, absent]
    · rw [List.find?_cons_of_neg (by simpa using same)]
      split
      · rfl
      · change ((g.tensors.insert t.id t).find? id).or _ = _
        rw [Table.find?_insert_of_ne fun eq => same eq.symm]

theorem rest_addOperand (g : Graph) (t : Tensor) :
    addOperand g t = { g with tensors := (addOperand g t).tensors } := by
  unfold addOperand
  split <;> rfl

theorem rest_foldl_addOperand (ts : List Tensor) (g : Graph) :
    ts.foldl addOperand g = { g with tensors := (ts.foldl addOperand g).tensors } := by
  induction ts generalizing g with
  | nil => rfl
  | cons t rest ih =>
    rw [List.foldl_cons, ih (addOperand g t), rest_addOperand g t]

theorem addDrafted_eq (g : Graph) (t : Tensor) :
    addDrafted g t = { g with
      tensors := g.tensors.insert t.id t
      placements :=
        if (g.placement t).isInitializer then
          g.placements.insert t.origin { g.placement t with isInitializer := true }
        else g.placements } := by
  unfold addDrafted
  split <;> rfl

theorem find?_foldl_addDrafted {ts : List Tensor} (nodup : (ts.map Tensor.id).Nodup) (g : Graph)
    (id : String) :
    (ts.foldl addDrafted g).tensors.find? id =
      (ts.find? (·.id == id)).or (g.tensors.find? id) := by
  induction ts generalizing g with
  | nil => simp
  | cons t rest ih =>
    rw [List.map_cons, List.nodup_cons] at nodup
    rw [List.foldl_cons, ih nodup.2, addDrafted_eq]
    dsimp only
    by_cases same : t.id = id
    · subst same
      have last : rest.find? (·.id == t.id) = none := by
        rw [List.find?_eq_none]
        intro u later named
        exact nodup.1 (List.mem_map.mpr ⟨u, later, by simpa using named⟩)
      rw [List.find?_cons_of_pos (by simp), last, Table.find?_insert_self]
      rfl
    · rw [List.find?_cons_of_neg (by simpa using same),
        Table.find?_insert_of_ne fun eq => same eq.symm]

theorem rest_foldl_addDrafted (ts : List Tensor) (g : Graph) :
    ts.foldl addDrafted g = { g with
      tensors := (ts.foldl addDrafted g).tensors
      placements := (ts.foldl addDrafted g).placements } := by
  induction ts generalizing g with
  | nil => rfl
  | cons t rest ih =>
    rw [List.foldl_cons, ih (addDrafted g t), addDrafted_eq]

theorem placement_addDrafted (g : Graph) (t u : Tensor) (initial : t.origin = u.origin → t = u) :
    (addDrafted g t).placement u = g.placement u := by
  unfold addDrafted
  split
  · rename_i marked
    unfold Graph.addConstant
    rw [Graph.placement_place]
    split
    · rename_i same
      obtain rfl := initial same.symm
      change { g.placement t with isInitializer := true } = g.placement t
      rw [← marked]
    · rfl
  · rfl

theorem placement_foldl_addDrafted (ts : List Tensor) (g : Graph) (u : Tensor)
    (initial : ∀ t ∈ ts, t.origin = u.origin → t = u) :
    (ts.foldl addDrafted g).placement u = g.placement u := by
  induction ts generalizing g with
  | nil => rfl
  | cons t rest ih =>
    rw [List.foldl_cons, ih (addDrafted g t) fun t later => initial t (List.mem_cons_of_mem _ later)]
    exact placement_addDrafted g t u (initial t (List.mem_cons_self ..))

section Seated

variable {g₀ g : Graph} {given : List Tensor} {start : Nat} {d : Draft}

theorem rest_seated (d : Draft) (g : Graph) :
    d.seated g = { g with
      tensors := (d.seated g).tensors
      placements := (d.seated g).placements } := by
  unfold seated
  rw [rest_foldl_addDrafted, rest_foldl_addOperand]

/-- An id stands for what was drafted under it, else for what it stood for, else for the
    operand that was noted under it. -/
theorem Sound.find?_seated (sound : Sound g₀ given start d) (g : Graph) (id : String) :
    (d.seated g).tensors.find? id =
      (d.drafted? id).or ((g.tensors.find? id).or (d.operands.find? id)) := by
  unfold seated
  rw [find?_foldl_addDrafted sound.ids_nodup, find?_foldl_addOperand]
  have noted := Table.find?_values Tensor.id
    (fun key t found => (sound.operands_known key t found).1) id
  rw [noted]
  rfl

end Seated

end Draft

/-! Linking operators -/

namespace Placement

/-- The placement of a tensor that an operator writes or reads. -/
def linked (op : String) (written isRead : Bool) (p : Placement) : Placement :=
  let p := if written then { p with producer? := some op } else p
  if isRead then { p with consumers := Graph.listed op p.consumers } else p

@[simp] theorem linked_false (op : String) (p : Placement) : p.linked op false false = p := rfl

end Placement

namespace Graph

theorem mem_listed {id other : String} {ids : List String} :
    other ∈ listed id ids ↔ other ∈ ids ∨ other = id := by
  unfold listed
  split
  · rename_i present
    constructor
    · exact Or.inl
    · rintro (member | rfl)
      · exact member
      · exact present
  · simp

theorem nodup_listed {ids : List String} (nodup : ids.Nodup) (id : String) :
    (listed id ids).Nodup := by
  unfold listed
  split
  · exact nodup
  · rename_i absent
    rw [← List.concat_eq_append]
    exact nodup.concat absent

theorem listed_listed (id : String) (ids : List String) :
    listed id (listed id ids) = listed id ids := by
  have there : id ∈ listed id ids := mem_listed.mpr (Or.inr rfl)
  generalize listed id ids = more at there
  simp [listed, there]

/-- Does an id stand for the tensor of an origin? -/
def standsFor (g : Graph) (id : String) (origin : Origin) : Bool :=
  (g.tensors.find? id).any fun t => t.origin == origin

/-- Origins tell the tensors of a graph apart. -/
def Distinguished (g : Graph) : Prop :=
  ∀ a b t u, g.tensors.find? a = some t → g.tensors.find? b = some u → t.origin = u.origin → t = u

/-- Does an operator write, or read, a tensor of an origin? -/
def writes (g : Graph) (op : Op) (origin : Origin) : Bool := op.outputs.any (g.standsFor · origin)

def reads (g : Graph) (op : Op) (origin : Origin) : Bool := op.inputs.any (g.standsFor · origin)

/-- What linking some operators makes of a placement. -/
def linkedBy (g : Graph) (ops : List Op) (origin : Origin) (p : Placement) : Placement :=
  ops.foldl (fun p op => p.linked op.id (g.writes op origin) (g.reads op origin)) p

theorem standsFor_iff {g : Graph} {id : String} {origin : Origin} :
    g.standsFor id origin = true ↔ ∃ t, g.tensors.find? id = some t ∧ t.origin = origin := by
  unfold standsFor
  cases g.tensors.find? id <;> simp

theorem rest_placeId (g : Graph) (id : String) (change : Placement → Placement) :
    g.placeId id change = { g with placements := (g.placeId id change).placements } := by
  unfold placeId
  split <;> rfl

@[simp] theorem tensors_placeId (g : Graph) (id : String) (change : Placement → Placement) :
    (g.placeId id change).tensors = g.tensors := by rw [rest_placeId]

variable {g : Graph} {a : String} {u : Tensor}

theorem placement_placeId (told : g.Distinguished) (there : g.tensors.find? a = some u)
    (id : String) (change : Placement → Placement) :
    (g.placeId id change).placement u =
      if g.standsFor id u.origin then change (g.placement u) else g.placement u := by
  unfold placeId standsFor
  cases found : g.tensors.find? id with
  | none => simp
  | some t =>
    dsimp only
    rw [placement_place]
    by_cases same : u.origin = t.origin
    · obtain rfl := told a id u t there found same
      simp
    · have other : ¬ t.origin = u.origin := fun eq => same eq.symm
      simp [same, other]

theorem rest_foldl_placeId (ids : List String) (change : Placement → Placement) (g : Graph) :
    ids.foldl (fun g id => g.placeId id change) g =
      { g with placements := (ids.foldl (fun g id => g.placeId id change) g).placements } := by
  induction ids generalizing g with
  | nil => rfl
  | cons id rest ih =>
    rw [List.foldl_cons, ih (g.placeId id change), rest_placeId g]

/-- A change that takes once is made at every tensor that one of some ids stands for. -/
theorem placement_foldl_placeId {change : Placement → Placement}
    (once : ∀ p, change (change p) = change p) (ids : List String) (told : g.Distinguished)
    (there : g.tensors.find? a = some u) :
    (ids.foldl (fun g id => g.placeId id change) g).placement u =
      if ids.any (g.standsFor · u.origin) then change (g.placement u) else g.placement u := by
  induction ids generalizing g with
  | nil => simp
  | cons id rest ih =>
    have tensors := g.tensors_placeId id change
    have stands : (g.placeId id change).standsFor = g.standsFor := by
      funext id origin
      simp [standsFor]
    rw [List.foldl_cons, ih (by simpa [Distinguished] using told) (by simpa using there), stands,
      placement_placeId told there, List.any_cons]
    cases g.standsFor id u.origin <;> cases rest.any (g.standsFor · u.origin) <;> simp [once]

theorem rest_addNode (g : Graph) (op : Op) :
    g.addNode op = { g with
      ops := g.ops.insert op.id op
      placements := (g.addNode op).placements } := by
  unfold addNode linkProducer linkConsumer
  dsimp only
  rw [rest_foldl_placeId, rest_foldl_placeId]

@[simp] theorem tensors_addNode (g : Graph) (op : Op) : (g.addNode op).tensors = g.tensors := by
  rw [rest_addNode]

/-- A new operator is linked with the tensors that its ids stand for. -/
theorem placement_addNode (told : g.Distinguished) (there : g.tensors.find? a = some u)
    (op : Op) :
    (g.addNode op).placement u =
      (g.placement u).linked op.id (g.writes op u.origin) (g.reads op u.origin) := by
  let entered : Graph := { g with ops := g.ops.insert op.id op }
  let written : Graph := op.outputs.foldl (linkProducer op.id) entered
  have rest : written = { entered with placements := written.placements } :=
    rest_foldl_placeId op.outputs (fun p => { p with producer? := some op.id }) entered
  have stands : written.standsFor = g.standsFor := by
    rw [rest]
    rfl
  have first : written.placement u =
      if op.outputs.any (g.standsFor · u.origin) then
        { g.placement u with producer? := some op.id }
      else g.placement u :=
    placement_foldl_placeId (by simp) op.outputs (g := entered) told there
  have second : (op.inputs.foldl (linkConsumer op.id) written).placement u =
      if op.inputs.any (written.standsFor · u.origin) then
        { written.placement u with consumers := listed op.id (written.placement u).consumers }
      else written.placement u :=
    placement_foldl_placeId (by simp [listed_listed]) op.inputs (g := written)
      (by rw [rest]; exact told) (by rw [rest]; exact there)
  change (op.inputs.foldl (linkConsumer op.id) written).placement u = _
  rw [second, first, stands]
  rfl

theorem rest_foldl_addNode (ops : List Op) (g : Graph) :
    ops.foldl addNode g = { g with
      ops := (ops.foldl addNode g).ops
      placements := (ops.foldl addNode g).placements } := by
  induction ops generalizing g with
  | nil => rfl
  | cons op rest ih =>
    rw [List.foldl_cons, ih (g.addNode op), rest_addNode]

theorem placement_foldl_addNode (ops : List Op) (told : g.Distinguished)
    (there : g.tensors.find? a = some u) :
    (ops.foldl addNode g).placement u = g.linkedBy ops u.origin (g.placement u) := by
  induction ops generalizing g with
  | nil => rfl
  | cons op rest ih =>
    have same : (g.addNode op).linkedBy = g.linkedBy := by
      funext ops origin p
      simp [linkedBy, writes, reads, standsFor]
    rw [List.foldl_cons, ih (by simpa [Distinguished] using told) (by simpa using there), same,
      placement_addNode told there]
    rfl

theorem entries_foldl_addNode {ops : List Op} (nodup : (ops.map Op.id).Nodup) (g : Graph)
    (fresh : ∀ op ∈ ops, g.ops.find? op.id = none) :
    (ops.foldl addNode g).ops.entries = g.ops.entries ++ ops.map fun op => (op.id, op) := by
  induction ops generalizing g with
  | nil => simp
  | cons op rest ih =>
    rw [List.map_cons, List.nodup_cons] at nodup
    have entered : (g.addNode op).ops = g.ops.insert op.id op := by rw [rest_addNode]
    have absent := fresh op (List.mem_cons_self ..)
    rw [List.foldl_cons, ih nodup.2 (g.addNode op), entered,
      Table.entries_insert_of_absent absent]
    · simp
    · intro later member
      have other : later.id ≠ op.id := by
        intro same
        exact nodup.1 (List.mem_map.mpr ⟨later, member, same⟩)
      rw [entered, Table.find?_insert_of_ne other]
      exact fresh later (List.mem_cons_of_mem _ member)

end Graph

end ReductionIR
