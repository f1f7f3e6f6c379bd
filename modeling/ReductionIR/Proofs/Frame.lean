import ReductionIR.Proofs.Committing
import ReductionIR.Proofs.Dispatch
/-
What a successful lowering leaves alone. New ids are tested for freshness without the suffix
that results get, so all rests on the results: as long as none of their ids is in use, the
graph is extended and nothing in it changes but the readers of operands.
-/
namespace ReductionIR

namespace Graph

/-- Operands that are tensors of the graph, under their own ids. -/
def Owns (g : Graph) (operands : List (Option Tensor)) : Prop :=
  ∀ t, some t ∈ operands → g.tensors.find? t.id = some t

/-- Origins tell tensors apart, and no number above the counter was used for one. -/
structure Numbered (g : Graph) : Prop where
  told : g.Distinguished
  number_le : ∀ id t n, g.tensors.find? id = some t → t.origin = .made n → n ≤ g.counter

/-- The operators that came in since a graph was as given. -/
def opsSince (g' g : Graph) : List Op := g'.ops.values.drop g.ops.size

theorem numbered_empty (name : String) : Numbered { name } where
  told := fun _ _ _ _ found => nomatch found
  number_le := fun _ _ _ found => nomatch found

theorem find?_addOutput {g : Graph} {t : Tensor} (own : g.tensors.find? t.id = some t)
    (id : String) : (g.addOutput t).tensors.find? id = g.tensors.find? id := by
  change (g.tensors.insert t.id t).find? id = _
  rw [Table.find?_insert]
  split
  · rename_i same
    rw [same, own]
  · rfl

/-- A tensor of a caller may come in when its origin is new. -/
theorem Numbered.addInput {g : Graph} (numbered : g.Numbered) {t : Tensor} {index : Nat}
    (given : t.origin = .given index)
    (new : ∀ id u, g.tensors.find? id = some u → u.origin ≠ t.origin) :
    (g.addInput t).Numbered where
  told := by
    intro a b u v first second same
    change (g.tensors.insert t.id t).find? a = some u at first
    change (g.tensors.insert t.id t).find? b = some v at second
    rw [Table.find?_insert] at first second
    split at first <;> split at second
    · cases first
      cases second
      rfl
    · cases first
      exact absurd same.symm (new b v second)
    · cases second
      exact absurd same (new a u first)
    · exact numbered.told a b u v first second same
  number_le := by
    intro id u n found
    refine Table.forall_find?_insert (P := fun _ u => u.origin = .made n → n ≤ g.counter)
      (fun id u => numbered.number_le id u n) ?_ id u found
    intro origin
    rw [given] at origin
    contradiction

end Graph

namespace Draft

/-- No result of the draft gets an id in use. -/
def Unclashed (d : Draft) (g : Graph) : Prop :=
  ∀ op ∈ d.ops, g.isTaken (Graph.resultId op.id) = false

/-- The draft came into a graph and overwrote nothing. -/
structure Frame (d : Draft) (g g' : Graph) (operands : List (Option Tensor)) : Prop where
  tensors_kept : ∀ id t, g.tensors.find? id = some t → g'.tensors.find? id = some t
  ops_kept : ∀ id op, g.ops.find? id = some op → g'.ops.find? id = some op
  inputs_eq : g'.inputs = g.inputs
  outputs_eq : g'.outputs = g.outputs
  links_kept : ∀ id t, g.tensors.find? id = some t → ∃ added,
    g'.placement t =
      { g.placement t with consumers := (g.placement t).consumers ++ added } ∧
    added ⊆ d.ops.map Op.id ∧ (added ≠ [] → some t ∈ operands)
  tensors_new : ∀ t ∈ d.tensors, g'.tensors.find? t.id = some t
  ops_new : ∀ op ∈ d.ops, g'.ops.find? op.id = some op
  tensors_only : ∀ id ∈ g'.tensors.keys, id ∈ g.tensors.keys ∨ id ∈ d.tensors.map Tensor.id
  ops_only : ∀ id ∈ g'.ops.keys, id ∈ g.ops.keys ∨ id ∈ d.ops.map Op.id
  fresh : ∀ id ∈ d.tensors.map Tensor.id ++ d.ops.map Op.id, g.isTaken id = false
  distinct : (d.tensors.map Tensor.id ++ d.ops.map Op.id).Nodup
  loopFree : ∀ op ∈ d.ops, ∀ id ∈ op.outputs, id ∉ op.inputs

variable {g : Graph} {operands : List (Option Tensor)} {d : Draft}

theorem owned_of_present {t : Tensor} (owns : g.Owns operands)
    (present : t ∈ operands.filterMap id) : g.tensors.find? t.id = some t := by
  obtain ⟨o, member, same⟩ := List.mem_filterMap.mp present
  exact owns t (same ▸ member)

section Sound

variable (sound : Sound g (operands.filterMap id) g.counter d)

include sound

/-- Nothing enters but what was drafted. -/
theorem Sound.find?_seated_of_owns (owns : g.Owns operands) (id : String) :
    (d.seated { g with counter := d.counter }).tensors.find? id =
      (d.drafted? id).or (g.tensors.find? id) := by
  rw [sound.find?_seated]
  cases drafted : d.drafted? id with
  | some t => rfl
  | none =>
    cases old : g.tensors.find? id with
    | some t => simp
    | none =>
      cases noted : d.operands.find? id with
      | none => simp
      | some t =>
        obtain ⟨rfl, known⟩ := sound.operands_known id t noted
        rcases known with given | member
        · rw [owned_of_present owns given] at old
          contradiction
        · rw [sound.drafted?_of_mem member] at drafted
          contradiction

theorem Sound.free_of_unclashed (unclashed : d.Unclashed g) {t : Tensor} (member : t ∈ d.tensors) :
    g.isTaken t.id = false := by
  obtain ⟨n, _, _, made⟩ := sound.made t member
  cases made with
  | constant data whole free => exact free
  | result inferred free =>
    obtain ⟨op, drafted, named⟩ := sound.results _ member rfl
    rw [named]
    exact unclashed op drafted

theorem Sound.drafted?_eq_none_of_found (unclashed : d.Unclashed g) {id : String} {t : Tensor}
    (found : g.tensors.find? id = some t) : d.drafted? id = none := by
  cases drafted : d.drafted? id with
  | none => rfl
  | some u =>
    obtain ⟨member, rfl⟩ := mem_of_drafted? drafted
    have free := sound.free_of_unclashed unclashed member
    rw [((Graph.isTaken_eq_false_iff g u.id).mp free).1] at found
    contradiction

theorem Sound.find?_seated_of_unclashed (unclashed : d.Unclashed g) {id : String} {t : Tensor}
    (found : g.tensors.find? id = some t) :
    (d.seated { g with counter := d.counter }).tensors.find? id = some t := by
  rw [sound.find?_seated, sound.drafted?_eq_none_of_found unclashed found, found]
  rfl

/-- The number of a result is that of its operator, so no constant has it. -/
theorem Sound.tensor_id_ne_op_id {t : Tensor} (member : t ∈ d.tensors) {op : Op}
    (drafted : op ∈ d.ops) : t.id ≠ op.id := by
  intro same
  obtain ⟨n, _, _, new⟩ := sound.newOps op drafted
  obtain ⟨inferred, result⟩ := new.result
  obtain ⟨m, _, _, made⟩ := sound.made t member
  rw [new.id_eq] at same
  rcases made.id_eq with ⟨stem, named, constant⟩ | ⟨opType, named, _⟩
  · have number := Graph.number_eq_of_numbered_eq (named.symm.trans same)
    have origin : t.origin = (output op.opType n inferred).origin := by
      rw [made.origin_eq, number]
      rfl
    have equal := List.inj_on_of_nodup_map sound.origins_nodup member result origin
    rw [equal] at constant
    exact constant rfl
  · exact absurd (named.symm.trans same) (Graph.resultId_ne_numbered _ _ _)

theorem Sound.ids_distinct : (d.tensors.map Tensor.id ++ d.ops.map Op.id).Nodup := by
  rw [List.nodup_append]
  refine ⟨sound.ids_nodup, sound.opIds_nodup, ?_⟩
  intro a tensors b ops
  obtain ⟨t, member, rfl⟩ := List.mem_map.mp tensors
  obtain ⟨op, drafted, rfl⟩ := List.mem_map.mp ops
  exact sound.tensor_id_ne_op_id member drafted

theorem Sound.origin_ne (numbered : g.Numbered) {id : String} {u : Tensor}
    (found : g.tensors.find? id = some u) {t : Tensor} (member : t ∈ d.tensors) :
    t.origin ≠ u.origin := by
  intro same
  obtain ⟨n, above, _, made⟩ := sound.made t member
  have bound := numbered.number_le id u n found (same ▸ made.origin_eq)
  omega

theorem Sound.distinguished_seated (numbered : g.Numbered) (owns : g.Owns operands) :
    (d.seated { g with counter := d.counter }).Distinguished := by
  intro a b t u first second same
  rw [sound.find?_seated_of_owns owns] at first second
  rw [Option.or_eq_some_iff] at first second
  rcases first with new | ⟨_, old⟩ <;> rcases second with other | ⟨_, also⟩
  · exact List.inj_on_of_nodup_map sound.origins_nodup (mem_of_drafted? new).1
      (mem_of_drafted? other).1 same
  · exact absurd same (sound.origin_ne numbered also (mem_of_drafted? new).1)
  · exact absurd same.symm (sound.origin_ne numbered old (mem_of_drafted? other).1)
  · exact numbered.told a b t u old also same

theorem Sound.entries_attach :
    (d.attach { g with counter := d.counter }).ops.entries =
      g.ops.entries ++ d.ops.map fun op => (op.id, op) := by
  have ops : (d.seated { g with counter := d.counter }).ops = g.ops := by rw [rest_seated]
  rw [attach_eq, Graph.entries_foldl_addNode sound.opIds_nodup, ops]
  intro op member
  obtain ⟨n, _, _, new⟩ := sound.newOps op member
  rw [ops]
  exact ((Graph.isTaken_eq_false_iff g op.id).mp new.free).2

theorem Sound.values_attach :
    (d.attach { g with counter := d.counter }).ops.values = g.ops.values ++ d.ops := by
  rw [Table.values, sound.entries_attach, List.map_append, List.map_map]
  exact congrArg _ (List.map_id d.ops)

theorem Sound.opsSince_attach : (d.attach { g with counter := d.counter }).opsSince g = d.ops := by
  have size : g.ops.size = g.ops.values.length := by simp [Table.size, Table.values]
  rw [Graph.opsSince, sound.values_attach, size, List.drop_left]

theorem Sound.op_of_attach {key : String} {op : Op}
    (found : (d.attach { g with counter := d.counter }).ops.find? key = some op) :
    g.ops.find? key = some op ∨ op ∈ d.ops ∧ op.id = key := by
  have entry := Table.mem_of_find? found
  rw [sound.entries_attach] at entry
  rcases List.mem_append.mp entry with old | new
  · exact Or.inl (Table.find?_of_mem old)
  · obtain ⟨_, member, same⟩ := List.mem_map.mp new
    cases same
    exact Or.inr ⟨member, rfl⟩

end Sound

omit g operands in
theorem tensors_attach (d : Draft) (g : Graph) : (d.attach g).tensors = (d.seated g).tensors := by
  rw [attach_eq, Graph.rest_foldl_addNode]

omit g operands in
theorem counter_attach (d : Draft) (g : Graph) : (d.attach g).counter = g.counter := by
  rw [attach_eq, Graph.rest_foldl_addNode, rest_seated]

/-! Readers -/

/-- Links that only gain readers. -/
def Gains (ids : List String) (p q : Placement) : Prop :=
  ∃ added, q = { p with consumers := p.consumers ++ added } ∧ added ⊆ ids

theorem Gains.refl (ids : List String) (p : Placement) : Gains ids p p :=
  ⟨[], by simp, by simp⟩

theorem Gains.trans {ids : List String} {p q r : Placement} (first : Gains ids p q)
    (second : Gains ids q r) : Gains ids p r := by
  obtain ⟨a, rfl, known⟩ := first
  obtain ⟨b, rfl, also⟩ := second
  exact ⟨a ++ b, by simp, List.append_subset.mpr ⟨known, also⟩⟩

theorem gains_linked {ids : List String} {op : String} (known : op ∈ ids) (isRead : Bool)
    (p : Placement) : Gains ids p (p.linked op false isRead) := by
  cases isRead with
  | false => exact Gains.refl ids p
  | true =>
    by_cases there : op ∈ p.consumers
    · refine ⟨[], ?_, by simp⟩
      simp [Placement.linked, Graph.listed, there]
    · refine ⟨[op], ?_, by simpa using known⟩
      simp [Placement.linked, Graph.listed, there]

theorem gains_linkedBy {h : Graph} {ops : List Op} {origin : Origin} {ids : List String}
    (unwritten : ∀ op ∈ ops, h.writes op origin = false) (known : ops.map Op.id ⊆ ids)
    (p : Placement) : Gains ids p (h.linkedBy ops origin p) := by
  unfold Graph.linkedBy
  induction ops generalizing p with
  | nil => exact Gains.refl ids p
  | cons op rest ih =>
    rw [List.map_cons, List.cons_subset] at known
    rw [List.foldl_cons, unwritten op (List.mem_cons_self ..)]
    exact (gains_linked known.1 (h.reads op origin) p).trans
      (ih (fun op later => unwritten op (List.mem_cons_of_mem _ later)) known.2 _)

theorem linkedBy_of_untouched {h : Graph} {ops : List Op} {origin : Origin}
    (unwritten : ∀ op ∈ ops, h.writes op origin = false)
    (unread : ∀ op ∈ ops, h.reads op origin = false) (p : Placement) :
    h.linkedBy ops origin p = p := by
  unfold Graph.linkedBy
  induction ops with
  | nil => rfl
  | cons op rest ih =>
    rw [List.foldl_cons, unwritten op (List.mem_cons_self ..), unread op (List.mem_cons_self ..),
      Placement.linked_false]
    exact ih (fun op later => unwritten op (List.mem_cons_of_mem _ later))
      fun op later => unread op (List.mem_cons_of_mem _ later)

/-! The frame -/

section Attached

variable (sound : Sound g (operands.filterMap id) g.counter d)

include sound

theorem Sound.tensor_of_attach (owns : g.Owns operands) {key : String} {t : Tensor}
    (found : (d.attach { g with counter := d.counter }).tensors.find? key = some t) :
    g.tensors.find? key = some t ∨ t ∈ d.tensors ∧ t.id = key := by
  rw [tensors_attach, sound.find?_seated_of_owns owns, Option.or_eq_some_iff] at found
  rcases found with new | ⟨_, old⟩
  · exact Or.inr (mem_of_drafted? new)
  · exact Or.inl old

theorem Sound.find?_attach_of_mem (owns : g.Owns operands) {t : Tensor} (member : t ∈ d.tensors) :
    (d.attach { g with counter := d.counter }).tensors.find? t.id = some t := by
  rw [tensors_attach, sound.find?_seated_of_owns owns, sound.drafted?_of_mem member]
  rfl

theorem Sound.find?_result {op : Op} (drafted : op ∈ d.ops) :
    ∃ t ∈ d.tensors, d.drafted? (Graph.resultId op.id) = some t ∧ op.outputs = [t.id] := by
  obtain ⟨n, _, _, new⟩ := sound.newOps op drafted
  obtain ⟨inferred, result⟩ := new.result
  have named : (output op.opType n inferred).id = Graph.resultId op.id := by
    rw [new.id_eq]
    rfl
  refine ⟨_, result, ?_, ?_⟩
  · rw [← named]
    exact sound.drafted?_of_mem result
  · rw [new.outputs_eq, named]

theorem Sound.find?_input (owns : g.Owns operands) (unclashed : d.Unclashed g) {op : Op}
    (drafted : op ∈ d.ops) {id : String} (input : id ∈ op.inputs) :
    ∃ t, (d.seated { g with counter := d.counter }).tensors.find? id = some t ∧
      (some t ∈ operands ∨ t ∈ d.tensors) := by
  obtain ⟨n, _, _, new⟩ := sound.newOps op drafted
  obtain ⟨t, rfl, known⟩ := new.inputs_known id input
  refine ⟨t, ?_, ?_⟩
  · rcases known with given | ⟨member, _⟩
    · exact sound.find?_seated_of_unclashed unclashed (owned_of_present owns given)
    · rw [sound.find?_seated_of_owns owns, sound.drafted?_of_mem member]
      rfl
  · rcases known with given | ⟨member, _⟩
    · obtain ⟨o, listed, same⟩ := List.mem_filterMap.mp given
      exact Or.inl (same ▸ listed)
    · exact Or.inr member

theorem Sound.links_kept (numbered : g.Numbered) (owns : g.Owns operands)
    (unclashed : d.Unclashed g) {id : String} {u : Tensor} (found : g.tensors.find? id = some u) :
    ∃ added,
      (d.attach { g with counter := d.counter }).placement u =
        { g.placement u with consumers := (g.placement u).consumers ++ added } ∧
      added ⊆ d.ops.map Op.id ∧ (added ≠ [] → some u ∈ operands) := by
  let h := d.seated { g with counter := d.counter }
  have told : h.Distinguished := sound.distinguished_seated numbered owns
  have there : h.tensors.find? id = some u := sound.find?_seated_of_unclashed unclashed found
  have before : h.placement u = g.placement u :=
    placement_foldl_addDrafted d.tensors _ u
      (fun t member same => absurd same (sound.origin_ne numbered found member)) |>.trans
      (by rw [rest_foldl_addOperand]; rfl)
  -- drafted operators write new tensors only
  have unwritten : ∀ op ∈ d.ops, h.writes op u.origin = false := by
    intro op drafted
    obtain ⟨t, member, result, outputs⟩ := sound.find?_result drafted
    rw [Graph.writes, outputs, List.any_cons, List.any_nil, Bool.or_false]
    by_contra stands
    obtain ⟨v, at_id, origin⟩ := Graph.standsFor_iff.mp (Bool.not_eq_false _ ▸ stands)
    rw [sound.find?_seated_of_owns owns, sound.drafted?_of_mem member] at at_id
    cases at_id
    exact sound.origin_ne numbered found member origin
  have after : (d.attach { g with counter := d.counter }).placement u =
      h.linkedBy d.ops u.origin (g.placement u) := by
    rw [← before]
    exact Graph.placement_foldl_addNode d.ops told there
  -- what is no operand is not read either
  by_cases operand : some u ∈ operands
  · obtain ⟨added, gained, known⟩ :=
      gains_linkedBy unwritten (List.Subset.refl _) (g.placement u)
    exact ⟨added, after.trans gained, known, fun _ => operand⟩
  · have unread : ∀ op ∈ d.ops, h.reads op u.origin = false := by
      intro op drafted
      by_contra reads
      obtain ⟨input, member, stands⟩ := List.any_eq_true.mp (Bool.not_eq_false _ ▸ reads)
      obtain ⟨v, at_id, origin⟩ := Graph.standsFor_iff.mp stands
      obtain ⟨t, same, known⟩ := sound.find?_input owns unclashed drafted member
      rw [same] at at_id
      cases at_id
      obtain rfl := told input id v u same there origin
      rcases known with given | new
      · exact operand given
      · exact sound.origin_ne numbered found new rfl
    refine ⟨[], ?_, by simp, fun more => absurd rfl more⟩
    rw [after, linkedBy_of_untouched unwritten unread]
    simp

/-- No operator of the draft reads its own result. -/
theorem Sound.loopFree (owns : g.Owns operands) (unclashed : d.Unclashed g) {op : Op}
    (drafted : op ∈ d.ops) : ∀ id ∈ op.outputs, id ∉ op.inputs := by
  intro id written isRead
  obtain ⟨n, _, _, new⟩ := sound.newOps op drafted
  obtain ⟨t, named, known⟩ := new.inputs_known id isRead
  rw [new.outputs_eq, List.mem_singleton] at written
  rcases known with given | ⟨_, m, smaller, made⟩
  · have free := unclashed op drafted
    rw [← written, ← named] at free
    have absent := ((Graph.isTaken_eq_false_iff g t.id).mp free).1
    rw [owned_of_present owns given] at absent
    contradiction
  · rw [written, new.id_eq] at named
    rcases made.id_eq with ⟨stem, constant, _⟩ | ⟨opType, result, _⟩
    · exact Graph.resultId_ne_numbered _ _ _ (named.symm.trans constant)
    · have number := (Graph.resultId_numbered_injective (named.symm.trans result)).2
      omega

theorem Sound.frame (numbered : g.Numbered) (owns : g.Owns operands)
    (unclashed : d.Unclashed g) :
    d.Frame g (d.attach { g with counter := d.counter }) operands where
  tensors_kept := by
    intro id t found
    rw [tensors_attach]
    exact sound.find?_seated_of_unclashed unclashed found
  ops_kept := by
    intro id op found
    apply Table.find?_of_mem
    rw [sound.entries_attach]
    exact List.mem_append_left _ (Table.mem_of_find? found)
  inputs_eq := by rw [attach_eq, Graph.rest_foldl_addNode, rest_seated]
  outputs_eq := by rw [attach_eq, Graph.rest_foldl_addNode, rest_seated]
  links_kept := fun id t found => sound.links_kept numbered owns unclashed found
  tensors_new := fun t member => sound.find?_attach_of_mem owns member
  ops_new := by
    intro op member
    apply Table.find?_of_mem
    rw [sound.entries_attach]
    exact List.mem_append_right _ (List.mem_map_of_mem member)
  tensors_only := by
    intro id there
    rw [← Table.contains_iff_mem_keys, Table.contains, tensors_attach,
      sound.find?_seated_of_owns owns] at there
    cases drafted : d.drafted? id with
    | some t =>
      obtain ⟨member, named⟩ := mem_of_drafted? drafted
      exact Or.inr (List.mem_map.mpr ⟨t, member, named⟩)
    | none =>
      rw [drafted] at there
      exact Or.inl ((Table.contains_iff_mem_keys _ _).mp there)
  ops_only := by
    intro id there
    rw [Table.keys, sound.entries_attach, List.map_append] at there
    exact (List.mem_append.mp there).imp_right fun new => by simpa using new
  fresh := by
    intro id new
    rcases List.mem_append.mp new with tensor | operator
    · obtain ⟨t, member, rfl⟩ := List.mem_map.mp tensor
      exact sound.free_of_unclashed unclashed member
    · obtain ⟨op, member, rfl⟩ := List.mem_map.mp operator
      obtain ⟨n, _, _, new⟩ := sound.newOps op member
      exact new.free
  distinct := sound.ids_distinct
  loopFree := fun op drafted => sound.loopFree owns unclashed drafted

theorem Sound.numbered_attach (numbered : g.Numbered) (owns : g.Owns operands) :
    (d.attach { g with counter := d.counter }).Numbered where
  told := by
    unfold Graph.Distinguished
    rw [tensors_attach]
    exact sound.distinguished_seated numbered owns
  number_le := by
    intro id t n found origin
    rw [counter_attach]
    rcases sound.tensor_of_attach owns found with old | ⟨member, _⟩
    · exact Nat.le_trans (numbered.number_le id t n old origin) sound.start_le
    · obtain ⟨m, _, bound, made⟩ := sound.made t member
      rw [← Origin.made.inj (made.origin_eq.symm.trans origin)]
      exact bound

/-- A result whose id is in use breaks the frame, and overwrites a tensor of that id. -/
theorem Sound.overwrites (numbered : g.Numbered) (owns : g.Owns operands) {op : Op}
    (drafted : op ∈ d.ops) (taken : g.isTaken (Graph.resultId op.id) = true) :
    ¬ d.Frame g (d.attach { g with counter := d.counter }) operands ∧
      ∀ t, g.tensors.find? (Graph.resultId op.id) = some t →
        (d.attach { g with counter := d.counter }).tensors.find? (Graph.resultId op.id) ≠
          some t := by
  obtain ⟨u, member, result, outputs⟩ := sound.find?_result drafted
  have named := (mem_of_drafted? result).2
  constructor
  · intro frame
    have free := frame.fresh (Graph.resultId op.id)
      (List.mem_append_left _ (List.mem_map.mpr ⟨u, member, named⟩))
    rw [taken] at free
    contradiction
  · intro t old new
    rw [tensors_attach, sound.find?_seated_of_owns owns, result] at new
    cases new
    exact sound.origin_ne numbered old member rfl

end Attached

end Draft

end ReductionIR
