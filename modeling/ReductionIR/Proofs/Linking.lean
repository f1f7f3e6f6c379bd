import ReductionIR.Proofs.Wiring
/-
Exact links. A tensor's readers are the operators that list its id as an input, its producer is
the last one that lists it as an output, and the lists of inputs and outputs hold the ids of the
tensors that are marked as such. What the operators list is in the table, so nothing dangles.
-/
namespace ReductionIR

/-- A tensor without links and not marked as input or output; it may be a stored one. -/
structure Placement.Unlinked (p : Placement) : Prop where
  not_input : p.isInput = false
  not_output : p.isOutput = false
  unmade : p.producer? = none
  unread : p.consumers = []

namespace Graph

/-- The ids of the tensors with some mark, each once. -/
structure Lists (g : Graph) (ids : List String) (mark : Placement → Bool) : Prop where
  once : ids.Nodup
  marked : ∀ id, id ∈ ids ↔ ∃ t, g.tensors.find? id = some t ∧ mark (g.placement t) = true

/-- The operator that came in last of those that list an id as an output. -/
def lastWriter? (g : Graph) (id : String) : Option String :=
  (g.ops.values.reverse.find? fun op => id ∈ op.outputs).map Op.id

/-- Tables, lists and links agree. -/
structure Exact (g : Graph) : Prop where
  keyed : ∀ id t, g.tensors.find? id = some t → t.id = id
  opKeyed : ∀ id op, g.ops.find? id = some op → op.id = id
  inputs : g.Lists g.inputs Placement.isInput
  outputs : g.Lists g.outputs Placement.isOutput
  producers : ∀ id t, g.tensors.find? id = some t →
    (g.placement t).producer? = g.lastWriter? id
  readers : ∀ id t, g.tensors.find? id = some t → ∀ reader,
    reader ∈ (g.placement t).consumers ↔ ∃ op, g.ops.find? reader = some op ∧ id ∈ op.inputs
  readers_once : ∀ id t, g.tensors.find? id = some t → (g.placement t).consumers.Nodup
  known : ∀ key op, g.ops.find? key = some op → ∀ id ∈ op.inputs ++ op.outputs,
    g.tensors.contains id = true

variable {g g' : Graph} {t : Tensor} {op : Op}

theorem lastWriter?_eq_some {id writer : String} (found : g.lastWriter? id = some writer) :
    ∃ op ∈ g.ops.values, id ∈ op.outputs ∧ op.id = writer := by
  obtain ⟨op, last, rfl⟩ := Option.map_eq_some_iff.mp found
  refine ⟨op, List.mem_reverse.mp (List.mem_of_find?_eq_some last), ?_, rfl⟩
  simpa using List.find?_some last

theorem lastWriter?_eq_none {id : String} (unwritten : ∀ op ∈ g.ops.values, id ∉ op.outputs) :
    g.lastWriter? id = none := by
  rw [lastWriter?, Option.map_eq_none_iff, List.find?_eq_none]
  intro op member
  simpa using unwritten op (List.mem_reverse.mp member)

theorem lastWriter?_congr (ops : g'.ops = g.ops) : g'.lastWriter? = g.lastWriter? := by
  unfold lastWriter?
  rw [ops]

namespace Exact

variable (exact : g.Exact)

include exact

theorem find?_of_mem_values (member : op ∈ g.ops.values) : g.ops.find? op.id = some op := by
  obtain ⟨key, found⟩ := Table.exists_key_of_mem_values member
  rw [exact.opKeyed key op found]
  exact found

theorem unlisted {id : String} (absent : g.tensors.find? id = none) {key : String}
    (found : g.ops.find? key = some op) : id ∉ op.inputs ++ op.outputs := by
  intro member
  have there := exact.known key op found id member
  rw [Table.contains_eq_false_iff.mpr absent] at there
  contradiction

theorem validate_eq : g.validate = .ok () := by
  refine validate_of_known ?_ ?_ ?_
  · intro op member
    exact exact.known op.id op (exact.find?_of_mem_values member)
  · intro id t p found made
    obtain ⟨op, member, _, rfl⟩ :=
      lastWriter?_eq_some ((exact.producers id t found).symm.trans made)
    exact Table.contains_of_find? (exact.find?_of_mem_values member)
  · intro id t reader found consumer
    obtain ⟨op, known, _⟩ := (exact.readers id t found reader).mp consumer
    exact Table.contains_of_find? known

end Exact

/-- Exact links, where origins tell tensors apart and numbers above the counter are unused. -/
structure Linked (g : Graph) : Prop extends Exact g, Numbered g where
  ahead : ∀ n, g.counter < n → g.placements.find? (.made n) = none

theorem lists_empty (name : String) (mark : Placement → Bool) :
    Lists { name } [] mark where
  once := List.nodup_nil
  marked := by
    intro id
    constructor
    · intro member
      contradiction
    · rintro ⟨_, found, _⟩
      cases found

theorem linked_empty (name : String) : Linked { name } where
  keyed := fun _ _ found => nomatch found
  opKeyed := fun _ _ found => nomatch found
  inputs := lists_empty name Placement.isInput
  outputs := lists_empty name Placement.isOutput
  producers := fun _ _ found => nomatch found
  readers := fun _ _ found => nomatch found
  readers_once := fun _ _ found => nomatch found
  known := fun _ _ found => nomatch found
  toNumbered := numbered_empty name
  ahead := fun _ _ => rfl

theorem Lists.extend {ids : List String} {mark : Placement → Bool} (lists : g.Lists ids mark)
    (kept : ∀ id t, g.tensors.find? id = some t → g'.tensors.find? id = some t)
    (placed : ∀ id t, g'.tensors.find? id = some t → g'.placement t = g.placement t)
    (entered : ∀ id t, g'.tensors.find? id = some t → g.tensors.find? id = none →
      mark (g.placement t) = false) : g'.Lists ids mark where
  once := lists.once
  marked := by
    intro id
    rw [lists.marked]
    constructor
    · rintro ⟨t, found, marked⟩
      refine ⟨t, kept id t found, ?_⟩
      rwa [placed id t (kept id t found)]
    · rintro ⟨t, found, marked⟩
      rw [placed id t found] at marked
      cases old : g.tensors.find? id with
      | none =>
        rw [entered id t found old] at marked
        contradiction
      | some u =>
        cases (kept id u old).symm.trans found
        exact ⟨t, rfl, marked⟩

theorem Linked.extend (linked : g.Linked) (ops : g'.ops = g.ops) (inputs : g'.inputs = g.inputs)
    (outputs : g'.outputs = g.outputs)
    (kept : ∀ id t, g.tensors.find? id = some t → g'.tensors.find? id = some t)
    (placed : ∀ id t, g'.tensors.find? id = some t → g'.placement t = g.placement t)
    (entered : ∀ id t, g'.tensors.find? id = some t → g.tensors.find? id = none →
      t.id = id ∧ (g.placement t).Unlinked)
    (numbered : g'.Numbered)
    (ahead : ∀ n, g'.counter < n → g'.placements.find? (.made n) = none) : g'.Linked := by
  -- what stands for an id did before, or is new
  have cases_of : ∀ id t, g'.tensors.find? id = some t → g.tensors.find? id = some t ∨
      g.tensors.find? id = none ∧ t.id = id ∧ (g.placement t).Unlinked := by
    intro id t found
    cases old : g.tensors.find? id with
    | none => exact Or.inr ⟨rfl, entered id t found old⟩
    | some u =>
      cases (kept id u old).symm.trans found
      exact Or.inl rfl
  exact {
    keyed := by
      intro id t found
      rcases cases_of id t found with old | ⟨_, named, _⟩
      · exact linked.keyed id t old
      · exact named
    opKeyed := ops ▸ linked.opKeyed
    inputs := by
      rw [inputs]
      exact linked.inputs.extend kept placed fun id t found new =>
        (entered id t found new).2.not_input
    outputs := by
      rw [outputs]
      exact linked.outputs.extend kept placed fun id t found new =>
        (entered id t found new).2.not_output
    producers := by
      intro id t found
      rw [placed id t found, lastWriter?_congr ops]
      rcases cases_of id t found with old | ⟨absent, _, unlinked⟩
      · exact linked.producers id t old
      · rw [unlinked.unmade, lastWriter?_eq_none]
        intro op member written
        exact linked.unlisted absent (linked.find?_of_mem_values member)
          (List.mem_append_right _ written)
    readers := by
      intro id t found reader
      rw [placed id t found, ops]
      rcases cases_of id t found with old | ⟨absent, _, unlinked⟩
      · exact linked.readers id t old reader
      · rw [unlinked.unread]
        constructor
        · intro member
          contradiction
        · rintro ⟨op, there, reads⟩
          exact absurd (List.mem_append_left _ reads) (linked.unlisted absent there)
    readers_once := by
      intro id t found
      rw [placed id t found]
      rcases cases_of id t found with old | ⟨_, _, unlinked⟩
      · exact linked.readers_once id t old
      · rw [unlinked.unread]
        exact List.nodup_nil
    known := by
      intro key op there id listed
      rw [ops] at there
      obtain ⟨t, found⟩ := Option.isSome_iff_exists.mp (linked.known key op there id listed)
      exact Table.contains_of_find? (kept id t found)
    toNumbered := numbered
    ahead := ahead }

theorem Linked.raise (linked : g.Linked) {n : Nat} (above : g.counter ≤ n) :
    ({ g with counter := n } : Graph).Linked := by
  refine linked.extend rfl rfl rfl (fun _ _ found => found) (fun _ _ _ => rfl) ?_ ?_ ?_
  · intro id t found absent
    cases found.symm.trans absent
  · refine ⟨linked.told, ?_⟩
    intro id t number found made
    exact Nat.le_trans (linked.number_le id t number found made) above
  · intro number beyond
    exact linked.ahead number (Nat.lt_of_le_of_lt above beyond)

/-- Tensors that a caller may hand in: their origins tell them apart, from one another and from
    those of the graph, and their numbers are used up. -/
structure Admits (g : Graph) (handed : List Tensor) : Prop where
  told : ∀ t ∈ handed, ∀ u, u ∈ handed ∨ g.tensors.find? u.id = some u → t.origin = u.origin → t = u
  number_le : ∀ t ∈ handed, ∀ n, t.origin = .made n → n ≤ g.counter

theorem Linked.admits (linked : g.Linked) {handed : List Tensor}
    (own : ∀ t ∈ handed, g.tensors.find? t.id = some t) : g.Admits handed where
  told := by
    intro t member u known same
    have there : g.tensors.find? u.id = some u := known.elim (own u) id
    exact linked.told t.id u.id t u (own t member) there same
  number_le := fun t member n made => linked.number_le t.id t n (own t member) made

/-- A tensor comes in that replaces no other one, and has no links and marks if it is new. -/
theorem Linked.addTensor (linked : g.Linked) (admits : g.Admits [t])
    (kept : ∀ u, g.tensors.find? t.id = some u → u = t)
    (unlinked : g.tensors.find? t.id = none → (g.placement t).Unlinked) :
    (g.addTensor t).Linked := by
  have lookup : ∀ id, (g.addTensor t).tensors.find? id =
      if id = t.id then some t else g.tensors.find? id := fun id => Table.find?_insert ..
  have known : ∀ id u, (g.addTensor t).tensors.find? id = some u → g.tensors.find? id = some u ∨
      id = t.id ∧ u = t := by
    intro id u found
    rw [lookup] at found
    split at found
    · exact Or.inr ⟨‹_›, (Option.some.inj found).symm⟩
    · exact Or.inl found
  have apart : ∀ id u, g.tensors.find? id = some u → t.origin = u.origin → t = u := by
    intro id u found same
    refine admits.told t (List.mem_singleton_self t) u (Or.inr ?_) same
    rw [linked.keyed id u found]
    exact found
  refine linked.extend rfl rfl rfl ?_ (fun _ _ _ => rfl) ?_ ⟨?_, ?_⟩ linked.ahead
  · intro id u found
    rw [lookup]
    split
    · rename_i same
      rw [kept u (same ▸ found)]
    · exact found
  · intro id u found absent
    rcases known id u found with old | ⟨rfl, rfl⟩
    · cases old.symm.trans absent
    · exact ⟨rfl, unlinked absent⟩
  · intro a b u v first second same
    rcases known a u first with old | ⟨_, rfl⟩ <;> rcases known b v second with also | ⟨_, rfl⟩
    · exact linked.told a b u v old also same
    · exact (apart a u old same.symm).symm
    · exact apart b v also same
    · rfl
  · intro id u n found made
    rcases known id u found with old | ⟨_, rfl⟩
    · exact linked.number_le id u n old made
    · exact admits.number_le u (List.mem_singleton_self u) n made

/-! Marks and links -/

theorem Lists.congr {ids : List String} {mark : Placement → Bool} (lists : g.Lists ids mark)
    (tensors : g'.tensors = g.tensors)
    (same : ∀ id t, g.tensors.find? id = some t → mark (g'.placement t) = mark (g.placement t)) :
    g'.Lists ids mark where
  once := lists.once
  marked := by
    intro id
    rw [lists.marked, tensors]
    apply exists_congr
    intro t
    apply and_congr_right
    intro found
    rw [same id t found]

/-- A graph whose tensor has other marks, and the links it had. -/
structure Remarked (g g' : Graph) (t : Tensor) (p : Placement) : Prop where
  tensors_eq : g'.tensors = g.tensors
  ops_eq : g'.ops = g.ops
  counter_eq : g'.counter = g.counter
  placements_eq : g'.placements = g.placements.insert t.origin p
  producer_eq : p.producer? = (g.placement t).producer?
  consumers_eq : p.consumers = (g.placement t).consumers

section Remarked

variable {p : Placement} (linked : g.Linked) (own : g.tensors.find? t.id = some t)
  (remarked : Remarked g g' t p)

include remarked in
theorem Remarked.placement_self : g'.placement t = p := by
  simp [placement, remarked.placements_eq]

include linked own remarked

theorem Remarked.placement_of_ne {id : String} {u : Tensor} (found : g.tensors.find? id = some u)
    (other : id ≠ t.id) : g'.placement u = g.placement u := by
  have apart : u.origin ≠ t.origin := by
    intro same
    rw [linked.told id t.id u t found own same] at found
    exact other (linked.keyed id t found).symm
  simp [placement, remarked.placements_eq, Table.find?_insert_of_ne apart]

/-- The tensor joins the list of its mark. -/
theorem Lists.join {ids : List String} {mark : Placement → Bool} (lists : g.Lists ids mark)
    (marked : mark p = true) : g'.Lists (listed t.id ids) mark where
  once := nodup_listed lists.once t.id
  marked := by
    intro id
    rw [mem_listed, remarked.tensors_eq]
    by_cases same : id = t.id
    · subst same
      refine iff_of_true (Or.inr rfl) ⟨t, own, ?_⟩
      rw [remarked.placement_self]
      exact marked
    · rw [or_iff_left same, lists.marked]
      apply exists_congr
      intro u
      apply and_congr_right
      intro found
      rw [remarked.placement_of_ne linked own found same]

theorem Lists.stay {ids : List String} {mark : Placement → Bool} (lists : g.Lists ids mark)
    (same : mark p = mark (g.placement t)) : g'.Lists ids mark := by
  refine lists.congr remarked.tensors_eq ?_
  intro id u found
  by_cases here : id = t.id
  · cases own.symm.trans (here ▸ found)
    rw [remarked.placement_self, same]
  · rw [remarked.placement_of_ne linked own found here]

theorem Linked.remark (inputs : g'.Lists g'.inputs Placement.isInput)
    (outputs : g'.Lists g'.outputs Placement.isOutput) : g'.Linked := by
  have links : ∀ id u, g.tensors.find? id = some u →
      (g'.placement u).producer? = (g.placement u).producer? ∧
        (g'.placement u).consumers = (g.placement u).consumers := by
    intro id u found
    by_cases here : id = t.id
    · cases own.symm.trans (here ▸ found)
      rw [remarked.placement_self]
      exact ⟨remarked.producer_eq, remarked.consumers_eq⟩
    · rw [remarked.placement_of_ne linked own found here]
      exact ⟨rfl, rfl⟩
  exact {
    keyed := remarked.tensors_eq ▸ linked.keyed
    opKeyed := remarked.ops_eq ▸ linked.opKeyed
    inputs := inputs
    outputs := outputs
    producers := by
      intro id u found
      rw [remarked.tensors_eq] at found
      rw [(links id u found).1, lastWriter?_congr remarked.ops_eq]
      exact linked.producers id u found
    readers := by
      intro id u found reader
      rw [remarked.tensors_eq] at found
      rw [(links id u found).2, remarked.ops_eq]
      exact linked.readers id u found reader
    readers_once := by
      intro id u found
      rw [remarked.tensors_eq] at found
      rw [(links id u found).2]
      exact linked.readers_once id u found
    known := by
      rw [remarked.ops_eq, remarked.tensors_eq]
      exact linked.known
    told := by
      unfold Distinguished
      rw [remarked.tensors_eq]
      exact linked.told
    number_le := by
      rw [remarked.tensors_eq, remarked.counter_eq]
      exact linked.number_le
    ahead := by
      intro n beyond
      rw [remarked.counter_eq] at beyond
      have apart : Origin.made n ≠ t.origin := by
        intro same
        have bound := linked.number_le t.id t n own same.symm
        omega
      rw [remarked.placements_eq, Table.find?_insert_of_ne apart]
      exact linked.ahead n beyond }

end Remarked

end Graph

namespace Placement

variable (op : String) (written isRead : Bool) (p : Placement)

theorem isInput_linked : (p.linked op written isRead).isInput = p.isInput := by
  cases written <;> cases isRead <;> rfl

theorem isOutput_linked : (p.linked op written isRead).isOutput = p.isOutput := by
  cases written <;> cases isRead <;> rfl

theorem producer_linked : (p.linked op written isRead).producer? =
    if written then some op else p.producer? := by
  cases written <;> cases isRead <;> rfl

theorem consumers_linked : (p.linked op written isRead).consumers =
    if isRead then Graph.listed op p.consumers else p.consumers := by
  cases written <;> cases isRead <;> rfl

end Placement

namespace Graph

variable {g : Graph} {t : Tensor} {op : Op}

theorem Linked.any_standsFor (linked : g.Linked) {id : String}
    (found : g.tensors.find? id = some t) (ids : List String) :
    ids.any (g.standsFor · t.origin) = true ↔ id ∈ ids := by
  rw [List.any_eq_true]
  constructor
  · rintro ⟨other, member, stands⟩
    obtain ⟨u, there, same⟩ := standsFor_iff.mp stands
    rw [linked.told other id u t there found same] at there
    rw [← linked.keyed id t found, linked.keyed other t there]
    exact member
  · intro member
    exact ⟨id, member, standsFor_iff.mpr ⟨t, found, rfl⟩⟩

theorem ops_addNode (g : Graph) (op : Op) : (g.addNode op).ops = g.ops.insert op.id op := by
  rw [rest_addNode]

theorem counter_addNode (g : Graph) (op : Op) : (g.addNode op).counter = g.counter := by
  rw [rest_addNode]

theorem lastWriter?_addNode (new : g.ops.find? op.id = none) (id : String) :
    (g.addNode op).lastWriter? id = if id ∈ op.outputs then some op.id else g.lastWriter? id := by
  unfold lastWriter?
  rw [ops_addNode, Table.values, Table.entries_insert_of_absent new, List.map_append,
    List.map_singleton, List.reverse_append, List.reverse_singleton, List.singleton_append,
    List.find?_cons]
  by_cases written : id ∈ op.outputs
  · simp [written]
  · simp [written, Table.values]

section Entering

variable (linked : g.Linked)

include linked

theorem Linked.placement_addNode {id : String} (found : g.tensors.find? id = some t) (op : Op) :
    (g.addNode op).placement t = (g.placement t).linked op.id
      (decide (id ∈ op.outputs)) (decide (id ∈ op.inputs)) := by
  have writes : g.writes op t.origin = decide (id ∈ op.outputs) := by
    rw [Bool.eq_iff_iff, decide_eq_true_iff]
    exact linked.any_standsFor found op.outputs
  have reads : g.reads op t.origin = decide (id ∈ op.inputs) := by
    rw [Bool.eq_iff_iff, decide_eq_true_iff]
    exact linked.any_standsFor found op.inputs
  rw [Graph.placement_addNode linked.told found op, writes, reads]

theorem Linked.mem_consumers_addNode (new : g.ops.find? op.id = none) {id : String}
    (found : g.tensors.find? id = some t) (reader : String) :
    reader ∈ ((g.addNode op).placement t).consumers ↔
      ∃ other, (g.addNode op).ops.find? reader = some other ∧ id ∈ other.inputs := by
  rw [linked.placement_addNode found, Placement.consumers_linked, ops_addNode, Table.find?_insert]
  by_cases same : reader = op.id
  · have unread : reader ∉ (g.placement t).consumers := by
      intro member
      obtain ⟨other, there, _⟩ := (linked.readers id t found reader).mp member
      rw [same, new] at there
      contradiction
    simp only [decide_eq_true_eq, same, if_true, Option.some.injEq, exists_eq_left']
    split
    · exact iff_of_true (mem_listed.mpr (Or.inr rfl)) ‹_›
    · exact iff_of_false (same ▸ unread) ‹_›
  · rw [if_neg same, ← linked.readers id t found reader]
    split
    · rw [mem_listed, or_iff_left same]
    · rfl

/-- A new operator that lists known ids links their tensors exactly. -/
theorem Linked.addNode (new : g.ops.find? op.id = none)
    (known : ∀ id ∈ op.inputs ++ op.outputs, g.tensors.contains id = true) :
    (g.addNode op).Linked where
  keyed := by
    rw [tensors_addNode]
    exact linked.keyed
  opKeyed := by
    rw [ops_addNode]
    exact Table.forall_find?_insert linked.opKeyed rfl
  inputs := by
    have same : (g.addNode op).inputs = g.inputs := by rw [rest_addNode]
    rw [same]
    refine linked.inputs.congr (tensors_addNode g op) ?_
    intro id t found
    rw [linked.placement_addNode found, Placement.isInput_linked]
  outputs := by
    have same : (g.addNode op).outputs = g.outputs := by rw [rest_addNode]
    rw [same]
    refine linked.outputs.congr (tensors_addNode g op) ?_
    intro id t found
    rw [linked.placement_addNode found, Placement.isOutput_linked]
  producers := by
    intro id t found
    rw [tensors_addNode] at found
    rw [linked.placement_addNode found, Placement.producer_linked, lastWriter?_addNode new,
      linked.producers id t found]
    simp only [decide_eq_true_eq]
  readers := by
    intro id t found reader
    rw [tensors_addNode] at found
    exact linked.mem_consumers_addNode new found reader
  readers_once := by
    intro id t found
    rw [tensors_addNode] at found
    rw [linked.placement_addNode found, Placement.consumers_linked]
    split
    · exact nodup_listed (linked.readers_once id t found) op.id
    · exact linked.readers_once id t found
  known := by
    rw [tensors_addNode, ops_addNode]
    exact Table.forall_find?_insert linked.known known
  told := by
    unfold Distinguished
    rw [tensors_addNode]
    exact linked.told
  number_le := by
    rw [tensors_addNode, counter_addNode]
    exact linked.number_le
  ahead := by
    intro n beyond
    rw [counter_addNode] at beyond
    rw [find?_placements_addNode]
    · exact linked.ahead n beyond
    -- an id that stands for a tensor of that number would be behind the counter
    · intro id
      by_contra stands
      obtain ⟨t, found, made⟩ := standsFor_iff.mp (Bool.not_eq_false _ ▸ stands)
      have bound := linked.number_le id t n found made
      omega

end Entering

theorem Linked.foldl_addNode {ops : List Op} (linked : g.Linked) (once : (ops.map Op.id).Nodup)
    (new : ∀ op ∈ ops, g.ops.find? op.id = none)
    (known : ∀ op ∈ ops, ∀ id ∈ op.inputs ++ op.outputs, g.tensors.contains id = true) :
    (ops.foldl Graph.addNode g).Linked := by
  induction ops generalizing g with
  | nil => exact linked
  | cons op rest ih =>
    rw [List.map_cons, List.nodup_cons] at once
    have here := linked.addNode (new op List.mem_cons_self) (known op List.mem_cons_self)
    refine ih here once.2 ?_ ?_
    · intro later member
      have other : later.id ≠ op.id := by
        intro same
        exact once.1 (List.mem_map.mpr ⟨later, member, same⟩)
      rw [ops_addNode, Table.find?_insert_of_ne other]
      exact new later (List.mem_cons_of_mem op member)
    · intro later member
      rw [tensors_addNode]
      exact known later (List.mem_cons_of_mem op member)

end Graph

end ReductionIR
