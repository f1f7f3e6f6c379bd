import ReductionIR.Proofs.Frame
/-
The wiring of a converted graph. Every tensor has one role: it is fed, stored, or the result
of an operator, which is its producer. Operators read tensors whose producers have smaller
numbers. All steps of a conversion keep this.
-/
namespace ReductionIR

namespace Graph

/-- The one role of a tensor. -/
inductive Role (g : Graph) (t : Tensor) : Prop
  | fed (input : t.id ∈ g.inputs) (unstored : t.data = none)
      (unmade : (g.placement t).producer? = none)
  | stored {data : Dense} (held : t.data = some data) (inner : t.id ∉ g.inputs)
      (marked : (g.placement t).isInitializer = true)
      (unmade : (g.placement t).producer? = none)
  | made {op : Op} (known : g.ops.find? op.id = some op) (inner : t.id ∉ g.inputs)
      (unstored : t.data = none) (outputs : op.outputs = [t.id])
      (producer : (g.placement t).producer? = some op.id)

/-- An operator of a number, its result, and inputs that were made before it. -/
structure Placed (g : Graph) (op : Op) (n : Nat) : Prop where
  id_eq : op.id = numbered op.opType n
  number_le : n ≤ g.counter
  result : ∃ t, g.tensors.find? (resultId op.id) = some t ∧ op.outputs = [t.id] ∧
    (g.placement t).producer? = some op.id
  earlier : ∀ id ∈ op.inputs, ∃ t, g.tensors.find? id = some t ∧
    ∀ p, (g.placement t).producer? = some p → ∃ stem m, p = numbered stem m ∧ m < n

structure Wired (g : Graph) : Prop extends Numbered g where
  keyed : ∀ id t, g.tensors.find? id = some t → t.id = id
  roles : ∀ id t, g.tensors.find? id = some t → g.Role t
  readers : ∀ id t, g.tensors.find? id = some t →
    ∀ reader ∈ (g.placement t).consumers, ∃ op, g.ops.find? reader = some op
  unplaced : ∀ n, (∀ id t, g.tensors.find? id = some t → t.origin ≠ .made n) →
    g.placements.find? (.made n) = none
  inputs_known : ∀ id ∈ g.inputs, ∃ t, g.tensors.find? id = some t
  inputs_once : g.inputs.Nodup
  opKeyed : ∀ id op, g.ops.find? id = some op → op.id = id
  placed : ∀ id op, g.ops.find? id = some op → ∃ n, g.Placed op n

variable {g : Graph} {t u : Tensor}

/-- A graph is valid when its operators list tensors that it has, and its tensors are linked with
    operators that it has. -/
theorem validate_of_known
    (tensors : ∀ op ∈ g.ops.values, ∀ id ∈ op.inputs ++ op.outputs, g.tensors.contains id = true)
    (makers : ∀ id t p, g.tensors.find? id = some t → (g.placement t).producer? = some p →
      g.ops.contains p = true)
    (readers : ∀ id t reader, g.tensors.find? id = some t →
      reader ∈ (g.placement t).consumers → g.ops.contains reader = true) :
    g.validate = .ok () := by
  have ofOps : g.ops.values.findSome? (fun op => (g.missingTensor? op).map
      (Breakdown.missingTensor op.id)) = none := by
    rw [List.findSome?_eq_none_iff]
    intro op member
    have none_missing : g.missingTensor? op = none := by
      rw [missingTensor?, List.find?_eq_none]
      intro id listed
      simp [tensors op member id listed]
    rw [none_missing, Option.map_none]
  have ofTensors : g.tensors.entries.findSome? g.brokenLink? = none := by
    rw [List.findSome?_eq_none_iff]
    rintro ⟨id, t⟩ member
    have found : g.tensors.find? id = some t := Table.find?_of_mem member
    have read : (g.placement t).consumers.find? (fun op => !g.ops.contains op) = none := by
      rw [List.find?_eq_none]
      intro reader consumer
      simp [readers id t reader found consumer]
    unfold brokenLink?
    dsimp only
    rw [read]
    cases made : (g.placement t).producer? with
    | none => rfl
    | some p => simp [makers id t p found made]
  rw [validate, dangling?, ofOps, ofTensors]
  rfl

theorem Wired.producer_known (wired : g.Wired) {id p : String}
    (found : g.tensors.find? id = some t) (made : (g.placement t).producer? = some p) :
    ∃ op, g.ops.find? p = some op ∧ op.outputs = [id] := by
  rcases wired.roles id t found with ⟨_, _, unmade⟩ | ⟨_, _, _, unmade⟩ |
    ⟨known, _, _, outputs, linked⟩
  · rw [made] at unmade
    contradiction
  · rw [made] at unmade
    contradiction
  · rw [made, Option.some.injEq] at linked
    rw [wired.keyed id t found] at outputs
    exact ⟨_, linked ▸ known, outputs⟩

theorem Wired.outputs_eq (wired : g.Wired) {id : String} {op : Op}
    (found : g.ops.find? id = some op) : op.outputs = [resultId op.id] := by
  obtain ⟨n, placed⟩ := wired.placed id op found
  obtain ⟨t, there, outputs, _⟩ := placed.result
  rw [outputs, wired.keyed _ t there]

theorem Wired.eq_result (wired : g.Wired) {id : String} {op : Op}
    (known : g.ops.find? op.id = some op) (found : g.tensors.find? id = some t)
    (made : (g.placement t).producer? = some op.id) : id = resultId op.id := by
  obtain ⟨maker, there, writes⟩ := wired.producer_known found made
  obtain rfl := Option.some.inj (known.symm.trans there)
  rw [wired.outputs_eq known, List.singleton_inj] at writes
  exact writes.symm

theorem Role.of_input (role : g.Role t) (input : t.id ∈ g.inputs) :
    t.data = none ∧ (g.placement t).producer? = none := by
  rcases role with ⟨_, unstored, unmade⟩ | ⟨_, inner, _, _⟩ | ⟨_, inner, _, _, _⟩
  · exact ⟨unstored, unmade⟩
  · exact absurd input inner
  · exact absurd input inner

theorem Role.of_stored (role : g.Role t) {data : Dense} (held : t.data = some data) :
    (g.placement t).producer? = none := by
  rcases role with ⟨_, _, unmade⟩ | ⟨_, _, _, unmade⟩ | ⟨_, _, unstored, _, _⟩
  · exact unmade
  · exact unmade
  · rw [held] at unstored
    contradiction

variable {g' : Graph}

theorem Role.congr (role : g.Role t) (inputs : t.id ∈ g'.inputs ↔ t.id ∈ g.inputs)
    (producer : (g'.placement t).producer? = (g.placement t).producer?)
    (marked : (g'.placement t).isInitializer = (g.placement t).isInitializer)
    (ops : ∀ id op, g.ops.find? id = some op → g'.ops.find? id = some op) : g'.Role t := by
  rcases role with ⟨input, unstored, unmade⟩ | ⟨held, inner, initial, unmade⟩ |
    ⟨known, inner, unstored, outputs, made⟩
  · exact .fed (inputs.mpr input) unstored (producer.trans unmade)
  · exact .stored held (inputs.not.mpr inner) (marked.trans initial) (producer.trans unmade)
  · exact .made (ops _ _ known) (inputs.not.mpr inner) unstored outputs (producer.trans made)

theorem Placed.mono {op : Op} {n : Nat} (placed : g.Placed op n) (counter : g.counter ≤ g'.counter)
    (tensors : ∀ id t, g.tensors.find? id = some t → g'.tensors.find? id = some t ∧
      (g'.placement t).producer? = (g.placement t).producer?) : g'.Placed op n := by
  obtain ⟨numbered, bound, ⟨t, there, outputs, made⟩, earlier⟩ := placed
  obtain ⟨kept, producer⟩ := tensors _ t there
  refine ⟨numbered, Nat.le_trans bound counter, ⟨t, kept, outputs, producer.trans made⟩, ?_⟩
  intro input member
  obtain ⟨u, there, before⟩ := earlier input member
  obtain ⟨kept, producer⟩ := tensors _ u there
  exact ⟨u, kept, producer ▸ before⟩

theorem Wired.producer_numbered (wired : g.Wired) {id p : String}
    (found : g.tensors.find? id = some t) (made : (g.placement t).producer? = some p) :
    ∃ stem n, p = numbered stem n ∧ n ≤ g.counter := by
  obtain ⟨op, known, _⟩ := wired.producer_known found made
  obtain ⟨n, placed⟩ := wired.placed p op known
  exact ⟨_, n, (wired.opKeyed p op known).symm.trans placed.id_eq, placed.number_le⟩

/-- A graph of tensors that a caller handed in with numbers below `count`, and of no operators. -/
structure Given (g : Graph) (count : Nat) : Prop where
  no_ops : g.ops = ∅
  told : g.Distinguished
  keyed : ∀ id t, g.tensors.find? id = some t → t.id = id
  origins : ∀ id t, g.tensors.find? id = some t → ∃ index < count, t.origin = .given index
  unplaced : ∀ origin, (∀ index < count, origin ≠ .given index) → g.placements.find? origin = none
  roles : ∀ id t, g.tensors.find? id = some t → g.Role t
  unread : ∀ id t, g.tensors.find? id = some t → (g.placement t).consumers = []
  inputs_known : ∀ id ∈ g.inputs, ∃ t, g.tensors.find? id = some t
  inputs_once : g.inputs.Nodup

theorem given_empty (name : String) : Given { name } 0 where
  no_ops := rfl
  told := fun _ _ _ _ found => nomatch found
  keyed := fun _ _ found => nomatch found
  origins := fun _ _ found => nomatch found
  unplaced := fun _ _ => rfl
  roles := fun _ _ found => nomatch found
  unread := fun _ _ found => nomatch found
  inputs_known := fun _ member => nomatch member
  inputs_once := List.nodup_nil

variable {count : Nat}

theorem Given.wired (given : g.Given count) : g.Wired where
  told := given.told
  number_le := by
    intro id t n found made
    obtain ⟨index, _, origin⟩ := given.origins id t found
    rw [origin] at made
    contradiction
  keyed := given.keyed
  roles := given.roles
  readers := by
    intro id t found reader member
    rw [given.unread id t found] at member
    contradiction
  unplaced := fun n _ => given.unplaced _ fun _ _ => nofun
  inputs_known := given.inputs_known
  inputs_once := given.inputs_once
  opKeyed := by
    rw [given.no_ops]
    exact fun _ _ found => nomatch found
  placed := by
    rw [given.no_ops]
    exact fun _ _ found => nomatch found

theorem Given.mono (given : g.Given count) {more : Nat} (le : count ≤ more) : g.Given more :=
  { given with
    origins := by
      intro id t found
      obtain ⟨index, bound, origin⟩ := given.origins id t found
      exact ⟨index, Nat.lt_of_lt_of_le bound le, origin⟩
    unplaced := fun origin other =>
      given.unplaced origin fun index bound => other index (Nat.lt_of_lt_of_le bound le) }

/-- Origins that were used up are those of earlier tensors. -/
theorem Given.origin_ne (given : g.Given count) (origin : t.origin = .given count) {id : String}
    (found : g.tensors.find? id = some u) : u.origin ≠ t.origin := by
  obtain ⟨index, bound, same⟩ := given.origins id u found
  rw [same, origin]
  intro equal
  exact Nat.ne_of_lt bound (Origin.given.inj equal)

theorem Given.placement_of_next (given : g.Given count) (origin : t.origin = .given count) :
    g.placement t = t.initial := by
  rw [placement, origin, given.unplaced]
  · rfl
  · intro index bound equal
    exact Nat.ne_of_gt bound (Origin.given.inj equal)

/-- A graph that gained a tensor of a new id and origin, placed in some way. -/
structure Gained (g g' : Graph) (t : Tensor) (p : Placement) : Prop where
  tensors_eq : g'.tensors = g.tensors.insert t.id t
  placements_eq : g'.placements = g.placements.insert t.origin p
  ops_eq : g'.ops = g.ops
  counter_eq : g'.counter = g.counter

variable {p : Placement}

theorem Gained.placement_self (gained : Gained g g' t p) : g'.placement t = p := by
  simp [placement, gained.placements_eq]

theorem Gained.placement_of_ne (gained : Gained g g' t p) (other : u.origin ≠ t.origin) :
    g'.placement u = g.placement u := by
  simp [placement, gained.placements_eq, Table.find?_insert_of_ne other]

theorem Gained.find?_of_ne (gained : Gained g g' t p) {id : String} (other : id ≠ t.id) :
    g'.tensors.find? id = g.tensors.find? id := by
  rw [gained.tensors_eq, Table.find?_insert_of_ne other]

theorem Gained.find?_self (gained : Gained g g' t p) : g'.tensors.find? t.id = some t := by
  rw [gained.tensors_eq, Table.find?_insert_self]

theorem Gained.known (gained : Gained g g' t p) {id : String}
    (found : g'.tensors.find? id = some u) :
    id = t.id ∧ u = t ∨ id ≠ t.id ∧ g.tensors.find? id = some u := by
  by_cases same : id = t.id
  · rw [same, gained.find?_self, Option.some.injEq] at found
    exact Or.inl ⟨same, found.symm⟩
  · exact Or.inr ⟨same, gained.find?_of_ne same ▸ found⟩

/-- The next tensor may come in, also under an id that stood for another one. -/
theorem Given.gain (given : g.Given count) (gained : Gained g g' t p)
    (origin : t.origin = .given count) (unread : p.consumers = []) (role : g'.Role t)
    (inputs : ∀ id, id ≠ t.id → (id ∈ g'.inputs ↔ id ∈ g.inputs)) (once : g'.inputs.Nodup) :
    g'.Given (count + 1) := by
  have place : ∀ id u, g.tensors.find? id = some u → g'.placement u = g.placement u :=
    fun id u found => gained.placement_of_ne (given.origin_ne origin found)
  exact {
    no_ops := gained.ops_eq.trans given.no_ops
    told := by
      intro a b u v first second same
      rcases gained.known first with ⟨rfl, rfl⟩ | ⟨_, old⟩ <;>
        rcases gained.known second with ⟨rfl, rfl⟩ | ⟨_, also⟩
      · rfl
      · exact absurd same.symm (given.origin_ne origin also)
      · exact absurd same (given.origin_ne origin old)
      · exact given.told a b u v old also same
    keyed := by
      intro id u found
      rcases gained.known found with ⟨rfl, rfl⟩ | ⟨_, old⟩
      · rfl
      · exact given.keyed id u old
    origins := by
      intro id u found
      rcases gained.known found with ⟨_, rfl⟩ | ⟨_, old⟩
      · exact ⟨count, Nat.lt_succ_self count, origin⟩
      · obtain ⟨index, bound, same⟩ := given.origins id u old
        exact ⟨index, Nat.lt_succ_of_lt bound, same⟩
    unplaced := by
      intro other unused
      rw [gained.placements_eq, Table.find?_insert_of_ne
        (origin ▸ unused count (Nat.lt_succ_self count))]
      exact given.unplaced other fun index bound => unused index (Nat.lt_succ_of_lt bound)
    roles := by
      intro id u found
      rcases gained.known found with ⟨_, rfl⟩ | ⟨other, old⟩
      · exact role
      · refine (given.roles id u old).congr ?_ (by rw [place id u old]) (by rw [place id u old]) ?_
        · rw [given.keyed id u old]
          exact inputs id other
        · rw [gained.ops_eq]
          exact fun _ _ known => known
    unread := by
      intro id u found
      rcases gained.known found with ⟨_, rfl⟩ | ⟨_, old⟩
      · rw [gained.placement_self]
        exact unread
      · rw [place id u old]
        exact given.unread id u old
    inputs_known := by
      intro id member
      by_cases same : id = t.id
      · exact ⟨t, same ▸ gained.find?_self⟩
      · obtain ⟨u, found⟩ := given.inputs_known id ((inputs id same).mp member)
        exact ⟨u, (gained.find?_of_ne same).trans found⟩
    inputs_once := once }

theorem gained_addInput (g : Graph) (t : Tensor) :
    Gained g (g.addInput t) t { g.placement t with isInput := true } := ⟨rfl, rfl, rfl, rfl⟩

theorem gained_addConstant (g : Graph) (t : Tensor) :
    Gained g (g.addConstant t) t { g.placement t with isInitializer := true } :=
  ⟨rfl, rfl, rfl, rfl⟩

theorem Given.addInput (given : g.Given count) (origin : t.origin = .given count)
    (unstored : t.data = none) (plain : t.initial = {}) : (g.addInput t).Given (count + 1) := by
  have initial : g.placement t = {} := (given.placement_of_next origin).trans plain
  have inputs : ∀ id, id ∈ (g.addInput t).inputs ↔ id ∈ g.inputs ∨ id = t.id :=
    fun id => mem_listed
  refine given.gain (gained_addInput g t) origin (by rw [initial]) ?_ ?_
    (nodup_listed given.inputs_once t.id)
  · refine .fed ((inputs t.id).mpr (Or.inr rfl)) unstored ?_
    rw [(gained_addInput g t).placement_self, initial]
  · intro id other
    rw [inputs]
    simp [other]

theorem Given.addConstant (given : g.Given count) (origin : t.origin = .given count)
    (inner : t.id ∉ g.inputs) {data : Dense} (held : t.data = some data)
    (plain : t.initial = { isInitializer := true }) : (g.addConstant t).Given (count + 1) := by
  have initial : g.placement t = { isInitializer := true } :=
    (given.placement_of_next origin).trans plain
  refine given.gain (gained_addConstant g t) origin (by rw [initial]) ?_ (fun _ _ => Iff.rfl)
    given.inputs_once
  refine .stored held inner ?_ ?_
  · rw [(gained_addConstant g t).placement_self]
  · rw [(gained_addConstant g t).placement_self, initial]

theorem Wired.addOutput (wired : g.Wired) (own : g.tensors.find? t.id = some t) :
    (g.addOutput t).Wired := by
  have lookup := find?_addOutput own
  have place : ∀ u, (g.addOutput t).placement u =
      if u.origin = t.origin then { g.placement t with isOutput := true } else g.placement u :=
    fun u => placement_place (g.addTensor t) t u fun p => { p with isOutput := true }
  have links : ∀ id u, g.tensors.find? id = some u →
      ((g.addOutput t).placement u).producer? = (g.placement u).producer? ∧
      ((g.addOutput t).placement u).consumers = (g.placement u).consumers ∧
      ((g.addOutput t).placement u).isInitializer = (g.placement u).isInitializer := by
    intro id u found
    rw [place]
    split
    · rename_i same
      obtain rfl := wired.told id t.id u t found own same
      exact ⟨rfl, rfl, rfl⟩
    · exact ⟨rfl, rfl, rfl⟩
  exact {
    told := by
      intro a b u v first second
      rw [lookup] at first second
      exact wired.told a b u v first second
    number_le := by
      intro id u n found
      rw [lookup] at found
      exact wired.number_le id u n found
    keyed := by
      intro id u found
      rw [lookup] at found
      exact wired.keyed id u found
    roles := by
      intro id u found
      rw [lookup] at found
      obtain ⟨producer, _, marked⟩ := links id u found
      exact (wired.roles id u found).congr Iff.rfl producer marked fun _ _ known => known
    readers := by
      intro id u found reader member
      rw [lookup] at found
      rw [(links id u found).2.1] at member
      exact wired.readers id u found reader member
    unplaced := by
      intro n absent
      have other : Origin.made n ≠ t.origin := by
        intro same
        exact absent t.id t ((lookup t.id).trans own) same.symm
      change (g.placements.insert t.origin _).find? (.made n) = none
      rw [Table.find?_insert_of_ne other]
      exact wired.unplaced n fun id u found => absent id u ((lookup id).trans found)
    inputs_known := by
      intro id member
      obtain ⟨u, found⟩ := wired.inputs_known id member
      exact ⟨u, (lookup id).trans found⟩
    inputs_once := wired.inputs_once
    opKeyed := wired.opKeyed
    placed := by
      intro id op found
      obtain ⟨n, placed⟩ := wired.placed id op found
      exact ⟨n, placed.mono le_rfl fun id u found => ⟨(lookup id).trans found, (links id u found).1⟩⟩ }

end Graph

/-! Drafts that come in -/

namespace Graph

variable {g h : Graph} {op : Op} {ops : List Op} {origin : Origin}

theorem find?_placements_placeId (absent : ∀ id, g.standsFor id origin = false) (id : String)
    (change : Placement → Placement) :
    (g.placeId id change).placements.find? origin = g.placements.find? origin := by
  unfold placeId
  split
  · rename_i t found
    have other : origin ≠ t.origin := by
      intro same
      have stands := standsFor_iff.mpr ⟨t, found, same.symm⟩
      rw [absent id] at stands
      contradiction
    exact Table.find?_insert_of_ne other
  · rfl

theorem find?_placements_foldl_placeId (absent : ∀ id, g.standsFor id origin = false)
    (ids : List String) (change : Placement → Placement) :
    (ids.foldl (fun g id => g.placeId id change) g).placements.find? origin =
      g.placements.find? origin := by
  induction ids generalizing g with
  | nil => rfl
  | cons id rest ih =>
    rw [List.foldl_cons, ih, find?_placements_placeId absent]
    intro other
    simpa [standsFor] using absent other

theorem find?_placements_addNode (absent : ∀ id, g.standsFor id origin = false) (op : Op) :
    (g.addNode op).placements.find? origin = g.placements.find? origin := by
  let entered : Graph := { g with ops := g.ops.insert op.id op }
  let written : Graph := op.outputs.foldl (linkProducer op.id) entered
  have rest : written = { entered with placements := written.placements } :=
    rest_foldl_placeId op.outputs (fun p => { p with producer? := some op.id }) entered
  have first : written.placements.find? origin = g.placements.find? origin :=
    find?_placements_foldl_placeId (g := entered) absent op.outputs
      fun p => { p with producer? := some op.id }
  have still : ∀ id, written.standsFor id origin = false := by
    intro id
    rw [rest]
    exact absent id
  exact (find?_placements_foldl_placeId still op.inputs
    fun p => { p with consumers := listed op.id p.consumers }).trans first

theorem find?_placements_foldl_addNode (absent : ∀ id, g.standsFor id origin = false)
    (ops : List Op) :
    (ops.foldl addNode g).placements.find? origin = g.placements.find? origin := by
  induction ops generalizing g with
  | nil => rfl
  | cons op rest ih =>
    rw [List.foldl_cons, ih, find?_placements_addNode absent]
    intro id
    simpa [standsFor] using absent id

/-! Links of a placement -/

variable {p : Placement}

theorem producer_linkedBy_of_unwritten (unwritten : ∀ op ∈ ops, h.writes op origin = false) :
    (h.linkedBy ops origin p).producer? = p.producer? := by
  unfold linkedBy
  induction ops generalizing p with
  | nil => rfl
  | cons op rest ih =>
    rw [List.foldl_cons, ih fun op later => unwritten op (List.mem_cons_of_mem _ later),
      unwritten op (List.mem_cons_self ..)]
    cases h.reads op origin <;> rfl

theorem producer_linkedBy_of_writer (member : op ∈ ops) (writes : h.writes op origin = true)
    (only : ∀ other ∈ ops, h.writes other origin = true → other = op) :
    (h.linkedBy ops origin p).producer? = some op.id := by
  induction ops generalizing p with
  | nil => contradiction
  | cons first rest ih =>
    have step : h.linkedBy (first :: rest) origin p = h.linkedBy rest origin
        (p.linked first.id (h.writes first origin) (h.reads first origin)) := rfl
    rw [step]
    by_cases later : op ∈ rest
    · exact ih later fun other member => only other (List.mem_cons_of_mem _ member)
    · have unwritten : ∀ other ∈ rest, h.writes other origin = false := by
        intro other member
        by_contra written
        have same := only other (List.mem_cons_of_mem _ member) (Bool.not_eq_false _ ▸ written)
        exact later (same ▸ member)
      obtain rfl : op = first := (List.mem_cons.mp member).resolve_right later
      rw [producer_linkedBy_of_unwritten unwritten, writes]
      cases h.reads op origin <;> rfl

theorem consumers_linked {reader op : String} {written isRead : Bool}
    (member : reader ∈ (p.linked op written isRead).consumers) :
    reader ∈ p.consumers ∨ reader = op := by
  cases written <;> cases isRead
  · exact Or.inl member
  · exact mem_listed.mp member
  · exact Or.inl member
  · exact mem_listed.mp member

theorem consumers_linkedBy {reader : String}
    (member : reader ∈ (h.linkedBy ops origin p).consumers) :
    reader ∈ p.consumers ∨ reader ∈ ops.map Op.id := by
  induction ops generalizing p with
  | nil => exact Or.inl member
  | cons first rest ih =>
    rcases ih member with early | later
    · exact (consumers_linked early).imp_right fun same => by simp [same]
    · exact Or.inr (List.mem_cons_of_mem _ later)

theorem isInitializer_linkedBy :
    (h.linkedBy ops origin p).isInitializer = p.isInitializer := by
  unfold linkedBy
  induction ops generalizing p with
  | nil => rfl
  | cons op rest ih =>
    rw [List.foldl_cons, ih]
    cases h.writes op origin <;> cases h.reads op origin <;> rfl

end Graph

namespace Draft

variable {g : Graph} {operands : List (Option Tensor)} {d : Draft}

omit operands in
theorem find?_placements_foldl_addDrafted {ts : List Tensor} {origin : Origin}
    (other : ∀ t ∈ ts, t.origin ≠ origin) :
    (ts.foldl addDrafted g).placements.find? origin = g.placements.find? origin := by
  induction ts generalizing g with
  | nil => rfl
  | cons t rest ih =>
    rw [List.foldl_cons, ih fun u later => other u (List.mem_cons_of_mem _ later), addDrafted_eq]
    dsimp only
    split
    · exact Table.find?_insert_of_ne (other t (List.mem_cons_self ..)).symm
    · rfl

section Attached

variable (sound : Sound g (operands.filterMap id) g.counter d) (wired : g.Wired)
  (owns : g.Owns operands)

include sound wired

theorem Sound.placement_seated {t : Tensor} (member : t ∈ d.tensors) :
    (d.seated { g with counter := d.counter }).placement t = t.initial := by
  have same := placement_foldl_addDrafted d.tensors
    (d.operands.values.foldl addOperand { g with counter := d.counter }) t
    fun u also origin => List.inj_on_of_nodup_map sound.origins_nodup also member origin
  rw [seated, same, rest_foldl_addOperand]
  obtain ⟨n, _, _, made⟩ := sound.made t member
  have unplaced := wired.unplaced n fun id u found other =>
    sound.origin_ne wired.toNumbered found member (made.origin_eq.trans other.symm)
  rw [Graph.placement, made.origin_eq]
  change (g.placements.find? (.made n)).getD t.initial = t.initial
  rw [unplaced]
  rfl

include owns

omit wired in
theorem Sound.find?_seated_of_mem {t : Tensor} (member : t ∈ d.tensors) :
    (d.seated { g with counter := d.counter }).tensors.find? t.id = some t := by
  rw [sound.find?_seated_of_owns owns, sound.drafted?_of_mem member]
  rfl

theorem Sound.placement_attach {t : Tensor} (member : t ∈ d.tensors) :
    (d.attach { g with counter := d.counter }).placement t =
      (d.seated { g with counter := d.counter }).linkedBy d.ops t.origin t.initial := by
  rw [← sound.placement_seated wired member]
  exact Graph.placement_foldl_addNode d.ops (sound.distinguished_seated wired.toNumbered owns)
    (sound.find?_seated_of_mem owns member)

omit wired in
theorem Sound.writes_iff {op : Op} (drafted : op ∈ d.ops) {t : Tensor}
    (member : t ∈ d.tensors) :
    (d.seated { g with counter := d.counter }).writes op t.origin = true ↔
      t.id = Graph.resultId op.id := by
  obtain ⟨u, also, result, outputs⟩ := sound.find?_result drafted
  have named := (mem_of_drafted? result).2
  rw [Graph.writes, outputs, List.any_cons, List.any_nil, Bool.or_false, Graph.standsFor_iff,
    sound.find?_seated_of_mem owns also]
  constructor
  · rintro ⟨v, same, origin⟩
    cases same
    rw [← List.inj_on_of_nodup_map sound.origins_nodup also member origin, named]
  · intro same
    refine ⟨u, rfl, ?_⟩
    rw [List.inj_on_of_nodup_map sound.ids_nodup also member (named.trans same.symm)]

theorem Sound.producer_of_constant {t : Tensor} (member : t ∈ d.tensors)
    {stem : String} {n : Nat} (named : t.id = Graph.numbered stem n)
    (plain : t.initial.producer? = none) :
    ((d.attach { g with counter := d.counter }).placement t).producer? = none := by
  rw [sound.placement_attach wired owns member, Graph.producer_linkedBy_of_unwritten, plain]
  intro op drafted
  by_contra written
  have same := (sound.writes_iff owns drafted member).mp (Bool.not_eq_false _ ▸ written)
  exact Graph.resultId_ne_numbered _ _ _ (same.symm.trans named)

theorem Sound.producer_of_result {t : Tensor} (member : t ∈ d.tensors) {op : Op}
    (drafted : op ∈ d.ops) (named : t.id = Graph.resultId op.id) :
    ((d.attach { g with counter := d.counter }).placement t).producer? = some op.id := by
  rw [sound.placement_attach wired owns member]
  refine Graph.producer_linkedBy_of_writer drafted
    ((sound.writes_iff owns drafted member).mpr named) ?_
  intro other also written
  have same := (sound.writes_iff owns also member).mp written
  exact List.inj_on_of_nodup_map sound.opIds_nodup also drafted
    (Graph.resultId_injective (same.symm.trans named))

variable (unclashed : d.Unclashed g)

include unclashed

omit owns in
theorem Sound.inner {t : Tensor} (member : t ∈ d.tensors) : t.id ∉ g.inputs := by
  intro input
  obtain ⟨u, found⟩ := wired.inputs_known t.id input
  have free := sound.free_of_unclashed unclashed member
  rw [((Graph.isTaken_eq_false_iff g t.id).mp free).1] at found
  contradiction

theorem Sound.role {t : Tensor} (member : t ∈ d.tensors) :
    (d.attach { g with counter := d.counter }).Role t := by
  have frame := sound.frame wired.toNumbered owns unclashed
  have inner : t.id ∉ (d.attach { g with counter := d.counter }).inputs := by
    rw [frame.inputs_eq]
    exact sound.inner wired unclashed member
  obtain ⟨n, _, _, made⟩ := sound.made t member
  cases made with
  | constant data whole free =>
    refine .stored rfl inner ?_ (sound.producer_of_constant wired owns member rfl rfl)
    rw [sound.placement_attach wired owns member, Graph.isInitializer_linkedBy]
    rfl
  | result inferred free =>
    obtain ⟨op, drafted, named⟩ := sound.results _ member rfl
    obtain ⟨k, _, _, new⟩ := sound.newOps op drafted
    refine .made (frame.ops_new op drafted) inner rfl ?_
      (sound.producer_of_result wired owns member drafted named)
    rw [new.outputs_eq, named]

theorem Sound.placed {op : Op} (drafted : op ∈ d.ops) :
    ∃ n, (d.attach { g with counter := d.counter }).Placed op n := by
  have frame := sound.frame wired.toNumbered owns unclashed
  obtain ⟨n, above, bound, new⟩ := sound.newOps op drafted
  obtain ⟨u, also, result, outputs⟩ := sound.find?_result drafted
  have named := (mem_of_drafted? result).2
  refine ⟨n, new.id_eq, by rw [counter_attach]; exact bound, ⟨u, ?_, outputs, ?_⟩, ?_⟩
  · rw [← named]
    exact frame.tensors_new u also
  · exact sound.producer_of_result wired owns also drafted named
  · intro id input
    obtain ⟨t, rfl, known⟩ := new.inputs_known id input
    rcases known with given | ⟨member, m, smaller, made⟩
    · have old := owned_of_present owns given
      refine ⟨t, frame.tensors_kept _ t old, ?_⟩
      intro p producer
      obtain ⟨added, place, _⟩ := frame.links_kept _ t old
      rw [place] at producer
      obtain ⟨stem, m, same, before⟩ := wired.producer_numbered old producer
      exact ⟨stem, m, same, Nat.lt_of_le_of_lt before above⟩
    · refine ⟨t, frame.tensors_new t member, ?_⟩
      intro p producer
      rcases made.id_eq with ⟨stem, constant, held⟩ | ⟨opType, result, unstored⟩
      · obtain ⟨data, held⟩ := Option.ne_none_iff_exists'.mp held
        rw [(sound.role wired owns unclashed member).of_stored held] at producer
        contradiction
      · obtain ⟨other, also, named⟩ := sound.results t member unstored
        rw [sound.producer_of_result wired owns member also named, Option.some.injEq] at producer
        exact ⟨opType, m, producer.symm.trans
          (Graph.resultId_injective (named.symm.trans result)), smaller⟩

theorem Sound.producer_of_found {id : String} {t : Tensor} (found : g.tensors.find? id = some t) :
    ((d.attach { g with counter := d.counter }).placement t).producer? =
      (g.placement t).producer? := by
  obtain ⟨added, place, _⟩ :=
    (sound.frame wired.toNumbered owns unclashed).links_kept id t found
  rw [place]

theorem Sound.role_of_found {id : String} {t : Tensor} (found : g.tensors.find? id = some t) :
    (d.attach { g with counter := d.counter }).Role t := by
  have frame := sound.frame wired.toNumbered owns unclashed
  have producer := sound.producer_of_found wired owns unclashed found
  have inputs : t.id ∈ (d.attach { g with counter := d.counter }).inputs ↔ t.id ∈ g.inputs := by
    rw [frame.inputs_eq]
  obtain ⟨added, place, _⟩ := frame.links_kept id t found
  exact (wired.roles id t found).congr inputs producer (by rw [place]) frame.ops_kept

theorem Sound.placed_of_found {id : String} {op : Op} (found : g.ops.find? id = some op) :
    ∃ n, (d.attach { g with counter := d.counter }).Placed op n := by
  have frame := sound.frame wired.toNumbered owns unclashed
  obtain ⟨n, placed⟩ := wired.placed id op found
  refine ⟨n, placed.mono ?_ fun id t found => ⟨frame.tensors_kept id t found,
    sound.producer_of_found wired owns unclashed found⟩⟩
  rw [counter_attach]
  exact sound.start_le

theorem Sound.readers_attach {id : String} {t : Tensor}
    (found : (d.attach { g with counter := d.counter }).tensors.find? id = some t)
    {reader : String}
    (isRead : reader ∈ ((d.attach { g with counter := d.counter }).placement t).consumers) :
    ∃ op, (d.attach { g with counter := d.counter }).ops.find? reader = some op := by
  have frame := sound.frame wired.toNumbered owns unclashed
  have drafted : reader ∈ d.ops.map Op.id →
      ∃ op, (d.attach { g with counter := d.counter }).ops.find? reader = some op := by
    intro listed
    obtain ⟨op, member, rfl⟩ := List.mem_map.mp listed
    exact ⟨op, frame.ops_new op member⟩
  rcases sound.tensor_of_attach owns found with old | ⟨member, _⟩
  · obtain ⟨added, place, listed, _⟩ := frame.links_kept id t old
    rw [place] at isRead
    rcases List.mem_append.mp isRead with early | later
    · obtain ⟨op, there⟩ := wired.readers id t old reader early
      exact ⟨op, frame.ops_kept reader op there⟩
    · exact drafted (listed later)
  · rw [sound.placement_attach wired owns member] at isRead
    rcases Graph.consumers_linkedBy isRead with early | later
    · obtain ⟨n, _, _, made⟩ := sound.made t member
      cases made <;> exact absurd early List.not_mem_nil
    · exact drafted later

theorem Sound.unplaced_attach {n : Nat}
    (absent : ∀ id t, (d.attach { g with counter := d.counter }).tensors.find? id = some t →
      t.origin ≠ .made n) :
    (d.attach { g with counter := d.counter }).placements.find? (.made n) = none := by
  have frame := sound.frame wired.toNumbered owns unclashed
  have nowhere : ∀ id,
      (d.seated { g with counter := d.counter }).standsFor id (.made n) = false := by
    intro id
    by_contra stands
    obtain ⟨t, found, same⟩ := Graph.standsFor_iff.mp (Bool.not_eq_false _ ▸ stands)
    rw [← tensors_attach] at found
    exact absent id t found same
  rw [attach_eq, Graph.find?_placements_foldl_addNode nowhere, Draft.seated,
    find?_placements_foldl_addDrafted, rest_foldl_addOperand]
  · exact wired.unplaced n fun id t found => absent id t (frame.tensors_kept id t found)
  · exact fun t member => absent t.id t (frame.tensors_new t member)

/-- Committing a draft keeps the wiring. -/
theorem Sound.wired_attach : (d.attach { g with counter := d.counter }).Wired := by
  have frame := sound.frame wired.toNumbered owns unclashed
  exact {
    toNumbered := sound.numbered_attach wired.toNumbered owns
    keyed := by
      intro id t found
      rcases sound.tensor_of_attach owns found with old | ⟨_, named⟩
      · exact wired.keyed id t old
      · exact named
    roles := by
      intro id t found
      rcases sound.tensor_of_attach owns found with old | ⟨member, _⟩
      · exact sound.role_of_found wired owns unclashed old
      · exact sound.role wired owns unclashed member
    readers := fun id t found reader isRead =>
      sound.readers_attach wired owns unclashed found isRead
    unplaced := fun n absent => sound.unplaced_attach wired owns unclashed absent
    inputs_known := by
      intro id member
      rw [frame.inputs_eq] at member
      obtain ⟨t, found⟩ := wired.inputs_known id member
      exact ⟨t, frame.tensors_kept id t found⟩
    inputs_once := by
      rw [frame.inputs_eq]
      exact wired.inputs_once
    opKeyed := by
      intro id op found
      rcases sound.op_of_attach found with old | ⟨_, named⟩
      · exact wired.opKeyed id op old
      · exact named
    placed := by
      intro id op found
      rcases sound.op_of_attach found with old | ⟨member, _⟩
      · exact sound.placed_of_found wired owns unclashed old
      · exact sound.placed wired owns unclashed member }

end Attached

end Draft

end ReductionIR
