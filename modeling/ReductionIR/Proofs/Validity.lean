import ReductionIR.Export
import ReductionIR.Proofs.Configuring
/-
Valid configurations. Every configuration that is built, read or made lenient is valid, is
written as a dictionary that gives it back, and asks for an opset that models are written at.
-/
namespace ReductionIR

open Stepwise

variable {codec : Codec}

/-! Faults that do not come up -/

section Avoiding

variable {ε α β : Type} {e : ε} {result : Except ε α}

theorem bind_ne_error {f : α → Except ε β} (first : result ≠ .error e)
    (rest : ∀ a, f a ≠ .error e) : result >>= f ≠ .error e := by
  cases result with
  | ok a => exact rest a
  | error other => exact fun same => first (congrArg _ (Except.error.inj same))

theorem mapM_ne_error {f : β → Except ε α} (each : ∀ b, f b ≠ .error e) (l : List β) :
    l.mapM f ≠ .error e := by
  induction l with
  | nil => rintro ⟨⟩
  | cons b rest ih =>
    rw [List.mapM_cons]
    exact bind_ne_error (each b) fun _ => bind_ne_error ih fun _ => by rintro ⟨⟩

theorem lift_ne_error {failure : Breakdown} {result : Except Breakdown α}
    (avoided : result ≠ .error failure) : Fault.lift result ≠ .error (.bare failure) := by
  cases result with
  | ok a => rintro ⟨⟩
  | error other =>
    rintro ⟨⟩
    exact avoided rfl

end Avoiding

/-! Writing a model at an opset -/

variable {opset least : Int}

theorem Value.truncated_ne_error (v : Value) : v.truncated ≠ .error (.exportOpset least) := by
  cases v with
  | float x =>
    unfold truncated
    dsimp only
    split <;> rintro ⟨⟩
  | text s =>
    unfold truncated
    dsimp only
    split <;> rintro ⟨⟩
  | _ => rintro ⟨⟩

theorem Value.asElement_ne_error (v : Value) :
    asElement .int64 v ≠ .error (.exportOpset least) := by
  refine bind_ne_error v.truncated_ne_error fun n => ?_
  unfold bounded
  split <;> rintro ⟨⟩

theorem Dense.ofValue_ne_error (data : Value) :
    ofValue data (some .int64) ≠ .error (.exportOpset least) := by
  unfold ofValue
  dsimp only
  split
  · rintro ⟨⟩
  · exact bind_ne_error (mapM_ne_error Value.asElement_ne_error _) fun _ => by rintro ⟨⟩

namespace Graph

theorem brokenLink?_ne (g : Graph) (entry : String × Tensor) :
    g.brokenLink? entry ≠ some (.exportOpset least) := by
  unfold brokenLink?
  dsimp only
  split
  · split <;> simp
  · simp

theorem dangling?_ne (g : Graph) : g.dangling? ≠ some (.exportOpset least) := by
  intro found
  obtain of_op | ⟨_, of_tensor⟩ := Option.or_eq_some_iff.mp found
  · obtain ⟨op, _, missing⟩ := List.exists_of_findSome?_eq_some of_op
    simp at missing
  · obtain ⟨entry, _, broken⟩ := List.exists_of_findSome?_eq_some of_tensor
    exact g.brokenLink?_ne entry broken

theorem validate_ne_error (g : Graph) : g.validate ≠ .error (.exportOpset least) := by
  unfold validate
  cases found : g.dangling? with
  | none => rintro ⟨⟩
  | some failure =>
    rintro ⟨⟩
    exact g.dangling?_ne found

end Graph

namespace Export

theorem valueInfo_ne_error (allow : Bool) (t : Tensor) :
    valueInfo allow t ≠ .error (.bare (.exportOpset least)) := by
  unfold valueInfo
  split <;> split <;> rintro ⟨⟩

theorem initializer_ne_error (name : String) (data : Dense) :
    initializer codec name data ≠ .error (.bare (.exportOpset least)) := by
  refine lift_ne_error ?_
  cases codec.initializer name data <;> rintro ⟨⟩

theorem constants_ne_error (g : Graph) :
    constants codec g ≠ .error (.bare (.exportOpset least)) := by
  unfold constants
  exact mapM_ne_error (fun entry : String × Dense => initializer_ne_error entry.1 entry.2) _

theorem sorted_ne_error (g : Graph) : sorted g ≠ .error (.bare (.exportOpset least)) := by
  unfold sorted
  dsimp only
  split <;> rintro ⟨⟩

theorem reductionNode_ne_error (kind : ReduceKind) (op : Op) :
    reductionNode kind op ≠ .error (.exportOpset least) := by
  refine bind_ne_error (Value.truncated_ne_error _) fun keep => ?_
  split <;> rintro ⟨⟩

theorem squeezeNode_ne_error (op : Op) :
    squeezeNode codec op ≠ .error (.bare (.exportOpset least)) := by
  refine bind_ne_error (lift_ne_error (Dense.ofValue_ne_error _)) fun axes => ?_
  refine bind_ne_error (initializer_ne_error _ _) fun named => ?_
  split <;> rintro ⟨⟩

theorem pieces_ne_error (op : Op) :
    pieces codec op ≠ .error (.bare (.exportOpset least)) := by
  unfold pieces
  cases OpKind.ofName? op.opType with
  | none => rintro ⟨⟩
  | some kind =>
    cases kind with
    | reduce kind => exact lift_ne_error (reductionNode_ne_error kind op)
    | squeeze => exact squeezeNode_ne_error op
    | range =>
      unfold rangeNode
      dsimp only
      split <;> rintro ⟨⟩
    | _ => rintro ⟨⟩

end Export

/-- Only an opset below the least one is refused for being too low. -/
theorem Graph.toModel_eq_exportOpset_iff (g : Graph) (allow : Bool) :
    g.toModel codec opset allow = .error (.bare (.exportOpset least)) ↔
      opset < Breakdown.leastExportOpset ∧ least = opset := by
  unfold toModel
  by_cases low : opset < Breakdown.leastExportOpset
  · rw [if_pos low]
    constructor
    · rintro ⟨⟩
      exact ⟨low, rfl⟩
    · rintro ⟨_, rfl⟩
      rfl
  · rw [if_neg low]
    refine iff_of_false ?_ fun refused => low refused.1
    refine bind_ne_error (lift_ne_error g.validate_ne_error) fun _ => ?_
    refine bind_ne_error (mapM_ne_error (Export.valueInfo_ne_error allow) _) fun inputs => ?_
    refine bind_ne_error (Export.constants_ne_error g) fun initializers => ?_
    dsimp only
    split
    · rintro ⟨⟩
    · refine bind_ne_error (Export.sorted_ne_error g) fun order => ?_
      refine bind_ne_error (mapM_ne_error Export.pieces_ne_error _) fun body => ?_
      refine bind_ne_error (mapM_ne_error (Export.valueInfo_ne_error allow) _) fun outputs => ?_
      split <;> rintro ⟨⟩

/-! Dictionaries of settings -/

namespace Config

variable {given : Fields} {c : Config}

/-- A dictionary of the format with a section of settings. -/
def document (given : Fields) : Value :=
  Fields.value [("version", .int ConfigFailure.formatVersion), ("conversion", given.value)]

theorem value_eq_document (c : Config) : c.value = document c.settings := rfl

theorem named_value (given : Fields) :
    named (given.map fun field => (.text field.1, field.2)) = given := by
  induction given with
  | nil => rfl
  | cons field rest ih => rw [List.map_cons, named_cons rfl, ih]

theorem ofValue_document (known : ∀ name ∈ given.map Prod.fst, name ∈ settingNames) :
    ofValue (document given) = (ofSettings given).mapError refuse := by
  have accepted : firstReason (sectionReasons (given.map fun field => (.text field.1, field.2))) =
      none := by
    refine firstReason_sectionReasons_eq_none_iff.mpr fun entry listed => ?_
    obtain ⟨field, member, rfl⟩ := List.mem_map.mp listed
    exact ⟨field.1, known field.1 (List.mem_map_of_mem member), rfl⟩
  obtain ⟨read, done, same⟩ := (settled_sectionSettings _).exists_ok accepted
  rw [named_value] at same
  change sectionSettings (given.map fun field => (.text field.1, field.2)) >>=
    (fun given => (ofSettings given).mapError refuse) = _
  rw [done, same]
  rfl

theorem follows_settings (c : Config) : c.Follows c.settings := by
  intro name member
  obtain ⟨v, found⟩ := find?_settings_of_mem (c := c) member
  rw [found]

theorem ofSettings_settings (valid : c.Valid) : ofSettings c.settings = .ok c :=
  ofSettings_eq_ok_iff.mpr ⟨c.follows_settings, valid⟩

theorem ofValue_value (valid : c.Valid) : ofValue c.value = .ok c := by
  have known : ∀ name ∈ c.settings.map Prod.fst, name ∈ settingNames := fun _ member => member
  rw [value_eq_document, ofValue_document known, ofSettings_settings valid]
  rfl

/-! Where configurations come from -/

theorem valid_of_ofSettings (done : ofSettings given = .ok c) : c.Valid :=
  (ofSettings_eq_ok_iff.mp done).2

theorem valid_default : Valid {} := ⟨by decide, by decide⟩

theorem valid_of_ofValue {v : Value} (done : ofValue v = .ok c) : c.Valid := by
  unfold ofValue at done
  split at done
  · cases done
    exact valid_default
  · split at done
    · exact ((settled_ofItems _).holds done).2.2
    · contradiction

theorem valid_of_ofBytes {path : String} {bytes : List UInt8}
    (done : ofBytes path bytes = .ok c) : c.Valid := by
  obtain ⟨text, _, done⟩ := except_bind_eq_ok_iff.mp done
  obtain ⟨v, _, done⟩ := except_bind_eq_ok_iff.mp done
  split at done
  · exact valid_of_ofValue done
  · exact valid_of_ofValue done
  · contradiction

theorem valid_of_ofFile {files : Files} {path? : Option String}
    (done : ofFile files path? = .ok c) : c.Valid := by
  cases path? with
  | none =>
    cases done
    exact valid_default
  | some text =>
    obtain ⟨path, _, done⟩ := except_bind_eq_ok_iff.mp done
    obtain ⟨content?, _, done⟩ := except_bind_eq_ok_iff.mp done
    split at done
    · contradiction
    · contradiction
    · exact valid_of_ofBytes done
    · exact valid_of_ofBytes done

/-- The configurations that a run can have: they are built, read or made lenient. -/
inductive Obtained : Config → Prop
  | built {given : Fields} {c : Config} : ofSettings given = .ok c → Obtained c
  | read {v : Value} {c : Config} : ofValue v = .ok c → Obtained c
  | loaded {files : Files} {path? : Option String} {c : Config} :
      ofFile files path? = .ok c → Obtained c
  | lenient {c : Config} : Obtained c → Obtained { c with strict := false }

theorem Obtained.valid (obtained : Obtained c) : c.Valid := by
  induction obtained with
  | built done => exact valid_of_ofSettings done
  | read done => exact valid_of_ofValue done
  | loaded done => exact valid_of_ofFile done
  | lenient _ ih => exact ⟨ih.exportable, ih.ordered⟩

/-- Values for some of the settings. -/
structure Assignment extends Table String Value where
  known : ∀ name ∈ entries.map Prod.fst, name ∈ settingNames

namespace Assignment

variable (m : Assignment)

theorem ofValue_eq : ofValue (document m.entries) = (ofSettings m.entries).mapError refuse :=
  ofValue_document m.known

theorem ofValue_eq_ok_iff :
    ofValue (document m.entries) = .ok c ↔ c.Follows m.entries ∧ c.Valid := by
  rw [m.ofValue_eq, ← ofSettings_eq_ok_iff]
  cases ofSettings m.entries <;> simp [Except.mapError]

theorem acceptable_iff_exists : Acceptable m.entries ↔ ∃ c, ofValue (document m.entries) = .ok c :=
  acceptable_iff.trans (exists_congr fun _ => m.ofValue_eq_ok_iff.symm)

theorem ofValue_of_not_acceptable (wrong : ¬ Acceptable m.entries) :
    ∃ failure, firstReason (settingReasons m.entries) = some failure ∧
      ofValue (document m.entries) = .error (refuse failure) := by
  have settled := settled_ofSettings m.entries
  cases first : firstReason (settingReasons m.entries) with
  | none =>
    obtain ⟨c, _, fits⟩ := settled.exists_ok first
    exact absurd (acceptable_iff.mpr ⟨c, fits⟩) wrong
  | some failure =>
    refine ⟨failure, rfl, ?_⟩
    rw [m.ofValue_eq, settled.eq_error first]
    rfl

end Assignment

/-- The configurations that a run can have are the valid ones. They pass the checks again, come
    back from their dictionary form and ask for an opset that is not too low. They are read from
    all settings that are acceptable; others are refused, unless the wording of the refusal holds
    an integer of too many digits. -/
theorem configurations_are_kept_and_valid (c : Config) (m : Assignment) :
    (Obtained c ↔ c.Valid) ∧ (Obtained c ↔ ofSettings c.settings = .ok c) ∧
    (Obtained c ↔ ofValue c.value = .ok c) ∧
    (Obtained c → ∀ (g : Graph) allow least,
      g.toModel codec c.exportOpset allow ≠ .error (.bare (.exportOpset least))) ∧
    (Acceptable m.entries ↔ ∃ d, ofValue (document m.entries) = .ok d) ∧
    (ofValue (document m.entries) = .ok c ↔ c.Follows m.entries ∧ c.Valid) ∧
    (¬ Acceptable m.entries ↔ ∃ failure, firstReason (settingReasons m.entries) = some failure ∧
      ofValue (document m.entries) =
        .error (if failure.isWritable then .config failure else .bare .notANumber)) := by
  refine ⟨⟨Obtained.valid, fun valid => .built (ofSettings_settings valid)⟩,
    ⟨fun obtained => ofSettings_settings obtained.valid, .built⟩,
    ⟨fun obtained => ofValue_value obtained.valid, .read⟩, fun obtained g allow least refused => ?_,
    m.acceptable_iff_exists, m.ofValue_eq_ok_iff, m.ofValue_of_not_acceptable,
    fun ⟨failure, _, refused⟩ acceptable => ?_⟩
  · have low := ((g.toModel_eq_exportOpset_iff allow).mp refused).1
    exact Int.not_lt.mpr obtained.valid.exportable low
  · obtain ⟨d, done⟩ := m.acceptable_iff_exists.mp acceptable
    cases done.symm.trans refused

/-- With one digit more than can be written an integer has no wording. -/
theorem isWritable_power {digits : Nat} (many : Text.digitLimit ≤ digits) :
    (Value.int (Nat.pow 10 digits)).isWritable = false := by
  unfold Value.isWritable
  rw [decide_eq_false_iff_not, Int.natAbs_natCast, Nat.not_lt]
  -- The limit itself would be worked out as an exponent.
  generalize Text.digitLimit = limit at many ⊢
  exact Nat.pow_le_pow_right (by decide) many

/-- An integer with too many digits in the place of a boolean is not refused. -/
theorem long_integer_is_not_refused :
    ∃ m : Assignment, m.entries = [("strict", .int (Nat.pow 10 Text.digitLimit))] ∧
      ¬ Acceptable m.entries ∧
      ¬ ∃ failure, ofValue (document m.entries) = .error (.config failure) := by
  have long := isWritable_power (Nat.le_refl Text.digitLimit)
  generalize (Nat.pow 10 Text.digitLimit : Int) = n at long ⊢
  refine ⟨⟨⟨[("strict", .int n)], by simp⟩, by simp [settingNames]⟩, rfl, ?_, ?_⟩
  · rintro ⟨⟨b, strict⟩, _⟩
    cases strict
  · have ends : ofValue (document [("strict", .int n)]) =
        .error (refuse (.notBoolean "strict" (.int n))) := rfl
    have unworded : refuse (.notBoolean "strict" (.int n)) = _ := refuse_of_not_isWritable long
    rintro ⟨failure, refused⟩
    cases (ends.trans (congrArg _ unworded)).symm.trans refused

end Config

end ReductionIR
