import ReductionIR.Loading
import ReductionIR.Proofs.Reasons
/-
What configurations are read from. The reasons to refuse a dictionary form a list, of which the
first one that applies decides; two of them are no refusals of the configuration, and nothing
else keeps reading from one or the other.
-/
namespace ReductionIR

open Stepwise

/-! Checks with known outcomes -/

/-- The first reason decides how a check fails; without one it has a result that meets a
    condition. -/
def Settled {ε α : Type} (result : Except ε α) (reasons : List (Bool × ε)) (post : α → Prop) :
    Prop :=
  match firstReason reasons with
  | some e => result = .error e
  | none => ∃ a, result = .ok a ∧ post a

namespace Settled

variable {ε η α β : Type} {result : Except ε α} {reasons more : List (Bool × ε)} {post : α → Prop}

theorem ok {a : α} (holds : post a) : Settled (.ok a : Except ε α) [] post := ⟨a, rfl, holds⟩

theorem bind {f : α → Except ε β} {last : β → Prop} (first : Settled result reasons post)
    (rest : ∀ a, post a → Settled (f a) more last) :
    Settled (result >>= f) (reasons ++ more) last := by
  unfold Settled at first ⊢
  rw [firstReason_append]
  cases early : firstReason reasons with
  | some e =>
    rw [early] at first
    rw [first]
    rfl
  | none =>
    rw [early] at first
    obtain ⟨a, done, holds⟩ := first
    rw [done]
    exact rest a holds

theorem guard {p : Prop} [Decidable p] {e : ε} {rest : PUnit → Except ε α}
    (settled : ¬ p → Settled (rest ⟨⟩) reasons post) :
    Settled (if p then throw e >>= rest else rest ⟨⟩) ((decide p, e) :: reasons) post := by
  by_cases applies : p
  · simp only [Settled, firstReason_cons, applies, decide_true, ↓reduceIte]
    rfl
  · simpa only [Settled, firstReason_cons, applies, decide_false,
      Bool.false_eq_true, ↓reduceIte] using settled applies

theorem mapError (settled : Settled result reasons post) (f : ε → η) :
    Settled (result.mapError f) (reasons.map fun reason => (reason.1, f reason.2)) post := by
  unfold Settled at settled ⊢
  rw [firstReason_map]
  cases first : firstReason reasons with
  | some e =>
    rw [first] at settled
    rw [settled]
    rfl
  | none =>
    rw [first] at settled
    obtain ⟨a, done, holds⟩ := settled
    exact ⟨a, by rw [done]; rfl, holds⟩

theorem exists_ok (settled : Settled result reasons post)
    (none_applies : firstReason reasons = none) : ∃ a, result = .ok a ∧ post a := by
  unfold Settled at settled
  rwa [none_applies] at settled

theorem eq_error (settled : Settled result reasons post) {e : ε}
    (first : firstReason reasons = some e) : result = .error e := by
  unfold Settled at settled
  rwa [first] at settled

theorem holds (settled : Settled result reasons post) {a : α} (done : result = .ok a) :
    firstReason reasons = none ∧ post a := by
  cases first : firstReason reasons with
  | some e => cases done.symm.trans (settled.eq_error first)
  | none =>
    obtain ⟨b, same, holds⟩ := settled.exists_ok first
    cases done.symm.trans same
    exact ⟨rfl, holds⟩

end Settled

/-! Settings -/

namespace Config

variable {given : Fields} {name : String} {c d : Config}

/-- What every configuration keeps to. -/
structure Valid (c : Config) : Prop where
  exportable : Breakdown.leastExportOpset ≤ c.exportOpset
  ordered : c.leastTested ≤ c.greatestTested

/-- The settings are those that are given, and defaults for the others. -/
def Follows (c : Config) (given : Fields) : Prop :=
  ∀ name ∈ settingNames, match given.find? name with
    | some v => c.settings.find? name = some v
    | none => c.settings.find? name = ({} : Config).settings.find? name

/-- Settings that a configuration can have: with the defaults they are a boolean and integers
    in their order. -/
structure Acceptable (given : Fields) : Prop where
  strict : ∃ b, setting given "strict" = .bool b
  opsets : ∃ opset least greatest : Int, setting given "export_opset" = .int opset ∧
    setting given "min_tested_opset" = .int least ∧
    setting given "max_tested_opset" = .int greatest ∧
    Breakdown.leastExportOpset ≤ opset ∧ least ≤ greatest

theorem find?_settings_of_mem (member : name ∈ settingNames) :
    ∃ v, c.settings.find? name = some v := by
  simp only [settingNames, List.mem_cons, List.not_mem_nil, or_false] at member
  obtain rfl | rfl | rfl | rfl := member <;> exact ⟨_, rfl⟩

theorem follows_iff_setting : c.Follows given ↔
    ∀ name ∈ settingNames, c.settings.find? name = some (setting given name) := by
  refine forall₂_congr fun name member => ?_
  obtain ⟨otherwise, default⟩ := find?_settings_of_mem (c := {}) member
  unfold setting
  cases given.find? name with
  | some v => rfl
  | none => rw [default]; rfl

theorem follows_iff : c.Follows given ↔ setting given "strict" = .bool c.strict ∧
    setting given "export_opset" = .int c.exportOpset ∧
    setting given "min_tested_opset" = .int c.leastTested ∧
    setting given "max_tested_opset" = .int c.greatestTested := by
  simp only [follows_iff_setting, settingNames, List.forall_mem_cons]
  refine ⟨fun ⟨strict, opset, least, greatest, _⟩ => ?_, fun ⟨strict, opset, least, greatest⟩ => ?_⟩
  · exact ⟨(Option.some.inj strict).symm, (Option.some.inj opset).symm,
      (Option.some.inj least).symm, (Option.some.inj greatest).symm⟩
  · rw [strict, opset, least, greatest]
    exact ⟨rfl, rfl, rfl, rfl, by simp⟩

theorem Follows.unique (one : c.Follows given) (other : d.Follows given) : c = d := by
  obtain ⟨strict, opset, least, greatest⟩ := follows_iff.mp one
  obtain ⟨strict', opset', least', greatest'⟩ := follows_iff.mp other
  obtain ⟨⟩ := c
  obtain ⟨⟩ := d
  rw [Config.mk.injEq]
  exact ⟨Value.bool.inj (strict.symm.trans strict'), Value.int.inj (opset.symm.trans opset'),
    Value.int.inj (least.symm.trans least'), Value.int.inj (greatest.symm.trans greatest')⟩

theorem acceptable_iff : Acceptable given ↔ ∃ c : Config, c.Follows given ∧ c.Valid := by
  constructor
  · rintro ⟨⟨strict, a⟩, exportOpset, leastTested, greatestTested, b, c, d, exportable, ordered⟩
    exact ⟨⟨strict, exportOpset, leastTested, greatestTested⟩, follows_iff.mpr ⟨a, b, c, d⟩,
      exportable, ordered⟩
  · rintro ⟨c, follows, exportable, ordered⟩
    obtain ⟨strict, opset, least, greatest⟩ := follows_iff.mp follows
    exact ⟨⟨_, strict⟩, _, _, _, opset, least, greatest, exportable, ordered⟩

def isBoolean : Value → Bool
  | .bool _ => true
  | _ => false

def isInteger : Value → Bool
  | .int _ => true
  | _ => false

/-- The integer that a setting is. -/
def opsetOf (given : Fields) (name : String) : Int :=
  match setting given name with
  | .int n => n
  | _ => 0

def booleanReason (given : Fields) (name : String) : Bool × ConfigFailure :=
  (!isBoolean (setting given name), .notBoolean name (setting given name))

def integerReason (given : Fields) (name : String) : Bool × ConfigFailure :=
  (!isInteger (setting given name), .notInteger name (setting given name))

/-- Reasons to refuse settings, the earlier ones first. -/
def settingReasons (given : Fields) : List (Bool × ConfigFailure) :=
  [booleanReason given "strict", integerReason given "export_opset",
    integerReason given "min_tested_opset", integerReason given "max_tested_opset",
    (decide (opsetOf given "export_opset" < Breakdown.leastExportOpset),
      .exportOpset (opsetOf given "export_opset")),
    (decide (opsetOf given "max_tested_opset" < opsetOf given "min_tested_opset"),
      .testedRange (opsetOf given "min_tested_opset") (opsetOf given "max_tested_opset"))]

theorem settled_boolean (given : Fields) (name : String) :
    Settled (boolean given name) [booleanReason given name] fun b =>
      setting given name = .bool b := by
  unfold boolean booleanReason
  cases setting given name with
  | bool b => exact ⟨b, rfl, rfl⟩
  | _ => rfl

theorem settled_integer (given : Fields) (name : String) :
    Settled (integer given name) [integerReason given name] fun n =>
      setting given name = .int n := by
  unfold integer integerReason
  cases setting given name with
  | int n => exact ⟨n, rfl, rfl⟩
  | _ => rfl

/-- Settings are refused for the first reason that applies; without one there is a
    configuration that follows them. -/
theorem settled_ofSettings (given : Fields) :
    Settled (ofSettings given) (settingReasons given) fun c => c.Follows given ∧ c.Valid := by
  refine (settled_boolean given "strict").bind fun strict is_strict => ?_
  refine (settled_integer given "export_opset").bind fun opset is_opset => ?_
  refine (settled_integer given "min_tested_opset").bind fun least is_least => ?_
  refine (settled_integer given "max_tested_opset").bind fun greatest is_greatest => ?_
  have opsets : opsetOf given "export_opset" = opset ∧ opsetOf given "min_tested_opset" = least ∧
      opsetOf given "max_tested_opset" = greatest := by
    simp only [opsetOf, is_opset, is_least, is_greatest, and_self]
  rw [opsets.1, opsets.2.1, opsets.2.2]
  refine Settled.guard fun high => Settled.guard fun ordered => Settled.ok ⟨?_, ?_⟩
  · exact follows_iff.mpr ⟨is_strict, is_opset, is_least, is_greatest⟩
  · exact ⟨Int.not_lt.mp high, Int.not_lt.mp ordered⟩

theorem ofSettings_eq_ok_iff : ofSettings given = .ok c ↔ c.Follows given ∧ c.Valid := by
  constructor
  · intro done
    exact ((settled_ofSettings given).holds done).2
  · rintro ⟨follows, valid⟩
    have settled := settled_ofSettings given
    cases first : firstReason (settingReasons given) with
    | none =>
      obtain ⟨d, done, same, _⟩ := settled.exists_ok first
      rw [done, same.unique follows]
    | some failure =>
      exfalso
      obtain ⟨strict, opset, least, greatest⟩ := follows_iff.mp follows
      have high := Int.not_lt.mpr valid.exportable
      have ordered := Int.not_lt.mpr valid.ordered
      simp [settingReasons, booleanReason, integerReason, opsetOf, isBoolean, isInteger, strict,
        opset, least, greatest, high, ordered] at first

/-! Sections -/

variable {entries items : List (Value × Value)}

/-- The entries that are named by texts. -/
def named (entries : List (Value × Value)) : Fields :=
  entries.filterMap fun entry => (textKey? entry).map fun name => (name, entry.2)

def hasTextKey (entry : Value × Value) : Bool := (textKey? entry).isSome

/-- Names that are no settings. -/
def strangers (entries : List (Value × Value)) : List String :=
  ((named entries).map Prod.fst).filter fun name => !settingNames.contains name

/-- Reasons to refuse a section before its settings are looked at. -/
def sectionReasons (entries : List (Value × Value)) : List (Bool × Fault) :=
  [(!entries.all hasTextKey, .bare .wrongType),
    (!(strangers entries).isEmpty,
      .config (.unknownSettings ((strangers entries).mergeSort (· ≤ ·))))]

theorem named_cons {entry : Value × Value} {name : String} (key : textKey? entry = some name) :
    named (entry :: entries) = (name, entry.2) :: named entries :=
  List.filterMap_cons_some (by rw [key]; rfl)

theorem mapM_textKey? (entries : List (Value × Value)) : entries.mapM textKey? =
    if entries.all hasTextKey then some ((named entries).map Prod.fst) else none := by
  induction entries with
  | nil => rfl
  | cons entry rest ih =>
    rw [List.mapM_cons, ih]
    cases key : textKey? entry with
    | none => simp [hasTextKey, key]
    | some name =>
      have here : hasTextKey entry = true := by rw [hasTextKey, key]; rfl
      rw [named_cons key, List.all_cons, here, Bool.true_and]
      cases rest.all hasTextKey <;> rfl

theorem zip_named (all_text : entries.all hasTextKey = true) :
    ((named entries).map Prod.fst).zip (entries.map Prod.snd) = named entries := by
  induction entries with
  | nil => rfl
  | cons entry rest ih =>
    obtain ⟨here, others⟩ := Bool.and_eq_true_iff.mp all_text
    obtain ⟨name, key⟩ := Option.isSome_iff_exists.mp here
    rw [named_cons key, List.map_cons, List.map_cons, List.zip_cons_cons, ih others]

theorem settled_sectionSettings (entries : List (Value × Value)) :
    Settled (sectionSettings entries) (sectionReasons entries) fun given =>
      given = named entries := by
  unfold sectionSettings sectionReasons
  rw [mapM_textKey?]
  cases text : entries.all hasTextKey with
  | false => rfl
  | true =>
    cases unknown : strangers entries with
    | nil =>
      unfold strangers at unknown
      simp only [↓reduceIte, unknown]
      exact ⟨_, rfl, zip_named text⟩
    | cons =>
      unfold strangers at unknown
      simp only [↓reduceIte, unknown]
      rfl

/-! Dictionaries -/

/-- The entries of the section of settings, none if there is no section. -/
def entriesOf (items : List (Value × Value)) : List (Value × Value) := (settingItems? items).getD []

/-- Reasons to refuse the items of a dictionary, the earlier ones first. -/
def itemReasons (items : List (Value × Value)) : List (Bool × Fault) :=
  (decide ((versionOf items).integer? ≠ some ConfigFailure.formatVersion),
      refuse (.version (versionOf items))) ::
    ((settingItems? items).isNone, .config .notASection) ::
      (sectionReasons (entriesOf items) ++
        (settingReasons (named (entriesOf items))).map fun reason => (reason.1, refuse reason.2))

/-- Items are refused for the first reason that applies; without one there is a configuration
    that follows their section of settings. -/
theorem settled_ofItems (items : List (Value × Value)) :
    Settled (ofItems items) (itemReasons items) fun c =>
      c.Follows (named (entriesOf items)) ∧ c.Valid := by
  unfold ofItems itemReasons
  refine Settled.guard fun _ => ?_
  unfold entriesOf
  dsimp only
  cases settingItems? items with
  | none => rfl
  | some entries =>
    refine (settled_sectionSettings entries).bind fun given same => ?_
    rw [same]
    exact (settled_ofSettings _).mapError refuse

/-! How reading ends -/

/-- The section of settings is read and has a name that is no text. -/
def HasForeignName (items : List (Value × Value)) : Prop :=
  (versionOf items).integer? = some ConfigFailure.formatVersion ∧
    ∃ entry ∈ entriesOf items, textKey? entry = none

instance : Decidable (HasForeignName items) :=
  inferInstanceAs (Decidable ((versionOf items).integer? = some ConfigFailure.formatVersion ∧
    ∃ entry ∈ entriesOf items, textKey? entry = none))

/-- Nothing is wrong with a section before its settings are looked at. -/
def HasKnownNames (items entries : List (Value × Value)) : Prop :=
  (versionOf items).integer? = some ConfigFailure.formatVersion ∧
    settingItems? items = some entries ∧ ∀ entry ∈ entries, ∃ name ∈ settingNames, entry.1 = .text name

/-- What is wrong first, the version or a setting, is worded with an integer of too many digits. -/
def IsUnwordable (items : List (Value × Value)) : Prop :=
  items ≠ [] ∧
    ((versionOf items).integer? ≠ some ConfigFailure.formatVersion ∧
        (versionOf items).isWritable = false ∨
      ∃ entries failure, HasKnownNames items entries ∧
        firstReason (settingReasons (named entries)) = some failure ∧ failure.isWritable = false)

theorem textKey?_eq_some_iff {entry : Value × Value} {name : String} :
    textKey? entry = some name ↔ entry.1 = .text name := by
  obtain ⟨key, v⟩ := entry
  unfold textKey?
  cases key <;> simp

theorem mem_names_named {name : String} :
    name ∈ (named entries).map Prod.fst ↔ ∃ entry ∈ entries, entry.1 = .text name := by
  simp [named, textKey?_eq_some_iff]

theorem all_hasTextKey_iff : entries.all hasTextKey = true ↔
    ∀ entry ∈ entries, ∃ name, entry.1 = .text name := by
  simp only [List.all_eq_true, hasTextKey, Option.isSome_iff_exists, textKey?_eq_some_iff]

theorem strangers_eq_nil_iff :
    strangers entries = [] ↔
      ∀ entry ∈ entries, ∀ name, entry.1 = .text name → name ∈ settingNames := by
  simp only [strangers, List.filter_eq_nil_iff, mem_names_named, List.contains_eq_mem,
    Bool.not_eq_true', decide_eq_false_iff_not, not_not]
  exact ⟨fun known entry listed name key => known name ⟨entry, listed, key⟩,
    fun known name ⟨entry, listed, key⟩ => known entry listed name key⟩

theorem firstReason_sectionReasons_eq_none_iff :
    firstReason (sectionReasons entries) = none ↔
      ∀ entry ∈ entries, ∃ name ∈ settingNames, entry.1 = .text name := by
  have parts : firstReason (sectionReasons entries) = none ↔
      (∀ entry ∈ entries, ∃ name, entry.1 = .text name) ∧ strangers entries = [] := by
    rw [← all_hasTextKey_iff]
    simp only [sectionReasons]
    cases entries.all hasTextKey <;> cases strangers entries <;> simp
  rw [parts, strangers_eq_nil_iff]
  constructor
  · intro ⟨text, known⟩ entry listed
    obtain ⟨name, key⟩ := text entry listed
    exact ⟨name, known entry listed name key, key⟩
  · intro known
    refine ⟨fun entry listed => ?_, fun entry listed name key => ?_⟩
    · obtain ⟨name, _, key⟩ := known entry listed
      exact ⟨name, key⟩
    · obtain ⟨same, member, also⟩ := known entry listed
      cases key.symm.trans also
      exact member

theorem exists_of_firstReason_sectionReasons {fault : Fault}
    (text : ∀ entry ∈ entries, textKey? entry ≠ none)
    (first : firstReason (sectionReasons entries) = some fault) :
    ∃ failure, fault = .config failure := by
  have all_text : entries.all hasTextKey = true :=
    List.all_eq_true.mpr fun entry listed => Option.isSome_iff_ne_none.mpr (text entry listed)
  simp only [sectionReasons, firstReason_cons, all_text, Bool.not_true, Bool.false_eq_true,
    ↓reduceIte] at first
  split at first
  · exact ⟨_, (Option.some.inj first).symm⟩
  · contradiction

theorem settingItems?_of_mem {entry : Value × Value} (listed : entry ∈ entriesOf items) :
    settingItems? items = some (entriesOf items) := by
  unfold entriesOf at listed ⊢
  cases found : settingItems? items with
  | none => simp [found] at listed
  | some entries => rfl

theorem firstReason_itemReasons
    (version : (versionOf items).integer? = some ConfigFailure.formatVersion)
    (found : settingItems? items = some entries) :
    firstReason (itemReasons items) = (firstReason (sectionReasons entries)).or
      ((firstReason (settingReasons (named entries))).map refuse) := by
  simp [itemReasons, entriesOf, version, found, firstReason_map]

theorem refuse_of_isWritable {failure : ConfigFailure} (writable : failure.isWritable = true) :
    refuse failure = .config failure := if_pos writable

theorem refuse_of_not_isWritable {failure : ConfigFailure} (writable : failure.isWritable = false) :
    refuse failure = .bare .notANumber := if_neg (by simp [writable])

theorem ofItems_of_hasForeignName (foreign : HasForeignName items) :
    ofItems items = .error (.bare .wrongType) := by
  obtain ⟨version, entry, listed, key⟩ := foreign
  refine (settled_ofItems items).eq_error ?_
  have other : (entriesOf items).all hasTextKey = false :=
    List.all_eq_false.mpr ⟨entry, listed, by simp [hasTextKey, key]⟩
  rw [firstReason_itemReasons version (settingItems?_of_mem listed)]
  simp [sectionReasons, other]

theorem ofItems_of_isUnwordable (unwordable : IsUnwordable items) :
    ofItems items = .error (.bare .notANumber) := by
  refine (settled_ofItems items).eq_error ?_
  obtain ⟨_, ⟨version, long⟩ | ⟨entries, failure, ⟨version, found, known⟩, first, long⟩⟩ :=
    unwordable
  · have refused : refuse (.version (versionOf items)) = _ := refuse_of_not_isWritable long
    simp [itemReasons, version, refused]
  · rw [firstReason_itemReasons version found, firstReason_sectionReasons_eq_none_iff.mpr known,
      first, Option.map_some, refuse_of_not_isWritable long]
    rfl

/-- A configuration comes out, or a refusal of one. -/
def Proper (result : Except Fault Config) : Prop :=
  (∃ c, result = .ok c) ∨ ∃ failure, result = .error (.config failure)

theorem proper_ofItems (some_item : items ≠ []) (native : ¬ HasForeignName items)
    (wordable : ¬ IsUnwordable items) : Proper (ofItems items) := by
  have settled := settled_ofItems items
  cases first : firstReason (itemReasons items) with
  | none =>
    obtain ⟨c, done, _⟩ := settled.exists_ok first
    exact Or.inl ⟨c, done⟩
  | some fault =>
    suffices ∃ failure, fault = .config failure by
      obtain ⟨failure, rfl⟩ := this
      exact Or.inr ⟨failure, settled.eq_error first⟩
    -- the first reason is the version, the shape of the section or what it holds
    by_cases version : (versionOf items).integer? = some ConfigFailure.formatVersion
    · cases found : settingItems? items with
      | none =>
        rw [itemReasons, firstReason_cons, if_neg (by simpa using version), firstReason_cons, found]
          at first
        exact ⟨_, (Option.some.inj first).symm⟩
      | some entries =>
        rw [firstReason_itemReasons version found] at first
        cases strange : firstReason (sectionReasons entries) with
        | some other =>
          rw [strange] at first
          cases first
          refine exists_of_firstReason_sectionReasons (fun entry listed key => ?_) strange
          exact native ⟨version, entry, by rwa [entriesOf, found], key⟩
        | none =>
          rw [strange, Option.none_or, Option.map_eq_some_iff] at first
          obtain ⟨failure, refused, rfl⟩ := first
          have writable : failure.isWritable = true := by
            by_contra long
            exact wordable ⟨some_item, Or.inr ⟨entries, failure, ⟨version, found,
              firstReason_sectionReasons_eq_none_iff.mp strange⟩, refused, by simpa using long⟩⟩
          exact ⟨failure, refuse_of_isWritable writable⟩
    · have writable : (ConfigFailure.version (versionOf items)).isWritable = true := by
        by_contra long
        exact wordable ⟨some_item, Or.inl ⟨version, (Bool.not_eq_true _).mp long⟩⟩
      rw [itemReasons, firstReason_cons, if_pos (by simpa using version)] at first
      exact ⟨_, (Option.some.inj first).symm.trans (refuse_of_isWritable writable)⟩

theorem ofValue_dict (some_item : items ≠ []) : ofValue (.dict items) = ofItems items := by
  cases items with
  | nil => contradiction
  | cons => rfl

theorem not_hasForeignName_nil : ¬ HasForeignName [] := fun foreign => nomatch foreign.1

theorem ofValue_of_hasForeignName (foreign : HasForeignName items) :
    ofValue (.dict items) = .error (.bare .wrongType) := by
  rw [ofValue_dict (by rintro rfl; exact not_hasForeignName_nil foreign)]
  exact ofItems_of_hasForeignName foreign

theorem ofValue_of_isUnwordable (unwordable : IsUnwordable items) :
    ofValue (.dict items) = .error (.bare .notANumber) := by
  rw [ofValue_dict unwordable.1]
  exact ofItems_of_isUnwordable unwordable

theorem not_proper {result : Except Fault Config} {failure : Breakdown}
    (ends : result = .error (.bare failure)) : ¬ Proper result := by
  rintro (⟨c, done⟩ | ⟨refusal, refused⟩)
  · cases ends.symm.trans done
  · cases ends.symm.trans refused

/-- Reading a dictionary ends with a configuration or a refusal of one, but for two things: a name
    that is no text is a value of the wrong type, and a number that is too long is no number. -/
theorem reading_is_proper_iff (items : List (Value × Value)) :
    (Proper (ofValue (.dict items)) ↔ ¬ HasForeignName items ∧ ¬ IsUnwordable items) ∧
    (ofValue (.dict items) = .error (.bare .wrongType) ↔ HasForeignName items) ∧
    (ofValue (.dict items) = .error (.bare .notANumber) ↔ IsUnwordable items) := by
  have others_end (native : ¬ HasForeignName items) (wordable : ¬ IsUnwordable items) :
      Proper (ofValue (.dict items)) := by
    by_cases empty : items = []
    · subst empty
      exact Or.inl ⟨{}, rfl⟩
    · rw [ofValue_dict empty]
      exact proper_ofItems empty native wordable
  refine ⟨⟨fun proper => ⟨fun foreign => ?_, fun unwordable => ?_⟩, fun ⟨native, wordable⟩ => ?_⟩,
    ⟨fun ends => ?_, ofValue_of_hasForeignName⟩, ⟨fun ends => ?_, ofValue_of_isUnwordable⟩⟩
  · exact not_proper (ofValue_of_hasForeignName foreign) proper
  · exact not_proper (ofValue_of_isUnwordable unwordable) proper
  · exact others_end native wordable
  · by_contra native
    by_cases unwordable : IsUnwordable items
    · cases ends.symm.trans (ofValue_of_isUnwordable unwordable)
    · exact not_proper ends (others_end native unwordable)
  · by_contra wordable
    by_cases foreign : HasForeignName items
    · cases ends.symm.trans (ofValue_of_hasForeignName foreign)
    · exact not_proper ends (others_end foreign wordable)

/-- The items of a dictionary; other values have none. -/
def itemsOf : Value → List (Value × Value)
  | .dict items => items
  | _ => []

/-- The name of a setting can be a number in a file, which ends reading without a refusal. -/
theorem number_as_name_is_not_refused :
    ∃ items, parse "c.yaml" "version: 1\nconversion:\n  1: true\n" = .ok (.dict items) ∧
      ¬ Proper (ofValue (.dict items)) := by
  have read : ((parse "c.yaml" "version: 1\nconversion:\n  1: true\n").toOption.any fun v =>
      decide (HasForeignName (itemsOf v))) = true := by decide +kernel
  generalize parse "c.yaml" "version: 1\nconversion:\n  1: true\n" = result at read ⊢
  cases result with
  | error fault => contradiction
  | ok v =>
    have foreign : HasForeignName (itemsOf v) := of_decide_eq_true read
    cases v with
    | dict items => exact ⟨items, rfl, not_proper (ofValue_of_hasForeignName foreign)⟩
    | _ => exact absurd foreign not_hasForeignName_nil

end Config

end ReductionIR
