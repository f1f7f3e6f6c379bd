import ReductionIR.Fault
/-
The configuration of a conversion: four settings with defaults, their checks, and the
versioned dictionary they are written as.
-/
namespace ReductionIR

structure Config where
  /-- End the conversion at the first node that fails. -/
  strict : Bool := true
  /-- The opset a converted model is exported at. -/
  exportOpset : Int := Breakdown.leastExportOpset
  /-- Models of an opset outside this range are loaded with a warning. -/
  leastTested : Int := 1
  greatestTested : Int := 18
deriving DecidableEq

namespace Config

def settingNames : List String :=
  ["strict", "export_opset", "min_tested_opset", "max_tested_opset"]

def settings (c : Config) : Fields :=
  [("strict", .bool c.strict), ("export_opset", .int c.exportOpset),
    ("min_tested_opset", .int c.leastTested), ("max_tested_opset", .int c.greatestTested)]

def setting (given : Fields) (name : String) : Value :=
  ((given.find? name).or (({} : Config).settings.find? name)).getD .null

def boolean (given : Fields) (name : String) : Except ConfigFailure Bool :=
  match setting given name with
  | .bool b => .ok b
  | v => .error (.notBoolean name v)

/-- An integer of any size; a boolean is none. -/
def integer (given : Fields) (name : String) : Except ConfigFailure Int :=
  match setting given name with
  | .int n => .ok n
  | v => .error (.notInteger name v)

/-- The configuration with the given settings, and defaults for the others. -/
def ofSettings (given : Fields) : Except ConfigFailure Config := do
  let strict ← boolean given "strict"
  let exportOpset ← integer given "export_opset"
  let leastTested ← integer given "min_tested_opset"
  let greatestTested ← integer given "max_tested_opset"
  if exportOpset < Breakdown.leastExportOpset then throw (.exportOpset exportOpset)
  if greatestTested < leastTested then throw (.testedRange leastTested greatestTested)
  return { strict, exportOpset, leastTested, greatestTested }

def valueAt? (name : String) : List (Value × Value) → Option Value
  | [] => none
  | (.text key, v) :: rest => if key = name then some v else valueAt? name rest
  | _ :: rest => valueAt? name rest

def textKey? : Value × Value → Option String
  | (.text key, _) => some key
  | _ => none

/-- The settings of a section; unknown names are refused in sorted order, and names that
    are no text cannot be told apart. -/
def sectionSettings (items : List (Value × Value)) : Except Fault Fields :=
  match items.mapM textKey? with
  | none => .error (.bare .wrongType)
  | some names =>
    match names.filter fun name => !settingNames.contains name with
    | [] => .ok (names.zip (items.map Prod.snd))
    | unknown => .error (.config (.unknownSettings (unknown.mergeSort (· ≤ ·))))

/-- A refusal has no wording when an integer in it has too many digits to be written. -/
def refuse (failure : ConfigFailure) : Fault :=
  if failure.isWritable then .config failure else .bare .notANumber

def versionOf (items : List (Value × Value)) : Value := (valueAt? "version" items).getD .null

/-- The section of settings, without any if it does not hold; another value is none. -/
def settingItems? (items : List (Value × Value)) : Option (List (Value × Value)) :=
  match (valueAt? "conversion" items).getD (.dict []) with
  | .dict entries => some entries
  | v => if v.holds then none else some []

def ofItems (items : List (Value × Value)) : Except Fault Config := do
  if (versionOf items).integer? ≠ some ConfigFailure.formatVersion then
    throw (refuse (.version (versionOf items)))
  match settingItems? items with
  | some entries => (ofSettings (← sectionSettings entries)).mapError refuse
  | none => throw (.config .notASection)

/-- Read the dictionary form. A value that does not hold stands for the defaults. -/
def ofValue (v : Value) : Except Fault Config :=
  if !v.holds then .ok {}
  else
    match v with
    | .dict items => ofItems items
    | _ => .error (.bare .notATable)

def value (c : Config) : Value :=
  Fields.value [("version", .int ConfigFailure.formatVersion), ("conversion", c.settings.value)]

end Config

end ReductionIR
