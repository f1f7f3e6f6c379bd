import ReductionIR.Config
import ReductionIR.Files
import ReductionIR.Text.Lower
import ReductionIR.WellFormed
import ReductionIR.Wire.ModelFile
import ReductionIR.Yaml.Document
/-
Loading a model from a file, chosen by the suffix of its name, and a configuration from a
YAML file.
-/
namespace ReductionIR

namespace Loading

def suffixes : List String := [".onnx"]

abbrev Outcome := Except Fault Converted × List String

def refuse (cause : LoadFailure.Cause) (path : Path) : Outcome :=
  (.error (.load { cause, path := path.text }), [])

/-- The model in a file, if there is one. -/
def parse? : Content → Option Model
  | .model m => some m
  | .bytes data => Model.ofBytes? data
  | .folder => none

/-- A warning for each import of the default domain outside the tested range. -/
def opsetWarnings (config : Config) (m : Model) : List String :=
  (m.opsetImports.filter fun entry => Model.defaultDomains.contains entry.1 &&
    !decide (config.leastTested ≤ entry.2 ∧ entry.2 ≤ config.greatestTested)).map fun entry =>
      "ONNX opset " ++ toString entry.2 ++ " outside tested range (" ++
        toString config.leastTested ++ "-" ++ toString config.greatestTested ++ ")"

def convert (config : Config) (path : Path) (m : Model) : Outcome :=
  if !m.isWellFormed then (.error (.model (.rejected path.text)), [])
  else
    let warnings := opsetWarnings config m
    if !m.isConsistent && config.strict then
      (.error (.load { cause := .inconsistentTypes, path := path.text }), warnings)
    else
      let warnings := warnings ++ if m.isConsistent then [] else
        ["Shape inference failed for " ++ path.text ++ "; continuing without full shapes"]
      let (result, more) := m.convert .current .standard config.strict path.name
      (result, warnings ++ more)

def loadFile (files : Files) (config : Config) (path : Path) : Outcome :=
  match files.find? path with
  | none => refuse .absent path
  | some content =>
    if Text.lower path.suffix ∉ suffixes then refuse (.wrongSuffix path.suffix) path
    else
      match parse? content with
      | none => refuse .unparsable path
      | some m => convert config path m

/-- Load a model; failures without a report become failures of the reader. -/
def load (files : Files) (config : Config) (path : Path) : Outcome :=
  let suffix := Text.lower path.suffix
  if (files.find? path).isNone then refuse .missing path
  else if suffix ∉ suffixes then refuse (.unsupportedSuffix suffix suffixes) path
  else
    match loadFile files config path with
    | (.error (.bare _), warnings) =>
      (.error (.load { cause := .reader "ONNXLoader", path := path.text }), warnings)
    | outcome => outcome

def loadNamed (load : Files → Config → Path → Outcome) (files : Files) (config : Config)
    (text : String) : Outcome :=
  match files.locate text with
  | .ok path => load files config path
  | .error failure => (.error (.bare failure), [])

end Loading

namespace Config

/-- End every line with a line feed alone. -/
def unifyLineEnds : List Char → List Char
  | '\r' :: '\n' :: rest => '\n' :: unifyLineEnds rest
  | '\r' :: rest => '\n' :: unifyLineEnds rest
  | c :: rest => c :: unifyLineEnds rest
  | [] => []

/-- The text of bytes, every line ended alike. -/
def decode (bytes : List UInt8) : Except Breakdown String :=
  (Model.decodeText bytes).map fun text => String.ofList (unifyLineEnds text.toList)

def partsRead (d : Yaml.Document) (root : Nat) : Value :=
  let setting (name : String) := if settingNames.contains name then some d.value else none
  d.valueBy (fun name =>
    if name = "version" then some d.value
    else if name = "conversion" then some (d.valueBy setting)
    else none) root

/-- The value of a YAML text, as far as a configuration is read from it; a text that is none is
    reported with its path. -/
def parse (path text : String) : Except Fault Value :=
  match Yaml.Document.ofText text with
  | .ok d => .ok (d.root?.elim .null (partsRead d))
  | .error .invalid => .error (.config (.invalidYaml path))
  | .error (.value failure) => .error (.bare failure)

def ofBytes (path : String) (bytes : List UInt8) : Except Fault Config := do
  let v ← parse path (← Fault.lift (decode bytes))
  match v with
  | .null | .dict _ => Config.ofValue v
  | _ => throw (.config (.notAMapping path))

/-- Read a configuration file; without a path there are only defaults. -/
def ofFile (files : Files) : Option String → Except Fault Config
  | none => .ok {}
  | some text => do
    let path := Path.tidy (← Fault.lift (files.expand text))
    match ← Fault.lift (files.seek path) with
    | none => throw (.config (.missingFile path))
    | some .folder => throw (.bare .isFolder)
    | some (.model m) => ofBytes path m.toBytes
    | some (.bytes bytes) => ofBytes path bytes

end Config

end ReductionIR
