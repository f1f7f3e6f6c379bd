import ReductionIR.Console.Markup
import ReductionIR.Export
import ReductionIR.Loading
/-
The command line: `convert` lowers a model file and lists the operators of the result, and
`ops` lists what can be lowered. A run is a function of its arguments and the files.
-/
namespace ReductionIR.Cli

def programName : String := Export.producerName
def version : String := "0.1.0"

/-- What a run prints. -/
inductive Output
  | json (v : Value)
  | lines (lines : List String)

structure Outcome where
  exitCode : Nat
  /-- A run that is refused for its arguments prints no result. -/
  output : Option Output := none
  warnings : List String := []
  /-- A failure that has no report and ends the run. -/
  failure : Option Breakdown := none
  /-- The model that the run writes to a file. -/
  written : Option (String × Model) := none

def misuse : Outcome := { exitCode := 2 }

def printed (lines : List String) : Outcome := { exitCode := 0, output := some (.lines lines) }

/-! Arguments -/

/-- The options of a command: those that stand alone and those that take a value. -/
structure Options where
  flags : List String
  valued : List String

structure Arguments where
  flags : List String := []
  values : List (String × String) := []
  rest : List String := []

/-- The last value of an option counts. -/
def Arguments.value? (args : Arguments) (name : String) : Option String :=
  ((args.values.filter fun entry => entry.1 == name).getLast?).map Prod.snd

/-- A long option and the value joined to it by an equals sign, if there is one. -/
def splitOption (text : String) : String × Option String :=
  let name := text.toList.takeWhile (· ≠ '=')
  match text.toList.drop name.length with
  | [] => (text, none)
  | _ :: value => (String.ofList name, some (String.ofList value))

def isOption (text : String) : Bool := text.startsWith "-" && text != "-"

/-- Sort arguments into options and the rest. With `mixed` unset, the first argument that is
    no option ends the options. -/
def sortArguments (options : Options) (mixed : Bool) :
    Arguments → List String → Option Arguments
  | args, [] => some args
  | args, text :: more =>
    if text = "--" then some { args with rest := args.rest ++ more }
    else if !isOption text then
      if mixed then
        sortArguments options mixed { args with rest := args.rest ++ [text] } more
      else some { args with rest := args.rest ++ text :: more }
    else
      let (name, joined) := splitOption text
      if options.flags.contains name then
        if joined.isSome then none
        else sortArguments options mixed { args with flags := args.flags ++ [name] } more
      else if options.valued.contains name then
        match joined, more.head? with
        | some value, _ =>
          sortArguments options mixed { args with values := args.values ++ [(name, value)] } more
        | none, some value =>
          sortArguments options mixed { args with values := args.values ++ [(name, value)] }
            (more.drop 1)
        | none, none => none
      else none
  termination_by _ texts => texts.length

def topOptions : Options := ⟨["--verbose", "--version", "--help"], []⟩
def convertOptions : Options := ⟨["--no-strict", "--json", "--help"], ["--config", "--export"]⟩
def opsOptions : Options := ⟨["--json", "--help"], []⟩

/-- What `convert` is asked to do. -/
structure Request where
  modelPath : String
  configPath : Option String
  noStrict : Bool
  exportPath : Option String
  json : Bool

/-- Why arguments make no request: they do not fit, or a path is none. -/
inductive Refusal
  | misuse
  | broken (failure : Breakdown)

/-- Check a path by what it leads to, step by step. -/
def checkPath (files : Files) (path : String) (fits : Option Content → Bool) :
    Except Refusal Unit :=
  if Path.holdsZero path then .error (.broken .zeroInPath)
  else if fits (files.reached? path) then .ok ()
  else .error .misuse

def fitsModel : Option Content → Bool
  | some .folder | none => false
  | some _ => true

/-- An export must not go to a folder. -/
def fitsExport : Option Content → Bool
  | some .folder => false
  | _ => true

def checkOption (files : Files) (args : Arguments) (name : String) : Except Refusal Unit :=
  match args.value? name with
  | none => .ok ()
  | some path => checkPath files path (if name = "--config" then Option.isSome else fitsExport)

/-- The request that sorted arguments make, if the paths in it fit. Options are checked first,
    in the order in which they are given. -/
def request? (files : Files) (args : Arguments) : Except Refusal Request := do
  (args.values.map Prod.fst).eraseDups.forM (checkOption files args)
  match args.rest with
  | modelPath :: extra =>
    checkPath files modelPath fitsModel
    if !extra.isEmpty then throw .misuse
    return { modelPath, configPath := args.value? "--config", exportPath := args.value? "--export",
             noStrict := args.flags.contains "--no-strict", json := args.flags.contains "--json" }
  | [] => throw .misuse

/-! Converting -/

def exported (files : Files) (config : Config) (request : Request) (g : Graph) :
    Except Fault (Option (String × Model)) :=
  match request.exportPath with
  | none => .ok none
  | some path =>
    if path = "" then .ok none
    else do
      let m ← g.toModel .current config.exportOpset false
      Fault.lift (files.checkWritable path)
      return some (path, m)

structure Result where
  converted : Converted
  written : Option (String × Model)

/-- Read the configuration, load the model, check and export it. -/
def work (files : Files) (request : Request) : Except Fault Result × List String :=
  match Config.ofFile files request.configPath with
  | .error fault => (.error fault, [])
  | .ok config =>
    let config := if request.noStrict then { config with strict := false } else config
    let (loaded, warnings) := Loading.loadNamed Loading.load files config request.modelPath
    let result := do
      let converted ← loaded
      Fault.lift converted.graph.validate
      return { converted, written := ← exported files config request converted.graph }
    (result, warnings)

def countFields (counts : Table String Nat) : Fields :=
  counts.entries.map fun entry => (entry.1, .int entry.2)

def summary (request : Request) (c : Converted) : Value :=
  let g := c.graph
  Fields.value [
    ("ok", .bool c.failures.isEmpty), ("model", .text c.sourceName),
    ("opsets", Fields.value (c.opsets.entries.map fun entry => (entry.1, .int entry.2))),
    ("nodes", .int g.ops.size), ("operators", Fields.value (countFields g.histogram)),
    ("inputs", .ofStrings ((g.tensorsOf g.inputs).map Tensor.id)),
    ("outputs", .ofStrings ((g.tensorsOf g.outputs).map Tensor.id)),
    ("errors", .list (c.failures.map fun failure => failure.report.fields.value)),
    ("export", .ofString? request.exportPath)]

/-- A line to print: marked up, plain with names of pictographs, or fixed. -/
inductive Line
  | marked (text : String)
  | plain (text : String)
  | fixed (text : String)

def Line.shown? : Line → Option String
  | marked text => Console.shown? text
  | plain text => some (Console.shownPlain text)
  | fixed text => some text

/-- What is printed of some lines, and the failure that cuts them short. -/
def printLines : List Line → List String × Option Breakdown
  | [] => ([], none)
  | line :: rest =>
    match line.shown? with
    | none => ([], some .unmatchedTag)
    | some text =>
      let (texts, failure) := printLines rest
      (text :: texts, failure)

def outputLine (t : Tensor) : Line :=
  .marked ("  output " ++ t.id ++ ": " ++ t.dtype.typeName ++ " " ++ t.shape.text)

/-- The operators of a graph and how often each occurs, by name. -/
def operatorLines (g : Graph) : List Line :=
  let rows := g.histogram.entries.mergeSort fun a b => decide (a.1 ≤ b.1)
  [.fixed "IR operators", .fixed "Op Count"] ++
    rows.map fun row => .fixed (row.1 ++ " " ++ toString row.2)

def summaryLines (request : Request) (c : Converted) : List Line :=
  let g := c.graph
  [.marked ("[bold]" ++ c.sourceName ++ "[/bold]  " ++ g.text)] ++ operatorLines g ++
    (g.tensorsOf g.outputs).map outputLine ++
    (match request.exportPath with
      | some path => if path = "" then [] else [.marked ("  exported to " ++ path)]
      | none => []) ++
    (if c.failures.isEmpty then []
      else .fixed (toString c.failures.length ++ " node(s) failed to lower:") ::
        c.failures.map fun failure =>
          .plain ("  [" ++ failure.report.code.label ++ "] " ++ failure.message))

/-- The outcome of a conversion that came to an end. A report that cannot be printed to its end
    is a failure of the run. -/
def finished (request : Request) (result : Result) (warnings : List String) : Outcome :=
  let c := result.converted
  let status := if c.failures.isEmpty then 0 else 1
  if request.json then
    { exitCode := status, output := some (.json (summary request c)), warnings,
      written := result.written }
  else
    let (lines, failure) := printLines (summaryLines request c)
    { exitCode := if failure.isSome then 1 else status, output := some (.lines lines), warnings,
      failure, written := result.written }

def broken (failure : Breakdown) (warnings : List String) : Outcome :=
  { exitCode := 1, output := some (.lines []), warnings, failure := some failure }

def convert (files : Files) (request : Request) : Outcome :=
  match work files request with
  | (.ok result, warnings) => finished request result warnings
  | (.error fault, warnings) =>
    match fault.report?, fault with
    | some report, _ =>
      let output := if request.json then
          Output.json (Fields.value [("ok", .bool false), ("error", report.fields.value)])
        else .lines ("Conversion Error" :: report.lines.map Console.shownPlain)
      { exitCode := report.exitCode.value, output := some output, warnings }
    | none, .bare failure => broken failure warnings
    | none, _ => { exitCode := 1, warnings }

/-! Listing -/

def allEntries (registry : Registry) : List Entry :=
  registry.operators.flatMap registry.entries

def entryFields (e : Entry) : Fields :=
  [("operator", .text e.operator), ("since_version", .int e.since),
    ("axes", .ofString? (e.policy.map AxesPolicy.label)), ("types", .ofStrings e.typeNames)]

def entryLine (e : Entry) : String :=
  e.operator ++ " " ++ toString e.since ++ " " ++ (e.policy.elim "-" AxesPolicy.label) ++ " " ++
    ", ".intercalate e.typeNames

def ops (json : Bool) : Outcome :=
  let entries := allEntries .standard
  if json then
    { exitCode := 0, output := some (.json (.list (entries.map fun e => (entryFields e).value))) }
  else
    printed (["Supported operators", "Operator Since opset Axes from Element types"] ++
      entries.map entryLine)

/-! Running -/

def usage : List String :=
  ["Usage: " ++ programName ++ " [OPTIONS] COMMAND [ARGS]...", "Options:",
    "  --version", "  --verbose", "  --help", "Commands:",
    "  convert MODEL [--config PATH] [--no-strict] [--export PATH] [--json]", "  ops [--json]"]

def runCommand (files : Files) (command : String) (texts : List String) : Outcome :=
  if command = "convert" then
    match sortArguments convertOptions true {} texts with
    | none => misuse
    | some args =>
      if args.flags.contains "--help" then printed usage
      else
        match request? files args with
        | .ok request => convert files request
        | .error .misuse => misuse
        | .error (.broken failure) => broken failure []
  else if command = "ops" then
    match sortArguments opsOptions true {} texts with
    | none => misuse
    | some args =>
      if args.flags.contains "--help" then printed usage
      else if args.rest.isEmpty then ops (args.flags.contains "--json")
      else misuse
  else misuse

/-- Of the options that only print something, the first one counts. -/
def runInfo? (flags : List String) : Option Outcome :=
  match flags.find? fun flag => flag == "--version" || flag == "--help" with
  | some flag =>
    some (printed (if flag = "--version" then [programName ++ ", version " ++ version] else usage))
  | none => none

def run (files : Files) (texts : List String) : Outcome :=
  match sortArguments topOptions false {} texts with
  | none => misuse
  | some args =>
    match runInfo? args.flags, args.rest with
    | some outcome, _ => outcome
    | none, command :: texts => runCommand files command texts
    | none, [] => misuse

end ReductionIR.Cli
