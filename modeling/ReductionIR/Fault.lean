import ReductionIR.Attribute
/-
The ways an operation of this library fails: a node that cannot be lowered, an unreadable
attribute, a broken model, file or configuration, a state that should not occur, or a bare
failure of one value. All but the last have a report.
-/
namespace ReductionIR

/-- Why a node cannot be lowered. -/
inductive NodeFailure.Cause
  | unsupportedOperator (operator : String)
  | unsupportedVersion (operator : String) (opset earliest : Int)
  | missingInput (index : Nat)
  | unloweredInputs (names : List String)
  | foreignDomain (domain : String)
  | elementType (dtype : DType)
  | tooManyAxes (count rank : Int)
  | axisOutside (axis rank : Int)
  | dynamicAxesShape
  | unreadable (failure : LookupFailure)

namespace NodeFailure.Cause

def kind : Cause → FailureKind
  | unsupportedOperator _ => .unsupportedOperator
  | unsupportedVersion .. => .unsupportedOperatorVersion
  | missingInput _ => .missingInput
  | unloweredInputs _ => .missingInput
  | foreignDomain _ => .unsupportedOperator
  | elementType _ => .unsupportedElementType
  | tooManyAxes .. => .tooManyReductionAxes
  | axisOutside .. => .axisOutOfRange
  | dynamicAxesShape => .dynamicAxesShapeUnsupported
  | unreadable failure => failure.kind

/-- A failure of the dispatch already names its operator. -/
def namesOperator : Cause → Bool
  | unsupportedOperator _ | unsupportedVersion .. => true
  | _ => false

def wording : Cause → String
  | unsupportedOperator operator => "Operator '" ++ operator ++ "' is not supported"
  | unsupportedVersion operator opset earliest =>
    "Operator '" ++ operator ++ "' has no lowering for opset " ++ toString opset ++
      "; earliest registered is " ++ toString earliest
  | missingInput index => "Input " ++ toString index ++ " is required"
  | unloweredInputs names =>
    "Inputs " ++ (Value.ofStrings names).quoted ++ " were not lowered"
  | foreignDomain domain => "Operator domain '" ++ domain ++ "' is not supported"
  | elementType dtype => "Unsupported input type " ++ dtype.typeName
  | tooManyAxes count rank =>
    "Number of reduction axes (" ++ toString count ++ ") is larger than the input tensor's rank ("
      ++ toString rank ++ ")"
  | axisOutside axis rank =>
    "Reduction axis " ++ toString axis ++ " is outside [" ++ toString (-rank) ++ ", " ++
      toString (rank - 1) ++ "]"
  | dynamicAxesShape => "The axes tensor's shape needs to be known (static)"
  | unreadable failure => failure.wording

end NodeFailure.Cause

/-- A node that cannot be lowered: the cause, its operator and where it stands. -/
structure NodeFailure where
  cause : NodeFailure.Cause
  operator : String
  location : Option String

namespace NodeFailure

def kind (failure : NodeFailure) : FailureKind := failure.cause.kind

/-- The message ends with the location, unless the dispatch failed. -/
def message (failure : NodeFailure) : String :=
  if failure.cause.namesOperator then failure.cause.wording
  else failure.cause.wording ++ ". Node: " ++ failure.location.getD ""

def report (failure : NodeFailure) : Report :=
  Report.conversion failure.message failure.kind (some failure.operator) failure.location []

end NodeFailure

/-- States that should not occur. -/
inductive InternalCause
  | noRule (op : String)
  | axisCount (count rank : Int)
  | unknownPolicy
  | noAxesOperand
  | unknownAxesForm
  | noOutputs (routine location : String)
  | rangeType (op : String)
  | noExportRule (op : String)
  | cycle

def InternalCause.message : InternalCause → String
  | noRule op => "No shape inference rule for IR op '" ++ op ++ "'"
  | axisCount count rank =>
    toString count ++ " reduction axes for a rank-" ++ toString rank ++ " input"
  | unknownPolicy => "Unknown axes policy: None"
  | noAxesOperand => "A no-op reduction has no axes operand"
  | unknownAxesForm => "Unknown axes form: None"
  | noOutputs routine location => routine ++ " produced no outputs for " ++ location
  | rangeType op => "Range " ++ op ++ ": only int64 output is exported"
  | noExportRule op =>
    "IR op '" ++ op ++ "' has no ONNX lowering rule. Add explicit lowering in _lower_op()."
  | cycle => "IR graph has a cycle; cannot export"

/-- Why a model is not valid. -/
inductive ModelFailure
  | noDefaultOpset
  | unknownRank (tensor : String)
  | rejected (path : String)

namespace ModelFailure

def message : ModelFailure → String
  | noDefaultOpset => "Model does not import the default ONNX opset"
  | unknownRank tensor =>
    "Graph input/output " ++ tensor ++ " has unknown rank and cannot be exported"
  | rejected path => "ONNX validation failed: " ++ path

def path? : ModelFailure → Option String
  | rejected path => some path
  | _ => none

end ModelFailure

/-- Why a model file cannot be loaded. -/
inductive LoadFailure.Cause
  | missing
  | absent
  | unsupportedSuffix (suffix : String) (supported : List String)
  | wrongSuffix (suffix : String)
  | unparsable
  | inconsistentTypes
  | reader (name : String)

structure LoadFailure where
  cause : LoadFailure.Cause
  path : String

def LoadFailure.message (failure : LoadFailure) : String :=
  match failure.cause with
  | .missing => "Model path does not exist: " ++ failure.path
  | .absent => "Model not found: " ++ failure.path
  | .unsupportedSuffix suffix supported =>
    "Unsupported model format: '" ++ suffix ++ "'. Supported formats: " ++
      ", ".intercalate supported
  | .wrongSuffix suffix => "Invalid file extension: " ++ suffix
  | .unparsable => "Failed to parse ONNX file: " ++ failure.path
  | .inconsistentTypes => "Shape inference failed: " ++ failure.path
  | .reader name => "Failed to load model '" ++ failure.path ++ "' using " ++ name

/-- Why a configuration is refused. -/
inductive ConfigFailure
  | notBoolean (setting : String) (found : Value)
  | notInteger (setting : String) (found : Value)
  | exportOpset (found : Int)
  | testedRange (least greatest : Int)
  | version (found : Value)
  | notASection
  | unknownSettings (names : List String)
  | missingFile (path : String)
  | invalidYaml (path : String)
  | notAMapping (path : String)

namespace ConfigFailure

/-- The version of the configuration format. -/
def formatVersion : Int := 1

def message : ConfigFailure → String
  | notBoolean setting found =>
    "'" ++ setting ++ "' must be a boolean, got " ++ found.quoted
  | notInteger setting found =>
    "'" ++ setting ++ "' must be an integer, got " ++ found.quoted
  | exportOpset found =>
    "'export_opset' must be >= " ++ toString Breakdown.leastExportOpset ++ ", got " ++
      toString found
  | testedRange least greatest =>
    "'min_tested_opset' cannot exceed 'max_tested_opset' (" ++ toString least ++ " > " ++
      toString greatest ++ ")"
  | version found =>
    "Unsupported config version: " ++ found.plain ++ ". Expected version " ++
      toString formatVersion ++ "."
  | notASection => "'conversion' section must be a mapping."
  | unknownSettings names => "Unknown conversion settings: " ++ ", ".intercalate names
  | missingFile path => "Config file not found: " ++ path
  | invalidYaml path => "Invalid YAML in " ++ path
  | notAMapping path => "Config root must be a mapping: " ++ path

/-- Are the integers in the wording short enough to be written? -/
def isWritable : ConfigFailure → Bool
  | notBoolean _ found | notInteger _ found | version found => found.isWritable
  | exportOpset found => (Value.int found).isWritable
  | testedRange least greatest => (Value.int least).isWritable && (Value.int greatest).isWritable
  | _ => true

def path? : ConfigFailure → Option String
  | missingFile path | invalidYaml path | notAMapping path => some path
  | _ => none

end ConfigFailure

inductive Fault
  | node (failure : NodeFailure)
  | lookup (failure : LookupFailure)
  | model (failure : ModelFailure)
  | load (failure : LoadFailure)
  | config (failure : ConfigFailure)
  | internal (cause : InternalCause)
  | bare (failure : Breakdown)

namespace Fault

/-- The report of a fault; a bare failure has none. -/
def report? : Fault → Option Report
  | node failure => some failure.report
  | lookup failure => some failure.report
  | model failure => some (Report.validation failure.message failure.path? [])
  | load failure => some (Report.load failure.message (some failure.path) [])
  | config failure => some (Report.config failure.message failure.path? [])
  | internal cause => some (Report.internal cause.message [])
  | bare _ => none

def lift {α : Type} (result : Except Breakdown α) : Except Fault α := result.mapError bare

end Fault

/-- A report under the general heading, its code, category and status given by their
    constants; the first one that is none is refused. -/
def Report.ofConstants (message code category exitCode : String)
    (stage signature : Option String) (context details : Fields) : Except Breakdown Report :=
  match ReportCode.all.find? (·.constant == code), Category.all.find? (·.constant == category),
      ExitCode.all.find? (·.constant == exitCode) with
  | none, _, _ => .error .notAReportCode
  | _, none, _ => .error .notACategory
  | _, _, none => .error .notAnExitCode
  | some code, some category, some exitCode =>
    .ok { heading := .general, message, code, category, exitCode, stage, signature, context,
          details }

def AttributeStore.read (store : AttributeStore) (accessor : Accessor) (name : String)
    (fallback : Option Value) : Except Fault Value := do
  let found ← (store.typed accessor name fallback).mapError .lookup
  Fault.lift (accessor.convert found)

end ReductionIR
