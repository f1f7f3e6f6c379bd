import ReductionIR.Value
import ReductionIR.Digest.Sha256
/-
Reports of what went wrong: a coded record with a stage, a context and a fingerprint that
does not depend on the wording, and its structured and plain-text forms.
-/
namespace ReductionIR

/-- The status a process ends with. -/
inductive ExitCode
  | ok | configError | modelLoadError | conversionError | validationError | internalError
deriving DecidableEq

namespace ExitCode

def all : List ExitCode :=
  [ok, configError, modelLoadError, conversionError, validationError, internalError]

def value : ExitCode → Nat
  | ok => 0
  | configError => 10
  | modelLoadError => 11
  | conversionError => 12
  | validationError => 13
  | internalError => 99

def constant : ExitCode → String
  | ok => "OK"
  | configError => "CONFIG_ERROR"
  | modelLoadError => "MODEL_LOAD_ERROR"
  | conversionError => "CONVERSION_ERROR"
  | validationError => "VALIDATION_ERROR"
  | internalError => "INTERNAL_ERROR"

end ExitCode

/-- Whose fault a report states. -/
inductive Category
  | user | model | internal
deriving DecidableEq

namespace Category

def all : List Category := [user, model, internal]

def label : Category → String
  | user => "user_error"
  | model => "model_error"
  | internal => "internal_error"

def constant : Category → String
  | user => "USER"
  | model => "MODEL"
  | internal => "INTERNAL"

end Category

/-- The code of a report: 1xxx for what a user handed in, 3xxx for models and their
    conversion, 9xxx for this library. -/
inductive ReportCode
  | invalidModel | invalidConfig | modelLoadFailed | conversionFailed | unsupportedOperator
  | invalidAttribute | internalError
deriving DecidableEq

namespace ReportCode

def all : List ReportCode :=
  [invalidModel, invalidConfig, modelLoadFailed, conversionFailed, unsupportedOperator,
    invalidAttribute, internalError]

def label : ReportCode → String
  | invalidModel => "E1001"
  | invalidConfig => "E1002"
  | modelLoadFailed => "E3001"
  | conversionFailed => "E3002"
  | unsupportedOperator => "E3003"
  | invalidAttribute => "E3004"
  | internalError => "E9001"

def constant : ReportCode → String
  | invalidModel => "INVALID_MODEL"
  | invalidConfig => "INVALID_CONFIG"
  | modelLoadFailed => "MODEL_LOAD_FAILED"
  | conversionFailed => "CONVERSION_FAILED"
  | unsupportedOperator => "UNSUPPORTED_OPERATOR"
  | invalidAttribute => "INVALID_ATTRIBUTE"
  | internalError => "INTERNAL_ERROR"

end ReportCode

/-- Why one node could not be lowered. -/
inductive FailureKind
  | missingAttribute | attributeTypeMismatch | dynamicAxesShapeUnsupported
  | unsupportedElementType | tooManyReductionAxes | axisOutOfRange | unsupportedOperator
  | unsupportedOperatorVersion | missingInput
deriving DecidableEq

namespace FailureKind

def all : List FailureKind :=
  [missingAttribute, attributeTypeMismatch, dynamicAxesShapeUnsupported,
    unsupportedElementType, tooManyReductionAxes, axisOutOfRange, unsupportedOperator,
    unsupportedOperatorVersion, missingInput]

def label : FailureKind → String
  | missingAttribute => "MissingAttribute"
  | attributeTypeMismatch => "AttributeTypeMismatch"
  | dynamicAxesShapeUnsupported => "DynamicAxesShapeUnsupported"
  | unsupportedElementType => "UnsupportedElementType"
  | tooManyReductionAxes => "TooManyReductionAxes"
  | axisOutOfRange => "AxisOutOfRange"
  | unsupportedOperator => "UnsupportedOperator"
  | unsupportedOperatorVersion => "UnsupportedOperatorVersion"
  | missingInput => "MissingInput"

def constant : FailureKind → String
  | missingAttribute => "MISSING_ATTRIBUTE"
  | attributeTypeMismatch => "ATTRIBUTE_TYPE_MISMATCH"
  | dynamicAxesShapeUnsupported => "DYNAMIC_AXES_SHAPE_UNSUPPORTED"
  | unsupportedElementType => "UNSUPPORTED_ELEMENT_TYPE"
  | tooManyReductionAxes => "TOO_MANY_REDUCTION_AXES"
  | axisOutOfRange => "AXIS_OUT_OF_RANGE"
  | unsupportedOperator => "UNSUPPORTED_OPERATOR"
  | unsupportedOperatorVersion => "UNSUPPORTED_OPERATOR_VERSION"
  | missingInput => "MISSING_INPUT"

/-- Did the dispatch on operator and version fail, before any rule ran? -/
def isDispatch : FailureKind → Bool
  | unsupportedOperator | unsupportedOperatorVersion => true
  | _ => false

def code (kind : FailureKind) : ReportCode :=
  if kind.isDispatch then .unsupportedOperator else .conversionFailed

end FailureKind

/-- The heading a report goes under. -/
inductive Heading
  | general | conversion | lookup | load | validation | config | internal
deriving DecidableEq

def Heading.title : Heading → String
  | general => "OnnxLowerError"
  | conversion => "ConversionError"
  | lookup => "AttributeLookupError"
  | load => "ModelLoadError"
  | validation => "ModelValidationError"
  | config => "ConfigError"
  | internal => "InternalError"

structure Report where
  heading : Heading
  message : String
  code : ReportCode
  category : Category
  exitCode : ExitCode
  stage : Option String := none
  signature : Option String := none
  context : Fields := []
  details : Fields := []

namespace Report

/-- The text a fingerprint is taken of: code, stage and signature, never the message. -/
def fingerprintText (code : ReportCode) (stage signature : Option String) : String :=
  code.label ++ "|" ++ stage.getD "" ++ "|" ++ signature.getD ""

/-- The first sixteen hexadecimal digits of the digest of the fingerprint text. -/
def fingerprintOf (code : ReportCode) (stage signature : Option String) : String :=
  let digest := Sha256.digest (fingerprintText code stage signature).toUTF8.toList
  String.ofList ((digest.take 8).flatMap fun b => Text.hexDigits 2 b.toNat)

def fingerprint (r : Report) : String := fingerprintOf r.code r.stage r.signature

def conversion (message : String) (kind : FailureKind) (operator location : Option String)
    (details : Fields) : Report :=
  { heading := .conversion
    message
    code := kind.code
    category := .model
    exitCode := .conversionError
    stage := some "lowering"
    signature := some (operator.getD "" ++ ":" ++ kind.label)
    context :=
      (operator.map fun s => ("operator", Value.text s)).toList ++
      (location.map fun s => ("location", Value.text s)).toList ++
      [("kind", .text kind.label)]
    details }

def lookup (message : String) (kind : FailureKind) (name : String) (details : Fields) :
    Report :=
  { heading := .lookup
    message
    code := .invalidAttribute
    category := .model
    exitCode := .conversionError
    stage := some "attributes"
    signature := some (name ++ ":" ++ kind.label)
    context := [("attribute", .text name), ("kind", .text kind.label)]
    details }

def pathContext (field : String) (path : Option String) : Fields :=
  match path with
  | some p => if p = "" then [] else [(field, .text p)]
  | none => []

def load (message : String) (path : Option String) (details : Fields) : Report :=
  { heading := .load
    message
    code := .modelLoadFailed
    category := .model
    exitCode := .modelLoadError
    context := pathContext "model_path" path
    details }

def validation (message : String) (path : Option String) (details : Fields) : Report :=
  { heading := .validation
    message
    code := .invalidModel
    category := .model
    exitCode := .validationError
    context := pathContext "model_path" path
    details }

def config (message : String) (path : Option String) (details : Fields) : Report :=
  { heading := .config
    message
    code := .invalidConfig
    category := .user
    exitCode := .configError
    context := pathContext "config_path" path
    details }

def internal (message : String) (details : Fields) : Report :=
  { heading := .internal
    message
    code := .internalError
    category := .internal
    exitCode := .internalError
    details }

def info (r : Report) : Fields :=
  [("code", .text r.code.label), ("category", .text r.category.label),
    ("stage", .ofString? r.stage), ("context", r.context.value),
    ("details", r.details.value), ("fingerprint", .text r.fingerprint)]

def fields (r : Report) : Fields :=
  [("code", .text r.code.label), ("category", .text r.category.label),
    ("message", .text r.message), ("stage", .ofString? r.stage),
    ("context", r.context.value), ("details", r.details.value),
    ("fingerprint", .text r.fingerprint)]

def sectionLines (title : String) (fields : Fields) : List String :=
  if fields.isEmpty then []
  else ("  " ++ title ++ ":") :: fields.map fun f => "    " ++ f.1 ++ ": " ++ f.2.plain

def lines (r : Report) : List String :=
  [r.heading.title ++ ": " ++ r.message, "  code: " ++ r.code.label,
    "  category: " ++ r.category.label, "  fingerprint: " ++ r.fingerprint] ++
    (match r.stage with
      | some stage => if stage = "" then [] else ["  stage: " ++ stage]
      | none => []) ++
    sectionLines "context" r.context ++ sectionLines "details" r.details

def text (r : Report) : String := "\n".intercalate r.lines

end Report

end ReductionIR
