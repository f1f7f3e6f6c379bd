import ReductionIR.Shape
import ReductionIR.Value
/-
Failures of single values and references, below the level of reports: what was wrong, the
sort of failure, and the wording where there is one.
-/
namespace ReductionIR

/-- The broad sorts of failure a caller may tell apart. -/
inductive Breakdown.Family
  | value | type | index | overflow | key | field | encoding | unimplemented | folder | file
  | path | state | depth | markup | disk
deriving DecidableEq

inductive Breakdown
  | axisOutside (axis : Value) (rank : Int)
  | shapeClash (a b : Shape)
  | missingTensor (op tensor : String)
  | missingProducer (tensor producer : String)
  | missingConsumer (tensor consumer : String)
  | unfedTensor (tensor : String)
  | exportOpset (opset : Int)
  | registeredTwice (operator : String) (version : Int)
  | unstorable (value : Value)
  | notAReportCode
  | notACategory
  | notAnExitCode
  | operandCount
  | operandMissing
  | operandAbsent
  | zeroStep
  | spanTooLong
  | notANumber
  | tooLarge
  | ragged
  | wrongType
  | notATable
  | notAType
  | notUtf8
  | unknownName
  | unknownOpset
  | notStorable
  | isFolder
  | notAFolder
  | noFolder
  | zeroInPath
  | unknownHome
  | tooDeep
  | unmatchedTag
  | nameTooLong
  /-- A failure of the library of the file format. -/
  | foreign (sort : Breakdown.Family)

namespace Breakdown

def family : Breakdown → Family
  | axisOutside .. | shapeClash .. | missingTensor .. | missingProducer ..
  | missingConsumer .. | unfedTensor .. | exportOpset .. | registeredTwice ..
  | operandCount | zeroStep | notANumber | ragged | unknownOpset | notStorable
  | zeroInPath => .value
  | unstorable .. | notAReportCode | notACategory | notAnExitCode | wrongType => .type
  | operandMissing => .index
  | spanTooLong | tooLarge => .overflow
  | unknownName => .key
  | notATable | notAType | operandAbsent => .field
  | notUtf8 => .encoding
  | isFolder => .folder
  | notAFolder => .file
  | noFolder => .path
  | unknownHome => .state
  | tooDeep => .depth
  | unmatchedTag => .markup
  | nameTooLong => .disk
  | foreign sort => sort

/-- The lowest opset a model is exported at: there every reduction takes its axes as an
    operand. -/
def leastExportOpset : Int := 18

def message? : Breakdown → Option String
  | axisOutside axis rank =>
    some ("axis " ++ axis.plain ++ " out of range for rank " ++ toString rank)
  | shapeClash a b =>
    some ("shapes " ++ a.text ++ " and " ++ b.text ++ " are not broadcastable")
  | missingTensor op tensor => some ("Op " ++ op ++ " references missing tensor " ++ tensor)
  | missingProducer tensor producer =>
    some ("Tensor " ++ tensor ++ " has invalid producer " ++ producer)
  | missingConsumer tensor consumer =>
    some ("Tensor " ++ tensor ++ " has invalid consumer " ++ consumer)
  | unfedTensor tensor =>
    some ("Tensor " ++ tensor ++ " is consumed but is neither a graph input, " ++
      "a constant nor produced by an op")
  | exportOpset opset =>
    some ("Export needs opset >= " ++ toString leastExportOpset ++ ", got " ++ toString opset)
  | registeredTwice operator version =>
    some (operator ++ " is already registered for opset " ++ toString version)
  | unstorable value => some ("Cannot store " ++ value.quoted ++ " as an attribute value")
  | notAReportCode => some "error_code must be an ErrorCode enum"
  | notACategory => some "category must be an ErrorCategory enum"
  | notAnExitCode => some "exit_code must be an ExitCode enum"
  | _ => none

end Breakdown

end ReductionIR
