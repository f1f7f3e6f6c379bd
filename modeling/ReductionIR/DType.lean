/-
Element types of tensors and the codes that model files use for them.
-/
namespace ReductionIR

inductive DType
  | float32 | float16 | bfloat16 | float64
  | int8 | uint8 | int16 | uint16 | int32 | uint32 | int64 | uint64
  | bool | string | unknown
deriving DecidableEq, Inhabited

namespace DType

def all : List DType :=
  [float32, float16, bfloat16, float64, int8, uint8, int16, uint16, int32, uint32, int64,
    uint64, bool, string, unknown]

/-- The name in capitals. -/
def name : DType → String
  | float32 => "FLOAT32"
  | float16 => "FLOAT16"
  | bfloat16 => "BFLOAT16"
  | float64 => "FLOAT64"
  | int8 => "INT8"
  | uint8 => "UINT8"
  | int16 => "INT16"
  | uint16 => "UINT16"
  | int32 => "INT32"
  | uint32 => "UINT32"
  | int64 => "INT64"
  | uint64 => "UINT64"
  | bool => "BOOL"
  | string => "STRING"
  | unknown => "UNKNOWN"

/-- The name as messages and listings write it. -/
def typeName : DType → String
  | float32 => "float32"
  | float16 => "float16"
  | bfloat16 => "bfloat16"
  | float64 => "float64"
  | int8 => "int8"
  | uint8 => "uint8"
  | int16 => "int16"
  | uint16 => "uint16"
  | int32 => "int32"
  | uint32 => "uint32"
  | int64 => "int64"
  | uint64 => "uint64"
  | bool => "bool"
  | string => "string"
  | unknown => "unknown"

/-- The element code of a model file; an unknown type has the code of an undefined one. -/
def code : DType → Int
  | unknown => 0
  | float32 => 1
  | uint8 => 2
  | int8 => 3
  | uint16 => 4
  | int16 => 5
  | int32 => 6
  | int64 => 7
  | string => 8
  | bool => 9
  | float16 => 10
  | float64 => 11
  | uint32 => 12
  | uint64 => 13
  | bfloat16 => 16

/-- The type of an element code; codes without a type are unknown. -/
def ofCode (n : Int) : DType :=
  (all.find? fun t => decide (t ≠ unknown) && t.code == n).getD unknown

def ofName? (text : String) : Option DType := all.find? (·.name == text)

theorem ofCode_code (t : DType) : ofCode t.code = t := by
  cases t <;> rfl

end DType

end ReductionIR
