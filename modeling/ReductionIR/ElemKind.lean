import ReductionIR.DType
import ReductionIR.Number.Tiny
import ReductionIR.Value
/-
Kinds of array elements: their names and codes, the numbers that fit, and the kind that
mixed elements settle on.
-/
namespace ReductionIR

/-- The kinds of elements an array stores. -/
inductive ElemKind
  | bool
  | int8 | int16 | int32 | int64
  | uint8 | uint16 | uint32 | uint64
  | float16 | float32 | float64 | bfloat16
  | complex64 | complex128
  | float8e4m3fn | float8e4m3fnuz | float8e5m2 | float8e5m2fnuz | float8e8m0 | float4e2m1
  | uint4 | int4 | uint2 | int2
  | text (width : Nat)
  | object
deriving DecidableEq

namespace ElemKind

def fixed : List ElemKind :=
  [bool, int8, int16, int32, int64, uint8, uint16, uint32, uint64, float16, float32, float64,
    bfloat16, complex64, complex128, float8e4m3fn, float8e4m3fnuz, float8e5m2, float8e5m2fnuz,
    float8e8m0, float4e2m1, uint4, int4, uint2, int2, object]

/-- The name of a kind; a text kind is named by its size in bits. -/
def name : ElemKind → String
  | bool => "bool"
  | int8 => "int8"
  | int16 => "int16"
  | int32 => "int32"
  | int64 => "int64"
  | uint8 => "uint8"
  | uint16 => "uint16"
  | uint32 => "uint32"
  | uint64 => "uint64"
  | float16 => "float16"
  | float32 => "float32"
  | float64 => "float64"
  | bfloat16 => "bfloat16"
  | complex64 => "complex64"
  | complex128 => "complex128"
  | float8e4m3fn => "float8_e4m3fn"
  | float8e4m3fnuz => "float8_e4m3fnuz"
  | float8e5m2 => "float8_e5m2"
  | float8e5m2fnuz => "float8_e5m2fnuz"
  | float8e8m0 => "float8_e8m0fnu"
  | float4e2m1 => "float4_e2m1fn"
  | uint4 => "uint4"
  | int4 => "int4"
  | uint2 => "uint2"
  | int2 => "int2"
  | text width => "str" ++ toString (32 * width)
  | object => "object"

def ofName? (text : String) : Option ElemKind := fixed.find? (·.name == text)

/-- The element type of a tensor with this data; some kinds have none. -/
def dtype : ElemKind → DType
  | bool => .bool
  | int8 => .int8
  | int16 => .int16
  | int32 => .int32
  | int64 => .int64
  | uint8 => .uint8
  | uint16 => .uint16
  | uint32 => .uint32
  | uint64 => .uint64
  | float16 => .float16
  | float32 => .float32
  | float64 => .float64
  | _ => .unknown

def code : ElemKind → Int
  | float32 => 1
  | uint8 => 2
  | int8 => 3
  | uint16 => 4
  | int16 => 5
  | int32 => 6
  | int64 => 7
  | text _ => 8
  | object => 8
  | bool => 9
  | float16 => 10
  | float64 => 11
  | uint32 => 12
  | uint64 => 13
  | complex64 => 14
  | complex128 => 15
  | bfloat16 => 16
  | float8e4m3fn => 17
  | float8e4m3fnuz => 18
  | float8e5m2 => 19
  | float8e5m2fnuz => 20
  | uint4 => 21
  | int4 => 22
  | float4e2m1 => 23
  | float8e8m0 => 24
  | uint2 => 25
  | int2 => 26

def ofCode? (n : Int) : Option ElemKind := fixed.find? (·.code == n)

def range? : ElemKind → Option (Int × Int)
  | int8 => some (-128, 127)
  | int16 => some (-32768, 32767)
  | int32 => some (-2147483648, 2147483647)
  | int64 => some (-9223372036854775808, 9223372036854775807)
  | uint8 => some (0, 255)
  | uint16 => some (0, 65535)
  | uint32 => some (0, 4294967295)
  | uint64 => some (0, 18446744073709551615)
  | uint4 => some (0, 15)
  | int4 => some (-8, 7)
  | uint2 => some (0, 3)
  | int2 => some (-2, 1)
  | _ => none

/-- The layout of the numbers of a kind. Complex numbers are stored by their real parts. -/
def layout? : ElemKind → Option BinaryLayout
  | float16 => some .binary16
  | float32 | complex64 => some .binary32
  | float64 | complex128 => some .binary64
  | bfloat16 => some .brain16
  | _ => none

/-- The layout of the numbers of a kind of eight bits or fewer. -/
def tinyLayout? : ElemKind → Option TinyLayout
  | float8e4m3fn => some .e4m3fn
  | float8e4m3fnuz => some .e4m3fnuz
  | float8e5m2 => some .e5m2
  | float8e5m2fnuz => some .e5m2fnuz
  | float8e8m0 => some .e8m0
  | float4e2m1 => some .e2m1
  | _ => none

def isComplex : ElemKind → Bool
  | complex64 | complex128 => true
  | _ => false

/-- Are the elements numbers that need not be integers? -/
def isFloating (kind : ElemKind) : Bool := kind.layout?.isSome || kind.tinyLayout?.isSome

def ofValue : Value → ElemKind
  | .bool _ => bool
  | .int n =>
    if -9223372036854775808 ≤ n ∧ n ≤ 9223372036854775807 then int64
    else if 0 ≤ n ∧ n ≤ 18446744073709551615 then uint64
    else object
  | .float _ => float64
  | .text s => text (max 1 s.length)
  | _ => object

/-- The most characters a number takes when it stands among texts. -/
def textWidth? : ElemKind → Option Nat
  | bool => some 5
  | uint64 => some 20
  | int64 => some 21
  | float64 => some 32
  | text width => some width
  | _ => none

/-- The kind that holds the elements of two kinds that elements ask for. Signed and unsigned
    64-bit integers have no common integer kind; among texts everything is a text. -/
def join (a b : ElemKind) : ElemKind :=
  if a = b then a
  else
    match a, b, a.textWidth?, b.textWidth? with
    | text _, _, some m, some n | _, text _, some m, some n => text (max m n)
    | _, _, _, _ =>
      if a = bool ∧ b ∈ [int64, uint64, float64] then b
      else if b = bool ∧ a ∈ [int64, uint64, float64] then a
      else if a ∈ [int64, uint64, float64] ∧ b ∈ [int64, uint64, float64] then float64
      else object

end ElemKind

end ReductionIR
