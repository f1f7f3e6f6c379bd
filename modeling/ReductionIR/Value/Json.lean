import ReductionIR.Value
/-
The JSON text of a value: one item a line, two blanks an inner level, and everything outside
of ASCII escaped.
-/
namespace ReductionIR

namespace Json

def unit (n : Nat) : List Char := '\\' :: 'u' :: Text.hexDigits 4 n

/-- One character inside of quotes. Characters past the first 65536 take two code units. -/
def escape (c : Char) : List Char :=
  let n := c.toNat
  if c = '"' ∨ c = '\\' then ['\\', c]
  else if c = '\n' then ['\\', 'n']
  else if c = '\r' then ['\\', 'r']
  else if c = '\t' then ['\\', 't']
  else if n = 8 then ['\\', 'b']
  else if n = 12 then ['\\', 'f']
  else if 32 ≤ n ∧ n < 127 then [c]
  else if let some half := Text.half? c then unit half
  else if n < 65536 then unit n
  else unit (55296 + (n - 65536) / 1024) ++ unit (56320 + (n - 65536) % 1024)

def ofText (text : String) : String :=
  String.ofList ('"' :: text.toList.flatMap escape ++ ['"'])

def ofNumber (x : Binary64) : String :=
  match x.read with
  | .nan => "NaN"
  | .infinite negative => if negative then "-Infinity" else "Infinity"
  | .finite .. => x.text

def margin (depth : Nat) : String := String.ofList ('\n' :: List.replicate (2 * depth) ' ')

/-- Items between brackets, each on a line; without items the brackets stand together. -/
def block (opening closing : String) (depth : Nat) (items : List String) : String :=
  if items.isEmpty then opening ++ closing
  else opening ++ ",".intercalate (items.map (margin (depth + 1) ++ ·)) ++ margin depth ++ closing

end Json

namespace Value

mutual

def jsonAt (depth : Nat) : Value → String
  | null => "null"
  | bool b => if b then "true" else "false"
  | int n => toString n
  | float x => Json.ofNumber x
  | list items => Json.block "[" "]" depth (jsonItems (depth + 1) items)
  | dict items => Json.block "\x7b" "\x7d" depth (jsonPairs (depth + 1) items)
  | v => Json.ofText v.plain

def jsonItems (depth : Nat) : List Value → List String
  | [] => []
  | v :: rest => jsonAt depth v :: jsonItems depth rest

def jsonPairs (depth : Nat) : List (Value × Value) → List String
  | [] => []
  | (k, v) :: rest => (Json.ofText k.plain ++ ": " ++ jsonAt depth v) :: jsonPairs depth rest

end

def json (v : Value) : String := v.jsonAt 0

end Value

end ReductionIR
