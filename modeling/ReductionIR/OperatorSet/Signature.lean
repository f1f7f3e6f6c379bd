/-
Signatures of operators: how many operands and results a node has, which of them may be left
out, and which attributes it may or must have. An operator may change its signature, or be
withdrawn, with an opset.
-/
namespace ReductionIR.OperatorSet

/-- How many values stand at a place: one, one or none, or all from there on, but not fewer
    than some number. -/
inductive Arity
  | need
  | may
  | many (least : Nat)

/-- The kind of data of an attribute. -/
inductive DataKind
  | int | float | text | ints | floats | texts | tensor | sparse | graph | type | other
deriving DecidableEq

/-- Lists may be empty; data of other kinds must be there. -/
def DataKind.isList : DataKind → Bool
  | ints | floats | texts => true
  | _ => false

structure AttributeRule where
  name : String
  kind : DataKind
  required : Bool := false

namespace AttributeRule

def int (name : String) : AttributeRule := { name, kind := .int }
def float (name : String) : AttributeRule := { name, kind := .float }
def text (name : String) : AttributeRule := { name, kind := .text }
def ints (name : String) : AttributeRule := { name, kind := .ints }
def floats (name : String) : AttributeRule := { name, kind := .floats }
def texts (name : String) : AttributeRule := { name, kind := .texts }
def tensor (name : String) : AttributeRule := { name, kind := .tensor }
def sparse (name : String) : AttributeRule := { name, kind := .sparse }
def graph (name : String) : AttributeRule := { name, kind := .graph }
def type (name : String) : AttributeRule := { name, kind := .type }

def must (rule : AttributeRule) : AttributeRule := { rule with required := true }

end AttributeRule

structure Signature where
  inputs : List Arity
  outputs : List Arity
  attributes : List AttributeRule := []
  /-- The numbers of results that are allowed, where the places alone would allow more. -/
  resultCounts : Option (List Nat) := none

/-- An operator: its signatures from some opsets on, oldest first, and none from the opset on
    that withdraws it. -/
structure Operator where
  name : String
  versions : List (Int × Option Signature)

def since (opset : Int) (inputs outputs : List Arity) (attributes : List AttributeRule) :
    Int × Option Signature :=
  (opset, some { inputs, outputs, attributes })

def sinceWith (opset : Int) (inputs outputs : List Arity) (counts : List Nat)
    (attributes : List AttributeRule) : Int × Option Signature :=
  (opset, some { inputs, outputs, attributes, resultCounts := some counts })

def withdrawn (opset : Int) : Int × Option Signature := (opset, none)

def Operator.at? (operator : Operator) (opset : Int) : Option Signature :=
  ((operator.versions.filter fun version => decide (version.1 ≤ opset)).getLast?).bind Prod.snd

/-- The least number of values at some places: optional ones count up to the last one needed. -/
def leastCount : Nat → Nat → List Arity → Nat
  | _, least, [] => least
  | seen, _, .need :: rest => leastCount (seen + 1) (seen + 1) rest
  | seen, least, .may :: rest => leastCount (seen + 1) least rest
  | seen, _, .many count :: rest => leastCount seen (seen + count) rest

def namesFit : List String → List Arity → Bool
  | [], _ => true
  | _, [] => false
  | _, .many _ :: _ => true
  | name :: names, .need :: rest => name != "" && namesFit names rest
  | _ :: names, .may :: rest => namesFit names rest

def placesFit (names : List String) (places : List Arity) : Bool :=
  decide (leastCount 0 0 places ≤ names.length) && namesFit names places

end ReductionIR.OperatorSet
