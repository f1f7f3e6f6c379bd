import ReductionIR.Axes
/-
Lowering routines by operator and opset. An operator has a chain of entries, oldest first,
and a node goes to the newest entry that is not newer than its opset. Entries are collected in
any order; the registry built of them does not change any more.
-/
namespace ReductionIR

/-- What an operator version demands: element types of the data and where axes come from. -/
structure Regime where
  types : List DType
  policy : Option AxesPolicy := none

/-- A way to lower a node, under a name. -/
structure Routine where
  name : String
  run : Regime → Context → Build (List Tensor)

structure Entry extends Regime where
  operator : String
  since : Int
  routine : Routine

def Regime.typeNames (regime : Regime) : List String :=
  (regime.types.map DType.typeName).eraseDups.mergeSort (· ≤ ·)

/-- Chains of entries by operator, each in the order of the opsets. -/
structure Registry where
  chains : Table String (List Entry) := ∅

namespace Registry

def entries (registry : Registry) (operator : String) : List Entry :=
  (registry.chains.find? operator).getD []

/-- The place behind the versions up to an opset, between two places, found by halving. No more
    steps are needed than places lie between. -/
def place (versions : List Int) (opset : Int) : Nat → Nat → Nat → Nat
  | 0, low, _ => low
  | steps + 1, low, high =>
    if low < high then
      let middle := (low + high) / 2
      if opset < versions.getD middle 0 then place versions opset steps low middle
      else place versions opset steps (middle + 1) high
    else low

/-- The newest entry of a chain that is not newer than the opset. -/
def newest? (chain : List Entry) (opset : Int) : Option Entry :=
  match place (chain.map Entry.since) opset chain.length 0 chain.length with
  | 0 => none
  | n + 1 => chain[n]?

def resolve (registry : Registry) (operator : String) (opset : Int) :
    Except NodeFailure.Cause Entry :=
  match registry.entries operator with
  | [] => .error (.unsupportedOperator operator)
  | oldest :: newer =>
    match newest? (oldest :: newer) opset with
    | some entry => .ok entry
    | none => .error (.unsupportedVersion operator opset oldest.since)

def supports (registry : Registry) (operator : String) : Bool :=
  registry.chains.contains operator

def operators (registry : Registry) : List String :=
  registry.chains.keys.mergeSort (· ≤ ·)

def size (registry : Registry) : Nat := registry.chains.size

/-! Building -/

/-- Put an entry before the first newer one. -/
def insertEntry (entry : Entry) : List Entry → List Entry
  | [] => [entry]
  | e :: rest =>
    if entry.since < e.since then entry :: e :: rest else e :: insertEntry entry rest

def inOrder (chain : List Entry) : List Entry :=
  chain.foldl (fun sorted entry => insertEntry entry sorted) []

/-- Entries on their way into a registry: chains in the order in which they came in. -/
structure Builder where
  chains : Table String (List Entry) := ∅

namespace Builder

def entries (b : Builder) (operator : String) : List Entry := (b.chains.find? operator).getD []

/-- Take an entry; one operator has at most one entry for an opset. -/
def register (b : Builder) (entry : Entry) : Builder × Option Breakdown :=
  let b : Builder := ⟨b.chains.insertNew entry.operator []⟩
  let chain := b.entries entry.operator
  if chain.any (·.since == entry.since) then
    (b, some (.registeredTwice entry.operator entry.since))
  else (⟨b.chains.insert entry.operator (chain ++ [entry])⟩, none)

/-- Take entries up to the first one that is refused. -/
def registerAll (b : Builder) : List Entry → Builder × Option Breakdown
  | [] => (b, none)
  | entry :: rest =>
    match b.register entry with
    | (b, none) => b.registerAll rest
    | (b, some failure) => (b, some failure)

def build (b : Builder) : Registry := ⟨b.chains.map inOrder⟩

end Builder

end Registry

end ReductionIR
