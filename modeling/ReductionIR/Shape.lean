/-
Partial shapes: a dim is a known number, a named unknown or an anonymous unknown, and
the rank itself may be unknown.
-/
namespace ReductionIR

inductive Dim
  | known (n : Int)
  | named (symbol : String)
  | anonymous
deriving DecidableEq, Inhabited

namespace Dim

def value? : Dim → Option Int
  | known n => some n
  | _ => none

def isKnown (d : Dim) : Bool := d.value?.isSome

/-- A name without letters prints like an anonymous dim. -/
def text : Dim → String
  | known n => toString n
  | named symbol => if symbol = "" then "?" else symbol
  | anonymous => "?"

/-- The dim that two aligned dims broadcast to. A dim that is 1 yields to the other; two
    different known dims clash; against an unknown dim a known one stays, since the other
    must turn out to be 1 or the same; of two different unknown dims the right one stays. -/
def broadcast (x y : Dim) : Option Dim :=
  if x = known 1 then some y
  else if y = known 1 ∨ x = y then some x
  else if x.isKnown then if y.isKnown then none else some x
  else some y

theorem broadcast_self (d : Dim) : d.broadcast d = some d := by
  by_cases one : d = known 1 <;> simp [broadcast, one]

end Dim

inductive Shape
  | unknownRank
  | ranked (dims : List Dim)
deriving DecidableEq, Inhabited

namespace Shape

def ofValues (values : List (Option Int)) : Shape :=
  ranked (values.map fun v => v.elim .anonymous .known)

def static (values : List Int) : Shape := ranked (values.map .known)

def scalar : Shape := ranked []

def dynamic (rank : Nat) : Shape := ranked (List.replicate rank .anonymous)

def dims? : Shape → Option (List Dim)
  | unknownRank => none
  | ranked dims => some dims

def rank? (s : Shape) : Option Nat := s.dims?.map List.length

theorem rank?_eq_some_iff {s : Shape} {rank : Nat} :
    s.rank? = some rank ↔ ∃ dims, s = ranked dims ∧ dims.length = rank := by
  cases s <;> simp [rank?, dims?]

def isFullyKnown : Shape → Bool
  | unknownRank => false
  | ranked dims => dims.all Dim.isKnown

def known? : Shape → Option (List Int)
  | unknownRank => none
  | ranked dims => dims.mapM Dim.value?

def elementCount? (s : Shape) : Option Int := s.known?.map (·.foldl (· * ·) 1)

def text : Shape → String
  | unknownRank => "(...)"
  | ranked dims => "(" ++ ", ".intercalate (dims.map Dim.text) ++ ")"

/-- Broadcast two lists of dims aligned at their heads; what the longer one has left over
    is kept, as if the shorter one went on with ones. -/
def broadcastAligned : List Dim → List Dim → Option (List Dim)
  | [], ys => some ys
  | xs, [] => some xs
  | x :: xs, y :: ys => do
    let d ← x.broadcast y
    let ds ← broadcastAligned xs ys
    return d :: ds

/-- The shape two partial shapes broadcast to, aligned at their last dims; `none` when two
    known dims clash. An unknown rank on either side leaves the rank unknown. -/
def broadcast : Shape → Shape → Option Shape
  | ranked xs, ranked ys =>
    (broadcastAligned xs.reverse ys.reverse).map fun ds => ranked ds.reverse
  | _, _ => some unknownRank

end Shape

/-- The axis in `[0, rank - 1]` that an axis in `[-rank, rank - 1]` stands for. -/
def normalizeAxis (axis rank : Int) : Option Int :=
  if -rank ≤ axis ∧ axis < rank then some (if axis < 0 then axis + rank else axis) else none

theorem normalizeAxis_bounds {axis rank n : Int} (normal : normalizeAxis axis rank = some n) :
    0 ≤ n ∧ n < rank := by
  unfold normalizeAxis at normal
  split at normal
  · rename_i inside
    have value := Option.some.inj normal
    split at value <;> omega
  · contradiction

theorem normalizeAxis_eq_none_iff {axis rank : Int} :
    normalizeAxis axis rank = none ↔ axis < -rank ∨ rank ≤ axis := by
  unfold normalizeAxis
  split <;> simp <;> omega

end ReductionIR
