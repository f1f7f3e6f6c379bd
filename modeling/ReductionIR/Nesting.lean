import ReductionIR.Value
/-
The outline of nested lists: how many axes they have in common, how long those are, and the
items that stand at that depth. A list is visited before its items, and the items in order.
-/
namespace ReductionIR

/-- The lengths found so far. Until the first item that is no list has been reached, every
    list visited adds a length; from then on lists are compared with the lengths. -/
structure Outline where
  lengths : List Nat := []
  /-- Lists at this depth count as elements. -/
  limit : Nat
  settled : Bool := false
  ragged : Bool := false

namespace Outline

/-- An element at a depth. An element less deep than others makes the outline ragged. -/
def element (depth : Nat) (o : Outline) : Outline :=
  if o.limit = depth then { o with settled := true }
  else { o with limit := depth, settled := true, ragged := o.ragged || o.settled }

/-- A list at a depth above the limit. One of another length makes the outline ragged, and its
    depth becomes the limit. -/
def enter (depth length : Nat) (o : Outline) : Outline :=
  if o.settled then
    if o.lengths[depth]? = some length then o else { o with limit := depth, ragged := true }
  else { o with lengths := o.lengths ++ [length] }

mutual

def visit (depth : Nat) (o : Outline) : Value → Outline
  | .list items | .tuple items =>
    if o.limit ≤ depth then { o.element depth with ragged := true }
    else
      let entered := o.enter depth items.length
      if entered.limit ≤ depth then entered
      else if items.isEmpty then { entered with limit := depth + 1, settled := true }
      else visitItems (depth + 1) entered items
  | _ => o.element depth

def visitItems (depth : Nat) (o : Outline) : List Value → Outline
  | [] => o
  | v :: rest => visitItems depth (visit depth o v) rest

end

/-- The outline of a value, of at most `most` axes. -/
def ofValue (most : Nat) (v : Value) : Outline := visit 0 { limit := most } v

def dims (o : Outline) : List Nat := o.lengths.take o.limit

end Outline

namespace Value

mutual

def itemsAt (depth : Nat) : Value → List Value
  | list items => if depth = 0 then [list items] else itemsOfAll (depth - 1) items
  | tuple items => if depth = 0 then [tuple items] else itemsOfAll (depth - 1) items
  | v => [v]

def itemsOfAll (depth : Nat) : List Value → List Value
  | [] => []
  | v :: rest => itemsAt depth v ++ itemsOfAll depth rest

end

end Value

end ReductionIR
