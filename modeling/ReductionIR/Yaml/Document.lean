import ReductionIR.Yaml.Object
/-
YAML documents: the objects of a text, and the values they show. Objects are shared, and may
hold themselves; values are trees, which end where an object comes again inside of itself.
-/
namespace ReductionIR.Yaml

structure Document where
  objects : Array (Option Object)
  /-- The node of the document; a text without one is null. -/
  root? : Option Nat

namespace Document

def ofText (text : String) : Except Failure Document := do
  let (nodes, root?) ← Node.ofTokens? (Token.ofText text)
  match root? with
  | none => return { objects := #[], root? }
  | some root => return { objects := ← Object.ofNodes nodes root, root? }

def object? (d : Document) (i : Nat) : Option Object := d.objects[i]?.join

def scalar (d : Document) (i : Nat) : Value :=
  match d.object? i with
  | some (.scalar v _) => v
  | _ => .null

/-- The number that tells where an integer goes in a set: its remainder by a prime, of 64
    bits. -/
def spread (n : Int) : Nat :=
  let rest := n.sign * (n.natAbs % (Nat.pow 2 61 - 1) : Nat)
  ((if rest = -1 then -2 else rest) % Nat.pow 2 64).toNat

/-- How many places lie in a row when one is taken. -/
def rowLength : Nat := 10

/-- The first free place for a number among `size` places: from its remainder on, where a whole
    row fits, and then at places told by the bits left of the number. -/
def freePlace (size : Nat) (taken : List Nat) : Nat → Nat → Nat → Nat
  | 0, place, _ => place
  | steps + 1, place, bits =>
    let row := if place + rowLength ≤ size then List.range' place rowLength else [place]
    match row.find? fun p => !taken.contains p with
    | some free => free
    | none => freePlace size taken steps ((5 * place + 1 + bits / 32) % size) (bits / 32)

/-- The places of a set: a power of two that is more than twice the number of its items. -/
def placeCount (count : Nat) : Nat :=
  let least := if count < 5 then 0 else 2 * count
  (((List.range 64).map fun k => Nat.pow 2 (k + 3)).find? fun n => decide (least < n)).getD 8

/-- The order of a set: that of the places its items go to one after the other. Only integers
    have places; among other items the order is that of the text. -/
def setOrder (items : List Value) : List Value :=
  let size := placeCount items.length
  match items.mapM Value.integer? with
  | none => items
  | some numbers =>
    let places := numbers.foldl (fun taken n =>
      taken ++ [freePlace size taken (64 + size) (spread n % size) (spread n)]) []
    ((places.zip items).mergeSort fun a b => decide (a.1 ≤ b.1)).map Prod.snd

/-- The value of a node inside of others, down to a depth; what lies deeper is null. -/
def valueInside (d : Document) (path : List Nat) : Nat → Nat → Value
  | 0, _ => .null
  | depth + 1, i =>
    let again := path.contains i
    let inside := d.valueInside (i :: path) depth
    match d.object? i with
    | none => .null
    | some (.scalar v _) => v
    | some (.list items) => if again then .cycle false else .list (items.map inside)
    | some (.couples pairs) =>
      if again then .cycle false
      else .list (pairs.map fun pair => .tuple [inside pair.1, inside pair.2])
    | some (.dict pairs) =>
      if again then .cycle true
      else .dict (pairs.map fun pair => (d.scalar pair.1, inside pair.2))
    | some (.set keys) => .set (setOrder (keys.map d.scalar))

/-- The value of a node. No path goes through more objects than there are. -/
def value (d : Document) (i : Nat) : Value := d.valueInside [] (d.objects.size + 1) i

/-- The pairs of a dictionary: keys and the nodes of their values. -/
def entries? (d : Document) (i : Nat) : Option (List (Value × Nat)) :=
  match d.object? i with
  | some (.dict pairs) => some (pairs.map fun pair => (d.scalar pair.1, pair.2))
  | _ => none

/-- A dictionary with the values that `read` gives for some keys, and null for the others;
    of what is no dictionary only the sort. -/
def valueBy (d : Document) (read : String → Option (Nat → Value)) (i : Nat) : Value :=
  match d.entries? i with
  | some entries => .dict (entries.map fun (key, j) =>
      match key with
      | .text name => (key, (read name).elim .null (· j))
      | _ => (key, .null))
  | none => d.valueInside [] 1 i

end Document

end ReductionIR.Yaml
