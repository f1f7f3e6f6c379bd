import ReductionIR.Text.Base64
import ReductionIR.Yaml.Node
/-
The objects that the nodes of a document stand for. A scalar is built at once; a collection
begins empty, and its parts are built when all that was begun before it is filled. So a
failure further out comes before one further in.
-/
namespace ReductionIR.Yaml

/-- Collections refer to their parts by node. No two dictionary keys are equal. -/
inductive Object
  /-- What is no number is equal only to what has the same mark. -/
  | scalar (v : Value) (mark : Nat)
  | list (items : List Nat)
  | couples (pairs : List (Nat × Nat))
  | dict (pairs : List (Nat × Nat))
  | set (keys : List Nat)

namespace Object

def isScalar : Object → Bool
  | scalar .. => true
  | _ => false

def isSameKey : Object → Object → Bool
  | scalar (.float x) m, scalar (.float y) n =>
    if x.isNaN && y.isNaN then m == n else (Value.float x).sameKey (.float y)
  | scalar v _, scalar w _ => v.sameKey w
  | _, _ => false

end Object

/-- Nodes, the objects begun so far, and the collections still to be filled, first come first
    served. -/
structure Building where
  nodes : Nodes
  objects : Array (Option Object)
  queue : List Nat := []

abbrev Build := StateT Building (Except Failure)

namespace Build

/-- The node of a number; there is none that is not. -/
def node (i : Nat) : Build Node := do return ((← get).nodes[i]?).getD ⟨.null, .scalar ""⟩

def pairsOf (i : Nat) : Build (List (Nat × Nat)) := do
  match (← node i).body with
  | .mapping pairs => return pairs
  | _ => return []

def tagOf (i : Nat) : Build Tag := do return (← node i).tag

def setNode (i : Nat) (n : Node) : Build Unit :=
  modify fun s => { s with nodes := s.nodes.setIfInBounds i n }

def setPairs (i : Nat) (pairs : List (Nat × Nat)) : Build Unit := do
  setNode i ⟨← tagOf i, .mapping pairs⟩

def setObject (i : Nat) (object : Object) : Build Unit :=
  modify fun s => { s with objects := s.objects.setIfInBounds i (some object) }

def object? (i : Nat) : Build (Option Object) := do return ((← get).objects[i]?).join

/-! Scalars -/

/-- The text of a scalar; a mapping stands for the value of its key for that. -/
def scalarText : Nat → Nat → Build String
  | 0, _ => throw (.value .tooDeep)
  | steps + 1, i => do
    match (← node i).body with
    | .scalar text => return text
    | .mapping pairs =>
      match ← pairs.findM? fun pair => do return decide ((← tagOf pair.1) = .value) with
      | some pair => scalarText steps pair.2
      | none => throw .invalid
    | .sequence _ => throw .invalid

def scalarValue? (tag : Tag) (text : String) : Option (Except Failure Value) :=
  let lift (result : Except Breakdown Value) : Option (Except Failure Value) :=
    some (result.mapError .value)
  match tag with
  | .null => some (.ok .null)
  | .bool => lift (boolValue text)
  | .int => lift (intValue text)
  | .float => lift (floatValue text)
  | .binary => some (((Text.Base64.decode? text).elim (.error .invalid)) (.ok ∘ .bytes))
  | .timestamp => lift (momentValue text)
  | .str => some (.ok (.text text))
  | _ => none

def isCollection (tag : Tag) : Bool := [.seq, .map, .set, .omap, .pairs].contains tag

/-- Begin the object of a node, if it is not begun yet. -/
def start (i : Nat) : Build Unit := do
  if (← object? i).isNone then
    let n ← node i
    if isCollection n.tag then
      setObject i (.list [])
      modify fun s => { s with queue := s.queue ++ [i] }
    else if (scalarValue? n.tag "").isNone then throw .invalid
    else
      let text ← scalarText (← get).nodes.size i
      match n.tag, n.body with
      | .timestamp, .mapping _ => throw (.value .wrongType)
      | _, _ =>
        match (scalarValue? n.tag text).getD (.error .invalid) with
        | .ok v => setObject i (.scalar v (if isNanWord text then 0 else i + 1))
        | .error failure => throw failure

/-! Merge keys -/

mutual

/-- Put what the merge keys of a mapping bring in in front of its own pairs. A key for the
    value of a scalar becomes a text. -/
def merge : Nat → Nat → Build Unit
  | 0, _ => pure ()
  | steps + 1, i => do
    let brought ← bring steps i
    let own ← pairsOf i
    own.forM fun pair => do
      let key ← node pair.1
      if key.tag = .value then setNode pair.1 { key with tag := .str }
    setPairs i (brought ++ own)

/-- Take the merge keys out of a mapping, one after the other, for the pairs they stand for. -/
def bring : Nat → Nat → Build (List (Nat × Nat))
  | 0, _ => return []
  | steps + 1, i => do
    let pairs ← pairsOf i
    match ← pairs.findM? fun pair => do return decide ((← tagOf pair.1) = .merge) with
    | none => return []
    | some pair =>
      setPairs i (pairs.eraseIdx (pairs.idxOf pair))
      let first ←
        match (← node pair.2).body with
        | .mapping _ => do
          merge steps pair.2
          pairsOf pair.2
        | .sequence items => do
          let parts ← items.mapM fun item => do
            match (← node item).body with
            | .mapping _ => do
              merge steps item
              pairsOf item
            | _ => throw .invalid
          pure parts.reverse.flatten
        | .scalar _ => throw .invalid
      return first ++ (← bring steps i)

end

/-- A bound on the steps of merging: each takes a merge key away. -/
def mergeBound (nodes : Nodes) : Nat :=
  2 * nodes.foldl (fun n node =>
    match node.body with
    | .mapping pairs => n + pairs.length
    | _ => n) 1

/-! Collections -/

/-- Put a pair into a dictionary; a key that is there keeps its place. -/
def put (key value : Nat) : List (Nat × Nat) → Build (List (Nat × Nat))
  | [] => return [(key, value)]
  | (k, v) :: rest => do
    match ← object? k, ← object? key with
    | some a, some b =>
      if a.isSameKey b then return (k, value) :: rest
      else return (k, v) :: (← put key value rest)
    | _, _ => return (k, v) :: (← put key value rest)

/-- The pairs of a mapping as those of a dictionary; collections are no keys. -/
def dictionary (merges i : Nat) : Build (List (Nat × Nat)) := do
  merge merges i
  (← pairsOf i).foldlM (fun items pair => do
    start pair.1
    if !((← object? pair.1).any Object.isScalar) then throw .invalid
    start pair.2
    put pair.1 pair.2 items) []

def couple (i : Nat) : Build (Nat × Nat) := do
  match (← node i).body with
  | .mapping [pair] => do
    start pair.1
    start pair.2
    return pair
  | _ => throw .invalid

def fill (merges i : Nat) : Build Unit := do
  let n ← node i
  match n.tag, n.body with
  | .seq, .sequence items => do
    items.forM start
    setObject i (.list items)
  | .omap, .sequence items | .pairs, .sequence items => do
    setObject i (.couples (← items.mapM couple))
  | .map, .mapping _ => do setObject i (.dict (← dictionary merges i))
  | .set, .mapping _ => do setObject i (.set ((← dictionary merges i).map Prod.fst))
  | _, _ => throw .invalid

def fillAll (merges : Nat) : Nat → Build Unit
  | 0 => pure ()
  | steps + 1 => do
    match (← get).queue with
    | [] => pure ()
    | i :: rest => do
      modify fun s => { s with queue := rest }
      fill merges i
      fillAll merges steps

def all (root : Nat) : Build Unit := do
  start root
  let nodes := (← get).nodes
  fillAll (mergeBound nodes) nodes.size

end Build

/-- The objects of nodes, as far as one of them holds them. -/
def Object.ofNodes (nodes : Nodes) (root : Nat) : Except Failure (Array (Option Object)) :=
  match (Build.all root).run { nodes, objects := .replicate nodes.size none } with
  | .ok (_, s) => .ok s.objects
  | .error failure => .error failure

end ReductionIR.Yaml
