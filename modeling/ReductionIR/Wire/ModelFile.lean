import ReductionIR.Wire.Elements
/-
Model files: which field of which message holds which part of a model. Reading accepts
every way to write a field and skips what a model has no place for; writing has one way.
-/
namespace ReductionIR

namespace Wire

/-! Attributes -/

namespace AttributeField

def name := 1
def float := 2
def int := 3
def text := 4
def tensor := 5
def graph := 6
def floats := 7
def ints := 8
def texts := 9
def tensors := 10
def graphs := 11
def kind := 20
/-- The name of an attribute of an enclosing function, which a node of a model has not. -/
def outer := 21

end AttributeField

def otherKinds : List (Int × String) :=
  [(0, "UNDEFINED"), (4, "TENSOR"), (5, "GRAPH"), (9, "TENSORS"), (10, "GRAPHS"),
    (11, "SPARSE_TENSOR"), (12, "SPARSE_TENSORS"), (13, "TYPE_PROTO"), (14, "TYPE_PROTOS")]

def single (bits : Nat) : Binary64 := .ofLayout .binary32 bits

def usedKinds (m : Message) : List Int :=
  let holds (kind : Int) (number : Nat) (isData : Payload → Bool) : List Int :=
    if (m.payloads number).any isData then [kind] else []
  let isBlock : Payload → Bool
    | .block _ => true
    | _ => false
  let isWord : Payload → Bool
    | .four _ => true
    | _ => false
  let isNumber : Payload → Bool
    | .number _ => true
    | _ => false
  let isFull : Payload → Bool
    | .block bytes => !bytes.isEmpty
    | _ => false
  holds 1 2 isWord ++ holds 2 3 isNumber ++ holds 3 4 isBlock ++ holds 4 5 isBlock ++
    holds 5 6 isBlock ++ holds 6 7 (fun p => isWord p || isFull p) ++
    holds 7 8 (fun p => isNumber p || isFull p) ++ holds 8 9 isBlock ++ holds 9 10 isBlock ++
    holds 10 11 isBlock ++ holds 13 14 isBlock ++ holds 14 15 isBlock ++ holds 11 22 isBlock ++
    holds 12 23 isBlock

def kindOf? (m : Message) : Option Int :=
  ((m.payloads AttributeField.kind).filterMap fun
    | .number n =>
      let kind := (Message.signed n).bmod 4294967296
      if 0 ≤ kind ∧ kind ≤ 14 then some kind else none
    | _ => none).getLast?

def readAttribute (m : Message) : Option Model.Attribute := do
  let kind := (kindOf? m).getD 0
  let floats ← m.words? 4 AttributeField.floats
  let ints ← m.numbers? AttributeField.ints
  let graphs ← m.inners? AttributeField.graphs
  let tensor ← readInitializer (← m.inner? AttributeField.tensor)
  let tensors ← (← m.inners? AttributeField.tensors).mapM readInitializer
  let _ := (← m.inner? AttributeField.graph) :: graphs
  let data : Model.AttributeData :=
    if kind = 1 then
      .float (single (((m.words? 4 AttributeField.float).bind List.getLast?).getD 0))
    else if kind = 2 then .int (m.int AttributeField.int)
    else if kind = 3 then .text ((m.block? AttributeField.text).getD [])
    else if kind = 6 then .floats (floats.map single)
    else if kind = 7 then .ints (ints.map Message.signed)
    else if kind = 8 then .texts (m.blocks AttributeField.texts)
    else .other ((otherKinds.lookup kind).getD "UNDEFINED")
  let used := usedKinds m
  return { name := m.text AttributeField.name, data, isGiven := used.contains kind
           isClear := (kindOf? m).isSome && (m.blocks AttributeField.outer).isEmpty &&
             used.length ≤ 1 && used.all (· == kind) &&
             (!used.contains 4 || tensor.isKnown) && tensors.all Model.Initializer.isKnown }

def writeData : Model.AttributeData → Message
  | .float x => [(AttributeField.float, .four (x.toLayout .binary32))] ++
      intField AttributeField.kind 1
  | .int n => intField AttributeField.int n ++ intField AttributeField.kind 2
  | .text bytes => bytesField AttributeField.text bytes ++ intField AttributeField.kind 3
  | .floats xs => (xs.map fun x => (AttributeField.floats, .four (x.toLayout .binary32))) ++
      intField AttributeField.kind 6
  | .ints ns => ns.flatMap (intField AttributeField.ints) ++ intField AttributeField.kind 7
  | .texts items => items.flatMap (bytesField AttributeField.texts) ++
      intField AttributeField.kind 8
  | .other kind => intField AttributeField.kind
      (((otherKinds.find? fun entry => entry.2 == kind).map Prod.fst).getD 0)

def writeAttribute (a : Model.Attribute) : Message :=
  textField AttributeField.name a.name ++ writeData a.data

/-! Nodes -/

def readNode (m : Message) : Option Model.Node := do
  return { inputs := m.texts 1, outputs := m.texts 2, name := m.text 3, opType := m.text 4,
           domain := m.text 7,
           attributes := ← (← m.inners? 5).mapM readAttribute }

def writeNode (n : Model.Node) : Message :=
  n.inputs.flatMap (fun name => bytesField 1 name.toUTF8.toList) ++
    n.outputs.flatMap (fun name => bytesField 2 name.toUTF8.toList) ++ textField 3 n.name ++
    textField 4 n.opType ++ n.attributes.flatMap (fun a => innerField 5 (writeAttribute a)) ++
    textField 7 n.domain

/-! Types of graph inputs and outputs -/

/-- A dim has a length or a name; the later of two counts. -/
def readDim (m : Message) : Option Dim := do
  let parts := m.filter fun field => field.1 == 1 || field.1 == 2
  match parts.getLast? with
  | some (1, _) => return .known (m.int 1)
  | some _ => return .named (m.text 2)
  | none => return .anonymous

def writeDim : Dim → Message
  | .known n => intField 1 n
  | .named symbol => bytesField 2 symbol.toUTF8.toList
  | .anonymous => []

def readShape (m : Message) : Option Shape :=
  if m.has 2 then do
    let dims ← (← (← m.inner? 2).inners? 1).mapM readDim
    return .ranked dims
  else some .unknownRank

def writeShape : Shape → Message
  | .unknownRank => []
  | .ranked dims => innerField 2 (dims.flatMap fun d => innerField 1 (writeDim d))

/-- The parts that a type of a number must have, besides the tensors. -/
def typeParts : List (Nat × List Nat) := [(4, [1]), (5, [1, 2]), (7, []), (8, [1, 2]), (9, [1])]

/-- Types other than tensors are told apart by their numbers only. A type without all its parts
    counts as none. -/
def readType (m : Message) : Option Model.ValueType := do
  let isPart (field : Nat × Payload) : Bool := field.1 == 1 || (typeParts.lookup field.1).isSome
  match (m.filter isPart).getLast? with
  | some (1, _) =>
    let tensor ← m.inner? 1
    let shape ← readShape tensor
    return if tensor.has 1 then .tensor (tensor.shortInt 1) shape else .absent
  | some (number, _) =>
    let parts ← m.inner? number
    return if ((typeParts.lookup number).getD []).all parts.has then .other else .absent
  | none => return .absent

def writeType : Model.ValueType → Message
  | .tensor elemCode shape => innerField 2 (innerField 1 (intField 1 elemCode ++ writeShape shape))
  | .other => innerField 2 (innerField 4 (innerField 1 []))
  | .absent => []

def readValueInfo (m : Message) : Option Model.ValueInfo := do
  return { name := m.text 1, type := ← readType (← m.inner? 2) }

def writeValueInfo (v : Model.ValueInfo) : Message := textField 1 v.name ++ writeType v.type

/-! Models -/

def readGraph (m : Message) : Option Model.Graph := do
  return { nodes := ← (← m.inners? 1).mapM readNode, name := m.text 2,
           initializers := ← (← m.inners? 5).mapM readInitializer,
           inputs := ← (← m.inners? 11).mapM readValueInfo,
           outputs := ← (← m.inners? 12).mapM readValueInfo,
           hints := ← (← m.inners? 13).mapM readValueInfo }

def writeGraph (g : Model.Graph) : Message :=
  g.nodes.flatMap (fun n => innerField 1 (writeNode n)) ++ textField 2 g.name ++
    g.initializers.flatMap (fun init => innerField 5 (writeInitializer init)) ++
    g.inputs.flatMap (fun v => innerField 11 (writeValueInfo v)) ++
    g.outputs.flatMap (fun v => innerField 12 (writeValueInfo v))

def readImport (m : Message) : Option (String × Int) := do
  return (m.text 1, m.int 2)

def writeImport (entry : String × Int) : Message := textField 1 entry.1 ++ intField 2 entry.2

end Wire

namespace Model

open Wire

/-- The model that a file holds; `none` when the bytes are no model. -/
def ofBytes? (bytes : Bytes) : Option Model := do
  let m ← readMessage bytes
  return { irVersion := m.int 1, producerName := m.text 2, graph := ← readGraph (← m.inner? 7),
           opsetImports := ← (← m.inners? 8).mapM readImport,
           remarks := (← m.inners? 14).map fun remark => remark.text 1 }

def toBytes (m : Model) : Bytes :=
  writeMessage (intField 1 m.irVersion ++ textField 2 m.producerName ++
    innerField 7 (writeGraph m.graph) ++
    m.opsetImports.flatMap fun entry => innerField 8 (writeImport entry))

end Model

end ReductionIR
