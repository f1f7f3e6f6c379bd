import ReductionIR.Conversion
import ReductionIR.OperatorSet
/-
What a model file must satisfy before it is converted: names, types and versions are given,
every value is defined once and before it is used, and nodes fit their operators.
-/
namespace ReductionIR

namespace Model

/-- The file versions that can be read. Versions up to the first of the later two know no
    operator sets; up to the second, initializers must be graph inputs. -/
def greatestIrVersion : Int := 14
def leastWithOpsets : Int := 3
def leastWithFreeInitializers : Int := 4

/-- Versions are numbers of 32 bits; what is above them does not count. -/
def wrapped (version : Int) : Int := version.bmod 4294967296

/-- The operator sets that nodes are checked against: the first one stands for none in a file
    that knows none. -/
def usedImports (m : Model) : List (String × Int) :=
  if m.opsetImports.isEmpty && decide (m.irVersion < leastWithOpsets) then [("", 1)]
  else m.opsetImports

/-- The last version imported under a name. -/
def lastImport? (imports : List (String × Int)) (domain : String) : Option Int :=
  ((imports.filter fun entry => entry.1 == domain).getLast?).map fun entry => wrapped entry.2

/-- The version imported for a domain; the long name of the default one stands in for the
    short one, but not the other way round. -/
def importedVersion? (imports : List (String × Int)) (domain : String) : Option Int :=
  (lastImport? imports domain).or
    (if domain = "" then lastImport? imports "ai.onnx" else none)

/-- A graph input or output has a name and, as a tensor, a shape. -/
def isDeclared (value : ValueInfo) : Bool :=
  value.name != "" &&
    (match value.type with
      | .tensor _ (.ranked _) | .other => true
      | .tensor _ .unknownRank | .absent => false)

/-- A node of a model: it has an operator and a value, its domain is imported, its attributes
    are clear, and it fits its operator. -/
def isNode (imports : List (String × Int)) (node : Node) : Bool :=
  node.opType != "" && !(node.inputs.isEmpty && node.outputs.isEmpty) &&
    (OperatorSet.isExperimental node ||
      (match importedVersion? imports node.domain with
        | some version =>
          (node.attributes.all fun a => a.name != "" && a.isClear) &&
            OperatorSet.fits version node
        | none => false))

/-- Nodes use what is defined before them and define what is new. -/
def areOrdered (defined : List String) : List Node → Bool
  | [] => true
  | node :: rest =>
    let outputs := node.outputs.filter (· ≠ "")
    (node.inputs.all fun name => name = "" || defined.contains name) &&
      (outputs.all fun name => !defined.contains name) &&
      decide outputs.Nodup &&
      areOrdered (outputs ++ defined) rest

def areDistinct (names : List String) : Bool := decide ("" ∉ names ∧ names.Nodup)

def isWellFormed (m : Model) : Bool :=
  let inputs := m.graph.inputs.map ValueInfo.name
  let initializers := m.graph.initializers.map Initializer.name
  decide (m.irVersion ≠ 0 ∧ m.irVersion ≤ greatestIrVersion) && decide m.remarks.Nodup &&
    ((decide (leastWithOpsets ≤ m.irVersion)) == !m.opsetImports.isEmpty) &&
    m.graph.name != "" && m.graph.inputs.all isDeclared && m.graph.outputs.all isDeclared &&
    areDistinct inputs && areDistinct initializers &&
    m.graph.initializers.all Initializer.isKnown &&
    (decide (leastWithFreeInitializers ≤ m.irVersion) ||
      initializers.all inputs.contains) &&
    m.graph.nodes.all (isNode m.usedImports) && areOrdered (inputs ++ initializers) m.graph.nodes

def admits (d : Dim) (n : Int) : Bool :=
  match d with
  | .known m => m == n
  | _ => true

/-- Does an initializer agree with a type given for its name? Types of which a part is left open
    agree in that part. -/
def agrees (init : Initializer) : ValueType → Bool
  | .tensor elemCode shape =>
    (elemCode == 0 || elemCode == init.elemCode) &&
      shape.dims?.all fun dims => dims.length = init.dims.length &&
        (dims.zip init.dims).all fun pair => admits pair.1 pair.2
  | .other => false
  | .absent => true

/-- The type given for a name: graph outputs tell it before graph inputs do, and those before
    mere hints. -/
def givenType? (m : Model) (name : String) : Option ValueType :=
  (((m.graph.hints ++ m.graph.inputs ++ m.graph.outputs).filter (·.name == name)).getLast?).map
    ValueInfo.type

/-- Can types be followed through the graph? Initializers agree in type and shape with what is
    given for their names, and the domains of the nodes are imported by name. -/
def isConsistent (m : Model) : Bool :=
  (m.graph.initializers.all fun init => (m.givenType? init.name).all (agrees init)) &&
    m.graph.nodes.all fun node => (importedVersion? m.opsetImports node.domain).isSome

end Model

end ReductionIR
