import ReductionIR.Yaml.Tag
import ReductionIR.Yaml.Token
/-
The nodes of a YAML document: scalars, sequences and mappings with their tags. Nodes refer to
each other by number, so that an alias shares the node of its anchor, even from inside of it.
-/
namespace ReductionIR.Yaml

inductive NodeBody
  | scalar (text : String)
  | sequence (items : List Nat)
  | mapping (pairs : List (Nat × Nat))

structure Node where
  tag : Tag
  body : NodeBody

abbrev Nodes := Array Node

namespace Node

/-- Tokens still to come, and the failure after them; the nodes so far, and those that have
    anchors. -/
structure Source where
  tokens : List Token
  failure : Option Failure
  handles : List (String × String)
  nodes : Nodes := #[]
  anchors : List (String × Nat) := []
  depth : Nat := 0

abbrev Parse := StateT Source (Except Failure)

def refuse {α : Type} : Parse α := throw .invalid

/-- The next token; behind the last one comes the failure. -/
def peek : Parse (Option Token) := do
  let s ← get
  match s.tokens, s.failure with
  | [], some failure => throw failure
  | tokens, _ => return tokens.head?

def advance : Parse Unit := modify fun s => { s with tokens := s.tokens.drop 1 }

def accept (p : Token → Bool) : Parse Bool := do
  match ← peek with
  | some token =>
    if p token then do
      advance
      return true
    else return false
  | none => return false

def next (p : Token → Bool) : Parse Bool := do return (← peek).any p

def isItem : Token → Bool
  | .item => true
  | _ => false
def isKey : Token → Bool
  | .key => true
  | _ => false
def isColon : Token → Bool
  | .colon => true
  | _ => false
def isComma : Token → Bool
  | .comma => true
  | _ => false
def isBlockEnd : Token → Bool
  | .blockEnd => true
  | _ => false
def isSequenceEnd : Token → Bool
  | .flowSequenceEnd => true
  | _ => false
def isMappingEnd : Token → Bool
  | .flowMappingEnd => true
  | _ => false
def isDocumentStart : Token → Bool
  | .documentStart => true
  | _ => false
def isDocumentEnd : Token → Bool
  | .documentEnd => true
  | _ => false
def isDirective : Token → Bool
  | .version _ | .handle .. | .otherDirective => true
  | _ => false

def anchor? : Parse (Option String) := do
  match ← peek with
  | some (.anchor name) => do
    advance
    return some name
  | _ => return none

def tag? : Parse (Option TagText) := do
  match ← peek with
  | some (.tag text) => do
    advance
    return some text
  | _ => return none

/-- The anchor and the tag before a node, in either order, each at most once. -/
def properties : Parse (Option String × Option TagText) := do
  match ← anchor? with
  | some name => return (some name, ← tag?)
  | none =>
    match ← tag? with
    | some text => return (← anchor?, some text)
    | none => return (none, none)

def tagName (text : TagText) : Parse String := do
  match text.handle with
  | none => return text.rest
  | some handle =>
    match (← get).handles.lookup handle with
    | some leading => return leading ++ text.rest
    | none => refuse

/-- The tag of a name, if there is one; a lone exclamation mark names none. -/
def explicitTag (name : Option String) : Option Tag :=
  match name with
  | none => none
  | some name => if name = "!" then none else some (Tag.ofName name)

/-- The tag of a scalar: the given one, or by form for plain scalars and those with a lone
    exclamation mark. -/
def scalarTag (name : Option String) (plain : Bool) (text : String) : Tag :=
  match explicitTag name with
  | some tag => tag
  | none => if plain || name.isSome then Tag.ofForm text else .str

def add (node : Node) : Parse Nat :=
  modifyGet fun s => (s.nodes.size, { s with nodes := s.nodes.push node })

def empty : Parse Nat := add ⟨.null, .scalar ""⟩

/-- An anchor is used once. -/
def checkAnchor (anchor : Option String) : Parse Unit := do
  let anchors := (← get).anchors
  if anchor.any fun name => (anchors.lookup name).isSome then refuse

def attach (anchor : Option String) (node : Nat) : Parse Unit :=
  match anchor with
  | none => pure ()
  | some name => modify fun s => { s with anchors := (name, node) :: s.anchors }

def scalar (anchor : Option String) (tag : Tag) (text : String) : Parse Nat := do
  let node ← add ⟨tag, .scalar text⟩
  attach anchor node
  return node

/-- Collections are not nested deeper than this. -/
def depthLimit : Nat := 488

/-- A collection, given how its body is read; inside of the body it has its anchor already. -/
def collection (anchor : Option String) (tag : Tag) (read : Parse NodeBody) : Parse Nat := do
  let node ← add ⟨tag, .sequence []⟩
  attach anchor node
  modify fun s => { s with depth := s.depth + 1 }
  if depthLimit < (← get).depth then throw (.value .tooDeep)
  let body ← read
  modify fun s => { s with depth := s.depth - 1, nodes := s.nodes.setIfInBounds node ⟨tag, body⟩ }
  return node

def aliased (name : String) : Parse Nat := do
  match (← get).anchors.lookup name with
  | some node => return node
  | none => refuse

mutual

/-- A node; `block` admits block collections and `bare` a sequence without indentation. -/
def parse (block bare : Bool) : Nat → Parse Nat
  | 0 => refuse
  | steps + 1 => do
    match ← peek with
    | some (.alias name) => do
      advance
      aliased name
    | _ => do
      let (anchor, text) ← properties
      let name ← match text with
        | none => pure none
        | some text => some <$> tagName text
      let _ ← peek
      checkAnchor anchor
      content block bare anchor name steps

def content (block bare : Bool) (anchor name : Option String) : Nat → Parse Nat
  | 0 => refuse
  | steps + 1 => do
    let sequenceTag := (explicitTag name).getD .seq
    let mappingTag := (explicitTag name).getD .map
    let nothing : Parse Nat :=
      if anchor.isSome || name.isSome then scalar anchor (scalarTag name true "") "" else refuse
    match ← peek with
    | some .item =>
      if bare then collection anchor sequenceTag (NodeBody.sequence <$> bareItems steps)
      else nothing
    | some (.scalar text plain) => do
      advance
      scalar anchor (scalarTag name (plain && name.isNone) text) text
    | some .flowSequence => do
      advance
      collection anchor sequenceTag (NodeBody.sequence <$> flowItems true steps)
    | some .flowMapping => do
      advance
      collection anchor mappingTag (NodeBody.mapping <$> flowPairs true steps)
    | some .blockSequence =>
      if block then do
        advance
        collection anchor sequenceTag (NodeBody.sequence <$> blockItems steps)
      else nothing
    | some .blockMapping =>
      if block then do
        advance
        collection anchor mappingTag (NodeBody.mapping <$> blockPairs steps)
      else nothing
    | _ => nothing

def blockItems : Nat → Parse (List Nat)
  | 0 => refuse
  | steps + 1 => do
    if ← accept isItem then
      let first ← if ← next fun t => isItem t || isBlockEnd t then empty
        else parse true false steps
      return first :: (← blockItems steps)
    else if ← accept isBlockEnd then return []
    else refuse

/-- The items of a sequence at the indentation of its key. -/
def bareItems : Nat → Parse (List Nat)
  | 0 => refuse
  | steps + 1 => do
    if ← accept isItem then
      let first ←
        if ← next fun t => isItem t || isKey t || isColon t || isBlockEnd t then empty
        else parse true false steps
      return first :: (← bareItems steps)
    else return []

def blockPart : Nat → Parse Nat
  | 0 => refuse
  | steps + 1 => do
    if ← next fun t => isKey t || isColon t || isBlockEnd t then empty
    else parse true true steps

def blockPairs : Nat → Parse (List (Nat × Nat))
  | 0 => refuse
  | steps + 1 => do
    if ← accept isKey then
      let key ← blockPart steps
      let value ← if ← accept isColon then blockPart steps else empty
      return (key, value) :: (← blockPairs steps)
    else if ← accept isBlockEnd then return []
    else refuse

/-- A part of a flow collection that may be left out before a comma or an end. -/
def flowPart (ends : Token → Bool) : Nat → Parse Nat
  | 0 => refuse
  | steps + 1 => do
    if ← next fun t => isComma t || ends t then empty else parse false false steps

/-- The value after a colon, if there is a colon. -/
def flowValue (ends : Token → Bool) : Nat → Parse Nat
  | 0 => refuse
  | steps + 1 => do
    if ← accept isColon then flowPart ends steps else empty

def flowKey (ends : Token → Bool) : Nat → Parse Nat
  | 0 => refuse
  | steps + 1 => do
    if ← next isColon then empty else flowPart ends steps

/-- A pair after the sign of its key. -/
def flowPair (ends : Token → Bool) : Nat → Parse (Nat × Nat)
  | 0 => refuse
  | steps + 1 => do
    let key ← flowKey ends steps
    return (key, ← flowValue ends steps)

/-- The items of a flow sequence; a pair among them is a mapping by itself. -/
def flowItems (first : Bool) : Nat → Parse (List Nat)
  | 0 => refuse
  | steps + 1 => do
    if ← accept isSequenceEnd then return []
    else
      let separated ← if first then pure true else accept isComma
      if !separated then refuse
      else if ← accept isKey then
        let pair ← collection none .map do
          return .mapping [← flowPair isSequenceEnd steps]
        return pair :: (← flowItems false steps)
      else if ← accept isSequenceEnd then return []
      else
        let item ← parse false false steps
        return item :: (← flowItems false steps)

def flowPairs (first : Bool) : Nat → Parse (List (Nat × Nat))
  | 0 => refuse
  | steps + 1 => do
    if ← accept isMappingEnd then return []
    else
      let separated ← if first then pure true else accept isComma
      if !separated then refuse
      else if ← accept isKey then
        let pair ← flowPair isMappingEnd steps
        return pair :: (← flowPairs false steps)
      else if ← accept isMappingEnd then return []
      else
        let key ← parse false false steps
        let value ← empty
        return (key, value) :: (← flowPairs false steps)

end

def defaultHandles : List (String × String) := [("!", "!"), ("!!", Tag.standardSpace)]

/-- The handles that directives declare; the version must be 1, and nothing is declared
    twice. -/
def declared : Nat → Bool → List (String × String) → Parse (List (String × String))
  | 0, _, _ => refuse
  | steps + 1, versioned, handles => do
    match ← peek with
    | some (.version major) =>
      advance
      if versioned || major ≠ 1 then refuse else declared steps true handles
    | some (.handle name leading) =>
      advance
      if (handles.lookup name).isSome then refuse
      else declared steps versioned ((name, leading) :: handles)
    | some .otherDirective =>
      advance
      declared steps versioned handles
    | _ => return handles

/-- A bound on the steps of reading the tokens that are left. -/
def stepBound : Parse Nat := do return 9 * ((← get).tokens.length + 1)

def documentStart : Parse Unit := do
  let handles ← declared (← stepBound) false []
  if !(← accept isDocumentStart) then refuse
  modify fun s => { s with handles := handles ++ defaultHandles }

/-- A document, with or without its marker; `none` when there is nothing at all. -/
def document : Parse (Option Nat) := do
  match ← peek with
  | none => return none
  | some token =>
    if isDirective token || isDocumentStart token then do
      documentStart
      let ended := (← peek).all fun t => isDirective t || isDocumentStart t || isDocumentEnd t
      if ended then return some (← empty) else return some (← parse true false (← stepBound))
    else return some (← parse true false (← stepBound))

/-- The marks that end a document, and nothing after them. -/
def ending : Nat → Parse Unit
  | 0 => refuse
  | steps + 1 => do
    if ← accept isDocumentEnd then ending steps
    else if (← peek).isSome then do
      documentStart
      refuse

def only : Parse (Option Nat) := do
  let node ← document
  ending (← stepBound)
  return node

/-- The nodes of the tokens of a text, and the one of the document. -/
def ofTokens? (tokens : List Token × Option Failure) : Except Failure (Nodes × Option Nat) :=
  match only.run { tokens := tokens.1, failure := tokens.2, handles := defaultHandles } with
  | .ok (node, s) => .ok (s.nodes, node)
  | .error failure => .error failure

end Node

end ReductionIR.Yaml
