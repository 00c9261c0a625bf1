import SqlMapper.Yaml.Token

/-!
The nodes of a YAML document, read from its tokens. A node may have a name by which later ones
refer to it. Only the first document of a text is read.
-/
namespace SqlMapper.Yaml

inductive Node where
  /-- A scalar; one without a tag has an empty one. -/
  | scalar (tag : String) (plain : Bool) (text : String)
  | sequence (items : List Node)
  | mapping (entries : List (Node × Node))
  /-- Another node by its name; that of a node around it stands for nothing. -/
  | alias (name : String) (target : Option Node)

def Node.empty : Node :=
  .scalar "" true ""

/-- A name for a node, which is not known before its end. -/
structure Anchor where
  name : String
  number : Nat
  node : Option Node := none

/-- Gives the name with a number its node. -/
def Anchor.closed (a : Anchor) (number : Nat) (node : Node) : Anchor :=
  if a.number == number then { a with node := some node } else a

/-- What is left to read, and the names that are known, the last one first. -/
structure Reader where
  tokens : Tokens
  handles : List (String × String) := []
  anchors : List Anchor := []

def Reader.defaultHandles : List (String × String) :=
  [("!", "!"), ("!!", "tag:yaml.org,2002:")]

/-- A tag with its handle replaced; those of the common kinds have a short form. -/
def shortTag (text : String) : String :=
  let common := "tag:yaml.org,2002:".toList
  if common.isPrefixOf text.toList then String.ofList ('!' :: '!' :: text.toList.drop common.length)
  else text

abbrev Reading (α : Type) :=
  StateT Reader Option α

namespace Reading

def peek : Reading Token := do
  let tokens := (← get).tokens
  match tokens.items with
  | token :: _ => return token
  | [] => if tokens.complete then return .streamEnd else failure

def skip : Reading Unit :=
  modify fun r => { r with tokens := { r.tokens with items := r.tokens.items.tail } }

def anchor : Reading (Option String) := do
  match ← peek with
  | .anchor name => skip; return some name
  | _ => return none

def tag : Reading (Option Tag) := do
  match ← peek with
  | .tag tag => skip; return some tag
  | _ => return none

/-- What stands before a node: a name and a tag, in either order. -/
structure Properties where
  anchor : Option String
  tag : Option Tag

def Properties.isEmpty (p : Properties) : Bool :=
  p.anchor.isNone && p.tag.isNone

def properties : Reading Properties := do
  match ← anchor with
  | some name => return ⟨some name, ← tag⟩
  | none =>
      match ← tag with
      | some found => return ⟨← anchor, some found⟩
      | none => return ⟨none, none⟩

/-- The text of a tag; its handle has to be known. -/
def tagText : Option Tag → Reading String
  | none => return ""
  | some tag => do
      if tag.handle == "" then return shortTag tag.suffix
      else match (← get).handles.lookup tag.handle with
        | some meaning => return shortTag (meaning ++ tag.suffix)
        | none => failure

/-- A node by its name, which has to be known. -/
def aliased (name : String) : Reading Node := do
  match (← get).anchors.find? fun anchor => anchor.name == name with
  | some anchor => return .alias name anchor.node
  | none => failure

/-- Reads a node under a name, which is known from its start on. -/
def bound (anchor : Option String) (content : Reading Node) : Reading Node := do
  match anchor with
  | none => content
  | some name =>
      let number := (← get).anchors.length
      modify fun r => { r with anchors := { name, number } :: r.anchors }
      let node ← content
      modify fun r => { r with anchors := r.anchors.map (·.closed number node) }
      return node

/-- Reads a node unless one of some tokens is next, where an empty one stands. -/
def orEmpty (ends : List Token) (content : Reading Node) : Reading Node := do
  if ends.contains (← peek) then return .empty else content

/-- Reads what follows the sign of a value, if there is one. -/
def afterValue (ends : List Token) (content : Reading Node) : Reading Node := do
  if (← peek) == .value then
    skip
    orEmpty ends content
  else return .empty

def keyEnds : List Token :=
  [.key, .value, .blockEnd]

mutual

/-- Reads a node. Blocks may begin in a block only; a sequence without indentation, as a key or
value of one only. -/
def node : Nat → Bool → Bool → Reading Node
  | 0, _, _ => failure
  | fuel + 1, block, loose => do
      match ← peek with
      | .alias name => skip; aliased name
      | _ =>
          let properties ← properties
          let tag ← tagText properties.tag
          bound properties.anchor (content fuel block loose tag properties.isEmpty)

def content : Nat → Bool → Bool → String → Bool → Reading Node
  | 0, _, _, _, _ => failure
  | fuel + 1, block, loose, tag, bare => do
      match ← peek with
      | .scalar text plain => skip; return .scalar tag plain text
      | .flowSequence => skip; return .sequence (← flowItems fuel true)
      | .flowMapping => skip; return .mapping (← flowEntries fuel true)
      | token =>
          if loose && token == .dash then return .sequence (← looseItems fuel)
          else if block && token == .blockSequence then skip; return .sequence (← blockItems fuel)
          else if block && token == .blockMapping then skip; return .mapping (← blockEntries fuel)
          else if bare then failure
          else return .scalar tag true ""

def blockItems : Nat → Reading (List Node)
  | 0 => failure
  | fuel + 1 => do
      match ← peek with
      | .dash =>
          skip
          let item ← orEmpty [.dash, .blockEnd] (node fuel true false)
          return item :: (← blockItems fuel)
      | .blockEnd => skip; return []
      | _ => failure

/-- The items of a sequence without indentation, which ends with the first other token. -/
def looseItems : Nat → Reading (List Node)
  | 0 => failure
  | fuel + 1 => do
      match ← peek with
      | .dash =>
          skip
          let item ← orEmpty (.dash :: keyEnds) (node fuel true false)
          return item :: (← looseItems fuel)
      | _ => return []

def blockEntries : Nat → Reading (List (Node × Node))
  | 0 => failure
  | fuel + 1 => do
      match ← peek with
      | .key =>
          skip
          let key ← orEmpty keyEnds (node fuel true true)
          let value ← afterValue keyEnds (node fuel true true)
          return (key, value) :: (← blockEntries fuel)
      | .blockEnd => skip; return []
      | _ => failure

/-- The items of a flow sequence. One with the sign of a key is a mapping of one entry. -/
def flowItems : Nat → Bool → Reading (List Node)
  | 0, _ => failure
  | fuel + 1, first => do
      if !first && (← peek) != .flowSequenceEnd then
        if (← peek) == .comma then skip else failure
      match ← peek with
      | .flowSequenceEnd => skip; return []
      | .key =>
          skip
          let entry ← flowPair fuel
          return .mapping [entry] :: (← flowItems fuel false)
      | _ =>
          let item ← node fuel false false
          return item :: (← flowItems fuel false)

/-- The entry of a flow sequence. An empty key takes the token after it along. -/
def flowPair : Nat → Reading (Node × Node)
  | 0 => failure
  | fuel + 1 => do
      let ends : List Token := [.comma, .flowSequenceEnd]
      let key ← if (Token.value :: ends).contains (← peek) then (do skip; return .empty)
        else node fuel false false
      let value ← afterValue ends (node fuel false false)
      return (key, value)

/-- The entries of a flow mapping. Without the sign of a key there is no value. -/
def flowEntries : Nat → Bool → Reading (List (Node × Node))
  | 0, _ => failure
  | fuel + 1, first => do
      if !first && (← peek) != .flowMappingEnd then
        if (← peek) == .comma then skip else failure
      let ends : List Token := [.comma, .flowMappingEnd]
      match ← peek with
      | .flowMappingEnd => skip; return []
      | .key =>
          skip
          let key ← orEmpty (.value :: ends) (node fuel false false)
          let value ← afterValue ends (node fuel false false)
          return (key, value) :: (← flowEntries fuel false)
      | _ =>
          let key ← node fuel false false
          return (key, .empty) :: (← flowEntries fuel false)

end

/-- Reads the lines before a document: one version at most, which is 1.1, and no handle twice. -/
def directives : Nat → Bool → Reading Unit
  | 0, _ => failure
  | fuel + 1, versioned => do
      match ← peek with
      | .directive (.version major minor) =>
          if versioned || major != 1 || minor != 1 then failure
          skip
          directives fuel true
      | .directive (.handle name meaning) =>
          if ((← get).handles.lookup name).isSome then failure
          modify fun r => { r with handles := r.handles ++ [(name, meaning)] }
          skip
          directives fuel versioned
      | _ => modify fun r => { r with handles := r.handles ++ Reader.defaultHandles }

/-- Whether a token can stand in place of the content of a document. -/
def isOutside : Token → Bool
  | .directive _ | .documentStart | .documentEnd | .streamEnd => true
  | _ => false

/-- Reads the first document, if there is one. The token after it has to be known. -/
def document (fuel : Nat) : Reading (Option Node) := do
  let first ← peek
  if first == .streamEnd then return none
  directives fuel false
  let marked := isOutside first && first != .documentEnd
  if marked then
    if (← peek) == .documentStart then skip else failure
  let root ← if marked && isOutside (← peek) then pure .empty else node fuel true false
  let _ ← peek
  return some root

end Reading

def root? (tokens : Tokens) : Option (Option Node) :=
  ((Reading.document (3 * tokens.items.length + 8)).run { tokens }).map Prod.fst

end SqlMapper.Yaml
