import Postprocessor.Yaml.Layout
import Postprocessor.Yaml.Tag

/-!
# Nodes of a Yaml text

A node may be used again by an alias, even inside itself, so the nodes of a text make up a graph.
In it they go by their places, and a node comes before the nodes that it is made of.

* `Node`: a scalar, a sequence or a mapping, with its tag.
* `Graph`: the nodes of a text.
* `Graph.ofTokens?`: the graph that the tokens of a text describe, and where its root is.
-/

namespace Postprocessor.Yaml

/-! ### Nodes -/

/-- What a node is made of; other nodes go by their places. -/
inductive Content where
  | scalar (text : List CodePoint)
  | sequence (items : List Nat)
  | mapping (entries : List (Nat × Nat))
  deriving Repr, Inhabited

/-- A node. -/
structure Node where
  tag : Tag
  content : Content
  deriving Repr, Inhabited

/-- The nodes of a text. -/
abbrev Graph := Array Node

namespace Graph

/-- The tokens that are left, and what the document holds so far. -/
structure Source where
  tokens : List Token
  /-- What is wrong with the text after the tokens. -/
  fault : Option Fault
  /-- What the handles of tags stand for. -/
  handles : List (String × String)
  /-- The places of the anchored nodes. -/
  anchors : List (String × Nat)
  nodes : Graph
  /-- How many collections are around the next token. -/
  depth : Nat

/-- A step of the reading. -/
abbrev Reading (α : Type) : Type := StateT Source (Except Fault) α

/-- The handles that every document knows. -/
def knownHandles : List (String × String) := [("!", "!"), ("!!", Tag.standard)]

/-- The next token, `none` at the end. -/
def next? : Reading (Option Token) := do
  let s ← get
  match s.tokens, s.fault with
  | [], some f => throw f
  | ts, _ => return ts.head?

/-- Passes over the next token. -/
def drop : Reading Unit := modify fun s => { s with tokens := s.tokens.tail }

/-- Whether the next token is one of several; `atEnd` says that the end will do too. -/
def nextIn (ts : List Token) (atEnd : Bool) : Reading Bool := do
  match ← next? with
  | some t => return ts.contains t
  | none => return atEnd

/-- Passes over the next token if it is `t`. -/
def accept (t : Token) : Reading Bool := do
  let found := (← next?) == some t
  if found then drop
  return found

/-- Passes over the next token, which has to be `t`. -/
def expect (t : Token) : Reading Unit := do
  if !(← accept t) then throw .malformed

/-! ### Anchors and tags -/

/-- The anchor and the name of the tag of a node, in any order. -/
structure Properties where
  anchor : Option String
  tag : Option TagName

/-- Reads an anchor, if one is next. -/
def anchor? : Reading (Option String) := do
  match ← next? with
  | some (.anchor name) => drop; return some name
  | _ => return none

/-- Reads a tag, if one is next. -/
def tag? : Reading (Option TagName) := do
  match ← next? with
  | some (.tag name) => drop; return some name
  | _ => return none

/-- Reads the anchor and the tag of a node. -/
def properties : Reading Properties := do
  let first ← anchor?
  let tag ← tag?
  let second ← if first.isNone then anchor? else pure none
  return ⟨first <|> second, tag⟩

/-- The full name of a tag. -/
def fullName (name : TagName) : Reading String := do
  match name.handle with
  | none => return name.suffix
  | some handle =>
    match (← get).handles.lookup handle with
    | some stands => return stands ++ name.suffix
    | none => throw .malformed

/-- The tag of a node: the one that it is given, or else `implied`.  One exclamation mark alone
gives none. -/
def tagOr (name : Option String) (implied : Tag) : Tag :=
  match name with
  | none => implied
  | some name => if name == "!" then implied else Tag.ofName name

/-- The place of the node that an alias stands for. -/
def aliased (name : String) : Reading Nat := do
  match (← get).anchors.lookup name with
  | some place => return place
  | none => throw .malformed

/-- Adds a node, and takes note of its anchor, which must be new. -/
def add (anchor : Option String) (n : Node) : Reading Nat := do
  let s ← get
  let place := s.nodes.size
  let named := anchor.toList.map fun name => (name, place)
  if named.any fun e => (s.anchors.lookup e.1).isSome then throw .malformed
  set { s with anchors := named ++ s.anchors, nodes := s.nodes.push n }
  return place

/-- Adds a node that is left out. -/
def missing : Reading Nat := add none ⟨.null, .scalar []⟩

/-- The deepest nesting of collections. -/
abbrev depthLimit : Nat := 490

/-- Adds a collection, which has its place before its parts are read. -/
def collect (anchor : Option String) (tag : Tag) (content : Reading Content) : Reading Nat := do
  let depth := (← get).depth
  if depthLimit ≤ depth then throw .tooDeep
  let place ← add anchor ⟨tag, .sequence []⟩
  modify fun s => { s with depth := depth + 1 }
  let node : Node := ⟨tag, ← content⟩
  modify fun s => { s with nodes := s.nodes.setIfInBounds place node, depth := depth }
  return place

/-! ### Collections -/

/-- Where a node stands. -/
structure Place where
  /-- Outside of brackets. -/
  block : Bool
  /-- In a mapping, where a sequence need not be indented. -/
  loose : Bool

mutual

/-- Reads a node. -/
def node (place : Place) : Nat → Reading Nat
  | 0 => throw .malformed
  | fuel + 1 => do
    match ← next? with
    | some (.alias name) =>
      drop
      aliased name
    | _ =>
      let p ← properties
      let name ← p.tag.mapM fullName
      let list := collect p.anchor (tagOr name .sequence)
      let table := collect p.anchor (tagOr name .mapping)
      match ← next? with
      | some (.scalar text isPlain) => do
        drop
        let isPlain := (isPlain && name.isNone) || name == some "!"
        let implied := if isPlain then Tag.ofPlain text else .text
        add p.anchor ⟨tagOr name implied, .scalar text⟩
      | some .flowSequenceStart => do
        drop
        list (.sequence <$> flowItems true fuel)
      | some .flowMappingStart => do
        drop
        table (.mapping <$> flowEntries true fuel)
      | t => do
        if place.loose && t == some .blockEntry then
          list (.sequence <$> looseItems fuel)
        else if place.block && t == some .blockSequenceStart then
          drop
          list (.sequence <$> blockItems fuel)
        else if place.block && t == some .blockMappingStart then
          drop
          table (.mapping <$> blockEntries fuel)
        else if p.anchor.isSome || p.tag.isSome then
          let implied := if name.isNone || name == some "!" then .null else .text
          add p.anchor ⟨tagOr name implied, .scalar []⟩
        else throw .malformed

/-- Reads a node, unless one of several tokens says that it is left out. -/
def nodeUnless (ends : List Token) (place : Place) : Nat → Reading Nat
  | 0 => throw .malformed
  | fuel + 1 => do
    if ← nextIn ends false then return ← missing
    node place fuel

/-- Reads the items of an indented sequence. -/
def blockItems : Nat → Reading (List Nat)
  | 0 => throw .malformed
  | fuel + 1 => do
    if ← accept .blockEntry then
      let item ← nodeUnless [.blockEntry, .blockEnd] ⟨true, false⟩ fuel
      return item :: (← blockItems fuel)
    else
      expect .blockEnd
      return []

/-- Reads the items of a sequence that is indented like the mapping around it. -/
def looseItems : Nat → Reading (List Nat)
  | 0 => throw .malformed
  | fuel + 1 => do
    if ← accept .blockEntry then
      let item ← nodeUnless [.blockEntry, .key, .value, .blockEnd] ⟨true, false⟩ fuel
      return item :: (← looseItems fuel)
    else return []

/-- Reads the entries of an indented mapping. -/
def blockEntries : Nat → Reading (List (Nat × Nat))
  | 0 => throw .malformed
  | fuel + 1 => do
    let ends : List Token := [.key, .value, .blockEnd]
    if ← accept .key then
      let k ← nodeUnless ends ⟨true, true⟩ fuel
      let v ← if ← accept .value then nodeUnless ends ⟨true, true⟩ fuel else missing
      return (k, v) :: (← blockEntries fuel)
    else
      expect .blockEnd
      return []

/-- Reads the key and the value of an entry between brackets of which `closing` is the end. -/
def flowEntry (closing : Token) : Nat → Reading (Nat × Nat)
  | 0 => throw .malformed
  | fuel + 1 => do
    let k ← nodeUnless [.value, .flowEntry, closing] ⟨false, false⟩ fuel
    let v ← if ← accept .value then nodeUnless [.flowEntry, closing] ⟨false, false⟩ fuel
      else missing
    return (k, v)

/-- Reads the items of a sequence between brackets. -/
def flowItems (first : Bool) : Nat → Reading (List Nat)
  | 0 => throw .malformed
  | fuel + 1 => do
    if ← accept .flowSequenceEnd then return []
    if !first then expect .flowEntry
    if ← accept .key then
      let item ← collect none .mapping (return .mapping [← flowEntry .flowSequenceEnd fuel])
      return item :: (← flowItems false fuel)
    else if ← accept .flowSequenceEnd then return []
    else
      let item ← node ⟨false, false⟩ fuel
      return item :: (← flowItems false fuel)

/-- Reads the entries of a mapping between brackets. -/
def flowEntries (first : Bool) : Nat → Reading (List (Nat × Nat))
  | 0 => throw .malformed
  | fuel + 1 => do
    if ← accept .flowMappingEnd then return []
    if !first then expect .flowEntry
    if ← accept .key then
      let entry ← flowEntry .flowMappingEnd fuel
      return entry :: (← flowEntries false fuel)
    else if ← accept .flowMappingEnd then return []
    else
      let k ← node ⟨false, false⟩ fuel
      let v ← missing
      return (k, v) :: (← flowEntries false fuel)

end

/-! ### Documents -/

/-- Reads the directives of a document; `versioned` says that its version was given. -/
def directives (versioned : Bool) : Nat → Reading Unit
  | 0 => throw .malformed
  | fuel + 1 => do
    match ← next? with
    | some (.directive d) =>
      drop
      match d with
      | .version major =>
        if versioned || major != 1 then throw .malformed
        directives true fuel
      | .handle name stands =>
        let s ← get
        if (s.handles.lookup name).isSome then throw .malformed
        set { s with handles := (name, stands) :: s.handles }
        directives versioned fuel
      | .other => directives versioned fuel
    | _ => modify fun s => { s with handles := s.handles ++ knownHandles }

/-- Whether a document starts with directives or with its mark. -/
def isExplicit : Reading Bool := do
  match ← next? with
  | some (.directive _) | some .documentStart => return true
  | _ => return false

/-- Whether the content of a document is left out. -/
def isHollow : Reading Bool := do
  match ← next? with
  | some (.directive _) | some .documentStart | some .documentEnd | none => return true
  | _ => return false

/-- Passes over marks of the end of a document. -/
def dropEnds : Reading Unit :=
  modify fun s => { s with tokens := s.tokens.dropWhile (· == .documentEnd) }

/-- Reads the only document of a text, if there is one.  A second one is a fault as soon as it
starts. -/
def document (fuel : Nat) : Reading (Option Nat) := do
  if (← next?).isNone then return none
  let content ←
    if ← isExplicit then do
      directives false fuel
      expect .documentStart
      if ← isHollow then missing else node ⟨true, false⟩ fuel
    else do
      modify fun s => { s with handles := knownHandles }
      node ⟨true, false⟩ fuel
  dropEnds
  if (← next?).isSome then
    directives false fuel
    expect .documentStart
    throw .malformed
  return some content

/-- The graph that the tokens of a text describe, and the place of its root. -/
def ofTokens? (stream : TokenStream) : Except Fault (Option (Graph × Nat)) := do
  let fuel := 4 * stream.tokens.length + 4
  let (root, s) ← document fuel ⟨stream.tokens, stream.fault, [], [], #[], 0⟩
  return root.map fun place => (s.nodes, place)

end Graph

end Postprocessor.Yaml
