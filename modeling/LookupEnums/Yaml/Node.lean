import LookupEnums.Yaml.Token

/-! # Nodes

The nodes of a document: scalars, sequences and mappings with their tags, each at a place. Collections
name the places of their parts. An alias is the place of the node of its anchor, which may lie around
the alias itself. -/

namespace LookupEnums.Yaml

abbrev Link := Nat

inductive Node
  | scalar (tag : Option String) (content : String) (isPlain : Bool)
  | sequence (tag : Option String) (items : List Link)
  | mapping (tag : Option String) (entries : List (Link × Link))

structure Document where
  nodes : Array Node := #[]
  root : Link := 0

namespace Node

def nothing : Node := .scalar none "" true

structure State where
  tokens : List Token
  nodes : Array Node := #[]
  anchors : List (String × Link) := []
  /-- What the handles of tags stand for. -/
  handles : List (String × String)
  /-- In how many nodes the next one lies. -/
  depth : Nat := 0

abbrev Reader := StateT State Read

def malformed : Reader α :=
  throw .malformed

def peek : Reader Token :=
  return (← get).tokens.headD .streamEnd

def skip : Reader Unit :=
  modify fun s => { s with tokens := s.tokens.drop 1 }

def accept (t : Token) : Reader Bool := do
  if (← peek) = t then
    skip
    return true
  else return false

def expect (t : Token) : Reader Unit := do
  if !(← accept t) then malformed

def resolveTag (t : TagName) : Reader String := do
  match t.handle with
  | none => return t.name
  | some handle =>
    match (← get).handles.lookup handle with
    | some replacement => return replacement ++ t.name
    | none => malformed

structure Properties where
  anchor : Option String := none
  tag : Option String := none

def acceptAnchor : Reader (Option String) := do
  match ← peek with
  | .anchor name =>
    skip
    return some name
  | _ => return none

def acceptTag : Reader (Option String) := do
  match ← peek with
  | .tag t =>
    skip
    return some (← resolveTag t)
  | _ => return none

def properties : Reader Properties := do
  match ← acceptAnchor with
  | some anchor => return ⟨some anchor, ← acceptTag⟩
  | none =>
    let tag ← acceptTag
    let anchor ← if tag.isSome then acceptAnchor else pure none
    return ⟨anchor, tag⟩

/-- A place with nothing in it yet. An anchor names one place, also while its node is read. -/
def reserve (anchor : Option String) : Reader Link := do
  let s ← get
  let place := s.nodes.size
  let anchors ← match anchor with
    | none => pure s.anchors
    | some name =>
      if (s.anchors.lookup name).isSome then malformed else pure ((name, place) :: s.anchors)
  set { s with nodes := s.nodes.push nothing, anchors }
  return place

def greatestDepth : Nat := 488

def inside (read : Reader α) : Reader α := do
  if greatestDepth < (← get).depth then throw (.endless [])
  modify fun s => { s with depth := s.depth + 1 }
  let a ← read
  modify fun s => { s with depth := s.depth - 1 }
  return a

def put (place : Link) (n : Node) : Reader Unit :=
  modify fun s => { s with nodes := s.nodes.setIfInBounds place n }

/-- The bare `!` leaves a collection what it is, and makes a scalar one by its look. -/
def ownTag (tag : Option String) : Option String :=
  if tag = some "!" then none else tag

def referenced (name : String) : Reader Link := do
  match (← get).anchors.lookup name with
  | some place => return place
  | none => malformed

/-- Where a node stands decides what may follow it and whether it may be a block. -/
inductive Position
  | block
  | inBlockMapping
  | flow
  deriving DecidableEq, Repr

def endsBlockItem (t : Token) : Bool :=
  t = .blockEntry || t = .blockEnd

def endsPlainItem (t : Token) : Bool :=
  t = .blockEntry || t = .key || t = .value || t = .blockEnd

def endsBlockKey (t : Token) : Bool :=
  t = .key || t = .value || t = .blockEnd

def endsFlowItem (closing t : Token) : Bool :=
  t = .flowEntry || t = closing

mutual

/-- A node at a position. `fuel` bounds the depth of calls; each token is reached in few. -/
def node : (fuel : Nat) → Position → Reader Link
  | 0, _ => malformed
  | fuel + 1, position => do
    match ← peek with
    | .reference name =>
      skip
      referenced name
    | _ =>
      let p ← properties
      let place ← reserve p.anchor
      put place (← inside (bare fuel position p))
      return place

def bare : (fuel : Nat) → Position → Properties → Reader Node
  | 0, _, _ => malformed
  | fuel + 1, position, p => do
    let tag := ownTag p.tag
    match ← peek with
    | .scalar content isPlain =>
      skip
      return .scalar tag content (isPlain || p.tag = some "!")
    | .flowSequenceStart =>
      skip
      return .sequence tag (← flowItems fuel true)
    | .flowMappingStart =>
      skip
      return .mapping tag (← flowEntries fuel true)
    | t =>
      if t = .blockEntry && position = .inBlockMapping then return .sequence tag (← plainItems fuel)
      else if t = .blockSequenceStart && position ≠ .flow then
        skip
        return .sequence tag (← blockItems fuel)
      else if t = .blockMappingStart && position ≠ .flow then
        skip
        return .mapping tag (← blockEntries fuel)
      else if p.anchor.isSome || p.tag.isSome then return .scalar tag "" true
      else malformed

def nodeUnless : (fuel : Nat) → Position → (Token → Bool) → Reader Link
  | 0, _, _ => malformed
  | fuel + 1, position, ends => do
    if ends (← peek) then reserve none else node fuel position

def blockItems : (fuel : Nat) → Reader (List Link)
  | 0 => malformed
  | fuel + 1 => do
    if ← accept .blockEntry then
      let n ← nodeUnless fuel .block endsBlockItem
      return n :: (← blockItems fuel)
    else
      expect .blockEnd
      return []

def plainItems : (fuel : Nat) → Reader (List Link)
  | 0 => malformed
  | fuel + 1 => do
    if ← accept .blockEntry then
      let n ← nodeUnless fuel .block endsPlainItem
      return n :: (← plainItems fuel)
    else return []

def blockEntries : (fuel : Nat) → Reader (List (Link × Link))
  | 0 => malformed
  | fuel + 1 => do
    if ← accept .key then
      let k ← nodeUnless fuel .inBlockMapping endsBlockKey
      let v ← if ← accept .value then nodeUnless fuel .inBlockMapping endsBlockKey else reserve none
      return (k, v) :: (← blockEntries fuel)
    else
      expect .blockEnd
      return []

def flowItems : (fuel : Nat) → (isFirst : Bool) → Reader (List Link)
  | 0, _ => malformed
  | fuel + 1, isFirst => do
    if ← accept .flowSequenceEnd then return []
    else
      if !isFirst then expect .flowEntry
      if ← accept .flowSequenceEnd then return []
      else
        let n ← flowItem fuel
        return n :: (← flowItems fuel false)

def flowItem : (fuel : Nat) → Reader Link
  | 0 => malformed
  | fuel + 1 => do
    if ← accept .key then
      let place ← reserve none
      put place (.mapping none [← inside (flowPair fuel .flowSequenceEnd)])
      return place
    else node fuel .flow

def flowPair : (fuel : Nat) → (closing : Token) → Reader (Link × Link)
  | 0, _ => malformed
  | fuel + 1, closing => do
    let k ← nodeUnless fuel .flow fun t => t = .value || endsFlowItem closing t
    let v ← if ← accept .value then nodeUnless fuel .flow (endsFlowItem closing) else reserve none
    return (k, v)

def flowEntries : (fuel : Nat) → (isFirst : Bool) → Reader (List (Link × Link))
  | 0, _ => malformed
  | fuel + 1, isFirst => do
    if ← accept .flowMappingEnd then return []
    else
      if !isFirst then expect .flowEntry
      if ← accept .flowMappingEnd then return []
      else if ← accept .key then
        let e ← flowPair fuel .flowMappingEnd
        return e :: (← flowEntries fuel false)
      else
        let k ← node fuel .flow
        let v ← reserve none
        return (k, v) :: (← flowEntries fuel false)

end

def defaultHandles : List (String × String) :=
  [("!", "!"), ("!!", "tag:yaml.org,2002:")]

structure Directives where
  version : Option Nat := none
  handles : List (String × String) := []

/-- One version, which is 1 at its major number, and one meaning for each handle. -/
def addDirective (d : Directives) : Directive → Reader Directives
  | .version major _ => if d.version.isSome || major ≠ 1 then malformed else return { d with version := some major }
  | .tag handle replacement =>
    if (d.handles.lookup handle).isSome then malformed
    else return { d with handles := (handle, replacement) :: d.handles }
  | .other => return d

def directives : (fuel : Nat) → Directives → Reader Directives
  | 0, _ => malformed
  | fuel + 1, d => do
    match ← peek with
    | .directive x =>
      skip
      directives fuel (← addDirective d x)
    | _ => return d

def skipDocumentEnds : (fuel : Nat) → Reader Unit
  | 0 => malformed
  | fuel + 1 => do
    if ← accept .documentEnd then skipDocumentEnds fuel

def endsDocument : Token → Bool
  | .streamEnd | .documentStart | .documentEnd | .directive _ => true
  | _ => false

def announced (fuel : Nat) : Reader Link := do
  let d ← directives fuel {}
  modify fun s => { s with handles := d.handles ++ defaultHandles }
  expect .documentStart
  if endsDocument (← peek) then reserve none else node fuel .block

def finish (fuel : Nat) : Reader Unit := do
  let _ ← accept .documentEnd
  skipDocumentEnds fuel
  expect .streamEnd

def document (fuel : Nat) : Reader (Option Link) := do
  match ← peek with
  | .streamEnd => return none
  | .documentStart | .directive _ =>
    let n ← announced fuel
    finish fuel
    return some n
  | _ =>
    let n ← node fuel .block
    finish fuel
    return some n

end Node

def Document.ofTokens (tokens : List Token) : Read (Option Document) := do
  let reader := Node.document (4 * tokens.length + 8)
  let (root, s) ← reader.run { tokens, handles := Node.defaultHandles }
  return root.map fun root => { nodes := s.nodes, root }

end LookupEnums.Yaml
