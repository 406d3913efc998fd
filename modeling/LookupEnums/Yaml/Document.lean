import LookupEnums.Yaml.Node
import LookupEnums.Yaml.Plain

/-! # Documents

What the nodes of a document are to become, by their tags or by their look. A mapping takes in the
entries of the mappings that it merges, which stay as they are then, for all places that name them. -/

namespace LookupEnums.Yaml

namespace Node

def tagHead : String := "tag:yaml.org,2002:"

def standardName? (tag : String) : Option String :=
  let head := tagHead.toList
  if head.isPrefixOf tag.toList then some (String.ofList (tag.toList.drop head.length)) else none

def kindName : Kind → String
  | .null => "null"
  | .bool => "bool"
  | .int => "int"
  | .float => "float"
  | .timestamp => "timestamp"
  | .merge => "merge"
  | .value => "value"
  | .text => "str"

/-- What a node is to become; none for a tag that nothing is known about. -/
def role? : Node → Option String
  | scalar (some tag) _ _ | sequence (some tag) _ | mapping (some tag) _ => standardName? tag
  | scalar none content isPlain => some (if isPlain then kindName (Plain.kind content) else "str")
  | sequence none _ => some "seq"
  | mapping none _ => some "map"

def withTag (tag : String) : Node → Node
  | scalar _ content isPlain => scalar (some tag) content isPlain
  | sequence _ items => sequence (some tag) items
  | mapping _ entries => mapping (some tag) entries

def isMapping : Node → Bool
  | mapping _ _ => true
  | _ => false

def entries : Node → List (Link × Link)
  | mapping _ entries => entries
  | _ => []

def withEntries (entries : List (Link × Link)) : Node → Node
  | mapping tag _ => mapping tag entries
  | n => n

end Node

namespace Document

def node (d : Document) (l : Link) : Node :=
  d.nodes.getD l Node.nothing

def put (d : Document) (l : Link) (n : Node) : Document :=
  { d with nodes := d.nodes.setIfInBounds l n }

def role? (d : Document) (l : Link) : Option String :=
  (d.node l).role?

def size (d : Document) : Nat :=
  d.nodes.foldl (fun n node => n + node.entries.length + 1) 0

abbrev Merging := StateT Document Read

/-- In a mapping that is looked through for others to merge, `=` as a key stands for itself. -/
def plainKeys (l : Link) : Merging Unit :=
  modify fun d => (d.node l).entries.foldl (fun d (k, _) =>
    if d.role? k = some "value" then d.put k ((d.node k).withTag (Node.tagHead ++ "str")) else d) d

def takeMerge (l : Link) : Merging (Option Link) := do
  let d ← get
  let (before, rest) := (d.node l).entries.span fun e => d.role? e.1 ≠ some "merge"
  match rest with
  | [] => return none
  | (_, v) :: after =>
    set (d.put l ((d.node l).withEntries (before ++ after)))
    return some v

mutual

/-- Merges into a mapping what it asks for. `fuel` bounds the depth of mappings that merge others. -/
def flatten : (fuel : Nat) → Link → Merging Unit
  | 0, _ => throw .malformed
  | fuel + 1, l => do
    plainKeys l
    let merged ← merges fuel l
    if !merged.isEmpty then
      modify fun d => d.put l ((d.node l).withEntries (merged ++ (d.node l).entries))

def merges : (fuel : Nat) → Link → Merging (List (Link × Link))
  | 0, _ => throw .malformed
  | fuel + 1, l => do
    match ← takeMerge l with
    | none => return []
    | some v =>
      let merged ← entriesOf fuel v
      return merged ++ (← merges fuel l)

/-- What merging a node adds: its entries, or those of all its items with the last first. -/
def entriesOf : (fuel : Nat) → Link → Merging (List (Link × Link))
  | 0, _ => throw .malformed
  | fuel + 1, v => do
    match (← get).node v with
    | .mapping _ _ => ownEntries fuel v
    | .sequence _ items => return (← items.mapM (ownEntries fuel)).reverse.flatten
    | .scalar _ _ _ => throw .malformed

def ownEntries : (fuel : Nat) → Link → Merging (List (Link × Link))
  | 0, _ => throw .malformed
  | fuel + 1, l => do
    if !((← get).node l).isMapping then throw .malformed
    flatten fuel l
    return ((← get).node l).entries

end

/-- Each step of merging takes an entry away that was there from the start, or follows such a step. -/
def mergeFuel (d : Document) : Nat :=
  4 * d.size + 8

end Document

end LookupEnums.Yaml
