import LookupEnums.Value.Key
import LookupEnums.Yaml.Document
import LookupEnums.Yaml.Lexer
import LookupEnums.Yaml.ScalarValue

/-! # Loading a document

A node becomes a value by its role. Collections are filled level by level, so that of several faults
the outermost counts. Keys are compared as keys are, and of equal keys the last value counts. -/

namespace LookupEnums.Yaml

inductive Made
  | value (v : Value)
  | list (items : List Link)
  | dict (entries : List (Value × Link))
  | set (keys : List Value)
  | pairs (items : List (Link × Link))

structure Build where
  document : Document
  /-- A bound for merging. -/
  mergeFuel : Nat
  made : Array (Option Made)
  /-- The collections that are not filled yet. -/
  waiting : List Link := []

abbrev Builder := StateT Build Read

namespace Document

/-- The text of a scalar; a mapping may have one under `=`. -/
def content (d : Document) : (fuel : Nat) → Link → Read (List Char)
  | 0, _ => .error (.endless [])
  | fuel + 1, l =>
    match d.node l with
    | .scalar _ content _ => .ok content.toList
    | .mapping _ entries =>
      match entries.find? fun e => d.role? e.1 = some "value" with
      | some (_, v) => content d fuel v
      | none => .error .malformed
    | .sequence _ _ => .error .malformed

def scalarRoles : List String :=
  ["null", "bool", "int", "float", "timestamp", "binary", "str"]

def collectionRoles : List String :=
  ["seq", "map", "omap", "pairs", "set"]

def scalarValue (d : Document) (role : String) (l : Link) : Read Value := do
  let s ← d.content (d.nodes.size + 1) l
  match role with
  | "null" => return .null
  | "bool" => ScalarValue.bool s
  | "int" => ScalarValue.int s
  | "float" => ScalarValue.float l s
  | "timestamp" => if (d.node l).isMapping then throw .notText else ScalarValue.timestamp s
  | "binary" => ScalarValue.binary s
  | _ => return .text (String.ofList s)

end Document

namespace Build

def ofDocument (d : Document) : Build :=
  { document := d, mergeFuel := d.mergeFuel, made := Array.replicate d.nodes.size none }

def at? (b : Build) (l : Link) : Option Made :=
  (b.made[l]?).join

def put (l : Link) (m : Made) : Builder Unit :=
  modify fun b => { b with made := b.made.setIfInBounds l (some m) }

/-- Makes a scalar at once, and begins a collection. What is made stays. -/
def make (l : Link) : Builder Unit := do
  let b ← get
  if (b.at? l).isSome then return
  match b.document.role? l with
  | none => throw .malformed
  | some role =>
    if Document.scalarRoles.contains role then put l (.value (← b.document.scalarValue role l))
    else if Document.collectionRoles.contains role then
      put l (.list [])
      modify fun b => { b with waiting := b.waiting ++ [l] }
    else throw .malformed

def makeKey (l : Link) : Builder Value := do
  make l
  match (← get).at? l with
  | some (.value v) => return v
  | _ => throw .malformed

/-- Sets an entry: an equal key keeps its place and its form. -/
def setEntry (key : Value) (v : Link) : List (Value × Link) → List (Value × Link)
  | [] => [(key, v)]
  | (k, old) :: rest => if k.sameKey key then (k, v) :: rest else (k, old) :: setEntry key v rest

def entries (l : Link) : Builder (List (Value × Link)) := do
  let b ← get
  let (_, document) ← (Document.flatten b.mergeFuel l).run b.document
  set { b with document }
  (document.node l).entries.foldlM (fun all (k, v) => do
    let key ← makeKey k
    make v
    return setEntry key v all) []

def pair (l : Link) : Builder (Link × Link) := do
  match (← get).document.node l with
  | .mapping _ [(k, v)] =>
    make k
    make v
    return (k, v)
  | _ => throw .malformed

def fill (l : Link) : Builder Unit := do
  let d := (← get).document
  match d.role? l, d.node l with
  | some "seq", .sequence _ items =>
    items.forM make
    put l (.list items)
  | some "map", .mapping _ _ => put l (.dict (← entries l))
  | some "set", .mapping _ _ => put l (.set ((← entries l).map (·.1)))
  | some "omap", .sequence _ items | some "pairs", .sequence _ items =>
    put l (.pairs (← items.mapM pair))
  | _, _ => throw .malformed

/-- Fills the collections of one level after the other. -/
def fillAll : (fuel : Nat) → Builder Unit
  | 0 => pure ()
  | fuel + 1 => do
    match (← get).waiting with
    | [] => pure ()
    | level =>
      modify fun b => { b with waiting := [] }
      level.forM fill
      fillAll fuel

/-- Reading out keeps the texts that it has come by, the last first, also if it does not end. -/
abbrev Reading := EStateM Unit (List String)

/-- The value at a place. What is deeper than there are nodes contains itself. -/
def value (b : Build) : (fuel : Nat) → Link → Reading Value
  | 0, _ => throw ()
  | fuel + 1, l => do
    match b.at? l with
    | some (.value (.text s)) =>
      modify (s :: ·)
      return .text s
    | some (.value v) => return v
    | some (.list items) => return .list (← items.mapM (value b fuel))
    | some (.dict entries) =>
      return .dict (← entries.mapM fun (k, v) => do return (k, ← value b fuel v))
    | some (.set keys) => return .list keys
    | some (.pairs items) =>
      return .list (← items.mapM fun (k, v) => do return .list [← value b fuel k, ← value b fuel v])
    | none => return .null

end Build

/-- The value of the only document of a text; null where there is none. An endless mapping is refused;
an endless sequence, which nothing can be done with either, is given as an empty one. -/
def load (s : List Char) : Read Value := do
  match ← Document.ofTokens (← tokens s) with
  | none => return .null
  | some d =>
    let fuel := d.nodes.size + 1
    let ((), b) ← (do Build.make d.root; Build.fillAll fuel : Builder Unit).run (.ofDocument d)
    match (b.value fuel d.root).run [] with
    | .ok v _ => return v
    | .error () before =>
      match b.at? d.root with
      | some (.dict _) => throw (.endless before.reverse)
      | _ => return .list []

end LookupEnums.Yaml
