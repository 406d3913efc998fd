import LookupEnums.Database.Basic
import LookupEnums.Files.Path

/-! # File trees

Directories and files by their location, a list of names from the root. Paths are followed part by
part from the working directory or the root: every part before the last has to be a directory, and
`..` goes back to the directory above. Operations keep the tree they reached when they fail. -/

namespace LookupEnums

abbrev Location := List String

inductive Content
  | bytes (b : ByteArray)
  | database (db : Database)

inductive FileNode
  | directory
  | file (content : Content)

structure Tree where
  /-- The working directory. -/
  working : Location := []
  nodes : List (Location × FileNode) := []

inductive FileError
  | notFound
  | notDirectory
  | isDirectory
  | alreadyThere
  | busy
  deriving DecidableEq, Repr

abbrev Disk := EStateM FileError Tree

namespace Tree

def node? (t : Tree) (l : Location) : Option FileNode :=
  if l = [] then some .directory else t.nodes.lookup l

def put (t : Tree) (l : Location) (n : FileNode) : Tree :=
  { t with nodes := (l, n) :: t.nodes.filter (·.1 ≠ l) }

def remove (t : Tree) (l : Location) : Tree :=
  { t with nodes := t.nodes.filter (·.1 ≠ l) }

/-- Follows parts from a location. -/
def walk (t : Tree) : Location → List String → Except FileError Location
  | here, [] => .ok here
  | here, part :: rest =>
    match t.node? here with
    | none => .error .notFound
    | some (.file _) => .error .notDirectory
    | some .directory => t.walk (if part = ".." then here.dropLast else here ++ [part]) rest

def locate (t : Tree) (p : Path) : Except FileError Location :=
  t.walk (if p.isAbsolute then [] else t.working) p.parts

def find? (t : Tree) (p : Path) : Option FileNode :=
  match t.locate p with
  | .ok l => t.node? l
  | .error _ => none

def exists? (t : Tree) (p : Path) : Bool :=
  (t.find? p).isSome

def isDirectory (t : Tree) (p : Path) : Bool :=
  match t.find? p with
  | some .directory => true
  | _ => false

def isFile (t : Tree) (p : Path) : Bool :=
  match t.find? p with
  | some (.file _) => true
  | _ => false

/-- The text of a file; a database is none, nor are bytes that are no UTF-8. -/
def text? (t : Tree) (p : Path) : Option String :=
  match t.find? p with
  | some (.file (.bytes b)) => String.fromUTF8? b
  | _ => none

end Tree

namespace Disk

def makeDirectory (p : Path) : Disk Unit := fun t =>
  match t.locate p with
  | .error e => .error e t
  | .ok l => if (t.node? l).isSome then .error .alreadyThere t else .ok () (t.put l .directory)

/-- A failure does not matter where the directory is there anyway. -/
def unlessPresent (p : Path) (step : Disk Unit) : Disk Unit := fun t =>
  match step t with
  | .error .notFound t => .error .notFound t
  | .error e t => if t.isDirectory p then .ok () t else .error e t
  | .ok () t => .ok () t

def makeUpward (root : String) : List String → Disk Unit
  | [] => unlessPresent ⟨root, []⟩ (makeDirectory ⟨root, []⟩)
  | part :: above => fun t =>
    let p : Path := ⟨root, (part :: above).reverse⟩
    match unlessPresent p (makeDirectory p) t with
    | .error .notFound t => (do makeUpward root above; unlessPresent p (makeDirectory p) : Disk Unit) t
    | r => r

def makeDirectories (p : Path) : Disk Unit :=
  makeUpward p.root p.parts.reverse

end Disk

end LookupEnums
