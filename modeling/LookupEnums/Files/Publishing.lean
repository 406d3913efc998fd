import LookupEnums.Files.Tree

/-! # Publishing a file

A text is written to a temporary file beside its destination and then moved there, so that the
destination holds the old text or the new one and never a part. Each step may meet outside
trouble when a part of it is done; a step that fails removes the temporary file. -/

namespace LookupEnums

inductive PublishStep
  | makeDirectories
  | create
  | write
  | close
  | replace
  deriving DecidableEq, Repr

/-- Outside trouble with a step: how far the step gets, and how it fails then. -/
structure Hitch where
  reach : Nat
  error : FileError
  deriving DecidableEq, Repr

abbrev Trouble := PublishStep → Option Hitch

def Trouble.none : Trouble := fun _ => Option.none

namespace Publishing

/-- A step as a whole, or a part of it and then a failure. -/
def amid (hitch : Option Hitch) (part : Nat → Disk Unit) (whole : Disk α) : Disk α :=
  match hitch with
  | none => whole
  | some h => do
    part h.reach
    throw h.error

def makeSome (p : Path) (count : Nat) : Disk Unit :=
  Disk.makeDirectories { p with parts := p.parts.take count }

def candidate (name : String) (n : Nat) : String :=
  "." ++ name ++ "." ++ toString n ++ ".tmp"

/-- A name in a directory that nothing has, made from the name of the destination. -/
def temporaryName (t : Tree) (directory : Location) (name : String) : String :=
  let free (n : Nat) : Bool := (t.node? (directory ++ [candidate name n])).isNone
  candidate name (((List.range (t.nodes.length + 1)).find? free).getD (t.nodes.length + 1))

def create (output : Path) : Disk Location := fun t =>
  match t.locate output.parent with
  | .error e => .error e t
  | .ok directory =>
    let l := directory ++ [temporaryName t directory output.name]
    .ok l (t.put l (.file (.bytes .empty)))

def fillWith (temporary : Location) (content : ByteArray) : Disk Unit :=
  modify fun t => t.put temporary (.file (.bytes content))

def fillSome (temporary : Location) (source : String) (count : Nat) : Disk Unit :=
  fillWith temporary (source.toUTF8.extract 0 count)

/-- Moves the temporary file over the destination. A directory cannot be replaced, least of all one
that the path goes through. -/
def replace (temporary : Location) (output : Path) : Disk Unit := fun t =>
  if output.name = "" || output.name = ".." then .error .busy t
  else match t.locate output with
    | .error e => .error e t
    | .ok l =>
      match t.node? l, t.node? temporary with
      | some .directory, _ => .error .isDirectory t
      | _, some n => .ok () ((t.remove temporary).put l n)
      | _, none => .error .notFound t

def removingOnFailure (temporary : Location) (steps : Disk Unit) : Disk Unit := fun t =>
  match steps t with
  | .ok () t => .ok () t
  | .error e t => .error e (t.remove temporary)

/-- Fills the temporary file and moves it. What was written may get lost until the file is closed. -/
def fillAndReplace (trouble : Trouble) (temporary : Location) (output : Path) (source : String) :
    Disk Unit := do
  amid (trouble .write) (fillSome temporary source) (fillWith temporary source.toUTF8)
  amid (trouble .close) (fillSome temporary source) (pure ())
  amid (trouble .replace) (fun _ => pure ()) (replace temporary output)

def publish (trouble : Trouble) (output : Path) (source : String) : Disk Unit := do
  amid (trouble .makeDirectories) (makeSome output.parent) (Disk.makeDirectories output.parent)
  let temporary ← amid (trouble .create) (fun _ => pure ()) (create output)
  removingOnFailure temporary (fillAndReplace trouble temporary output source)

end Publishing

end LookupEnums
