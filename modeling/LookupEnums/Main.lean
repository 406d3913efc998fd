import LookupEnums.CommandLine.Footprint

/-! # The command

Looks at what a command line may need, runs it, and makes the changes to files that it asks for. -/

namespace LookupEnums.Surroundings

def locationText (l : Location) : String :=
  "/" ++ "/".intercalate l

def look (l : Location) : IO (Option FileNode) := do
  try
    return some (.file (.bytes (← IO.FS.readBinFile (locationText l))))
  catch
    | .inappropriateType .. => return some .directory
    | _ => return none

def lookAll (w : World) (locations : List Location) : IO World :=
  locations.foldlM (fun w l => do
    match w.tree.node? l, w.tree.node? l.dropLast with
    | none, some .directory =>
      match ← look l with
      | some n => return { w with tree := w.tree.put l n }
      | none => return w
    | _, _ => return w) w

def readVariables (w : World) (names : List String) : IO World :=
  names.eraseDups.foldlM (fun w name => do
    if (w.env.lookup name).isSome then return w
    else match ← IO.getEnv name with
      | some value => return { w with env := w.env ++ [(name, value)] }
      | none => return w) w

def worldFor (arguments : List String) : IO World := do
  let here := Path.ofText (toString (← IO.currentDir))
  let w : World := { tree := { working := here.parts } }
  (List.range Footprint.steps).foldlM (fun w _ => do
    let w ← readVariables w (Footprint.names arguments w)
    lookAll w (Footprint.locations arguments w)) w

/-- Puts a text beside its destination first, and then in its place. -/
def place (l : Location) (content : ByteArray) : IO Unit := do
  let beside := locationText (l.dropLast ++ ["." ++ l.getLast?.getD "" ++ ".tmp"])
  IO.FS.writeBinFile beside content
  IO.FS.rename beside (locationText l)

def isChanged (before : Tree) (l : Location) (content : ByteArray) : Bool :=
  match before.node? l with
  | some (.file (.bytes old)) => old != content
  | _ => true

def makeChanges (before after : Tree) : IO Unit := do
  for (l, n) in after.nodes do
    match n with
    | .directory => if (before.node? l).isNone then IO.FS.createDirAll (locationText l)
    | .file (.bytes _) | .file (.database _) => pure ()
  for (l, n) in after.nodes do
    match n with
    | .file (.bytes content) => if isChanged before l content then place l content
    | _ => pure ()

def defaultWidth : Nat := 80

def terminalWidth : IO Nat := do
  return ((← IO.getEnv "COLUMNS").bind String.toNat?).getD defaultWidth

def usage : String := "Usage: dbenum [OPTIONS] COMMAND [ARGS]..."

end LookupEnums.Surroundings

open LookupEnums Surroundings

def main (arguments : List String) : IO UInt32 := do
  let before ← worldFor arguments
  let (outcome, after) := CommandLine.run (← terminalWidth) arguments before
  makeChanges before.tree after.tree
  IO.print outcome.output
  IO.eprint outcome.messages
  if outcome.usage then IO.eprintln usage
  return outcome.code.toUInt32
