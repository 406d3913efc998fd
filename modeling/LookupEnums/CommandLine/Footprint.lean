import LookupEnums.CommandLine.Run

/-! # Footprints

What a command line may look at: the locations of files and the names of variables. A footprint
depends on what is known of the world already, as one file names another: settings name the mapping,
and the mapping names its variables and its database. -/

namespace LookupEnums

namespace Footprint

/-- The locations a path leads through, and where it leads. -/
def through (working : Location) (p : Path) : List Location :=
  let start : Location := if p.isAbsolute then [] else working
  (p.parts.foldl (fun (here, found) part =>
    let next := if part = ".." then here.dropLast else here ++ [part]
    (next, found ++ [next])) (start, ([] : List Location))).2

def upTo (l : Location) : List Location :=
  (List.range l.length).map fun n => l.take (n + 1)

def withLogs (locations : List Location) : List Location :=
  match locations.getLast? with
  | some l => locations ++ [Store.beside l Store.undoEnding, Store.beside l Store.changesEnding]
  | none => []

def databaseLocations (t : Tree) : AdapterConfig → List Location
  | .file path _ => withLogs (through t.working path)
  | .address url _ _ => match (Address.parse url).bind (·.target?) with
    | .ok (some (.file path _)) => withLogs (upTo (Store.plainLocation t.working path))
    | _ => []

def mappingOf : Command → Option Path
  | .generate mapping _ _ | .inspect mapping _ _ | .check mapping _ _ _ => mapping
  | .listAdapters _ => none

def outputOf : Command → Option Path
  | .generate _ output _ => output
  | _ => none

def databaseOf : Command → Option String
  | .generate _ _ database | .inspect _ database _ | .check _ _ database _ => database
  | .listAdapters _ => none

def command? (arguments : List String) : Option Command :=
  match CommandLine.request arguments with
  | .ok (.command _ (.ok c)) => some c
  | _ => none

/-- The paths of a command, as far as its settings can be read. -/
def paths (c : Command) (w : World) : List Path :=
  match Settings.load w.tree w.env with
  | .ok s => Command.mappingPath s (mappingOf c) :: (outputOf c).toList ++ s.outputFile.toList
  | .error _ => []

/-- The locations of the database, as far as the mapping can be read. -/
def ofDatabase (c : Command) (w : World) : List Location :=
  match Settings.load w.tree w.env with
  | .ok s => match Generation.prepare s (Command.mappingPath s (mappingOf c)) (databaseOf c) w with
    | .ok (_, config) _ => databaseLocations w.tree config
    | .error _ _ => []
  | .error _ => []

def locations (arguments : List String) (w : World) : List Location :=
  let always := upTo w.tree.working ++ through w.tree.working Settings.variablesFile
  match command? arguments with
  | some c => always ++ (paths c w).flatMap (through w.tree.working) ++ ofDatabase c w
  | none => always

/-- The names of settings in capitals and in small letters. -/
def settingNames : List String :=
  ["mapping_file", "output_file", "database_url", "default_format", "indent", "log_level"].flatMap
    fun field => [(Settings.variableHead ++ field).toUpper, Settings.variableHead ++ field]

def namesIn (text : String) : List String :=
  (Substitution.segments text.toList).filterMap fun
    | .variable v => some (String.ofList v.name)
    | .plain _ => none

def names (arguments : List String) (w : World) : List String :=
  let files := Settings.variablesFile :: ((command? arguments).map (paths · w)).getD []
  settingNames ++ (files.filterMap w.tree.text?).flatMap namesIn

def steps : Nat := 5

end Footprint

end LookupEnums
