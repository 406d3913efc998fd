import LookupEnums.Adapter.Error
import LookupEnums.Files.Path
import LookupEnums.Mapping.Field

/-! # Kinds of adapters and their configuration

A database is reached by its address or as a file. Each kind has a name, a title and the fields its
configuration is checked for. -/

namespace LookupEnums

inductive AdapterKind
  | address
  | file
  deriving DecidableEq, Repr

namespace AdapterKind

def all : List AdapterKind := [address, file]

def name : AdapterKind → String
  | address => "sqlalchemy"
  | file => "sqlite"

def title : AdapterKind → String
  | address => "SQLAlchemy URL"
  | file => "SQLite file"

def fields : AdapterKind → List String
  | address => ["url", "schema_name", "echo"]
  | file => ["path", "echo"]

def ofName (name : String) : Except AdapterError AdapterKind :=
  match all.find? (·.name = name) with
  | some kind => .ok kind
  | none => .error (.unknownKind name)

end AdapterKind

inductive AdapterConfig
  | address (url : String) (schema : Option String) (echo : Bool)
  | file (path : Path) (echo : Bool)
  deriving DecidableEq, Repr

namespace AdapterConfig

def kind : AdapterConfig → AdapterKind
  | address _ _ _ => .address
  | file _ _ => .file

def kindName (c : AdapterConfig) : String :=
  c.kind.name

def url : AdapterConfig → String
  | address url _ _ => url
  | file path _ => "sqlite:///" ++ path.text

def schema : AdapterConfig → Option String
  | address _ schema _ => schema
  | file _ _ => none

def pathField (v : Value) : Checked Path :=
  match Field.text v with
  | .ok s => .ok (Path.ofText s)
  | .error _ => Checked.problem "Input is not a valid path for <class 'pathlib.Path'>"

def check (entries : List (Value × Value)) : AdapterKind → Checked AdapterConfig
  | .address => do
    let (url, schema, echo) ←
      (Field.required "url" Field.text entries).both
        ((Field.withDefault "schema_name" none (Field.optional Field.text) entries).both
          (Field.withDefault "echo" false Field.flag entries))
    return .address url schema echo
  | .file => do
    let (path, echo) ←
      (Field.required "path" pathField entries).both
        (Field.withDefault "echo" false Field.flag entries)
    return .file path echo

def make (kindName : String) (entries : List (Value × Value)) :
    Except AdapterError AdapterConfig := do
  let kind ← AdapterKind.ofName kindName
  match check entries kind with
  | .ok c => return c
  | .error (.problems list) => throw (.configuration kindName list)
  | .error .notIterable => throw (.configuration kindName [])

end AdapterConfig

end LookupEnums
