import LookupEnums.Adapter.Config
import LookupEnums.Adapter.Target
import LookupEnums.Database.Contents
import LookupEnums.Database.Pending
import LookupEnums.Database.Reading
import LookupEnums.Database.Select
import LookupEnums.Run.Basic
import LookupEnums.Text.Cut

/-! # Connections

An adapter is a configuration and the store it is connected to, if it is. A store is a file or a
memory that starts empty. An address makes a missing file unless it says otherwise, a file source
does not. Statements that are shown while they are executed are no part of what a run is taken to show.

Besides the reading of tables a connection is asked whether it answers at all, and how many rows a
table has. Connections only read, so any other query fails.
-/

namespace LookupEnums
open Sql Text

inductive Query
  | probe
  | count (table : String)
  deriving DecidableEq, Repr

namespace Query

def probeText : String := "SELECT 1 AS test"
def countHead : String := "SELECT COUNT(*) AS n FROM "

def tableName? (s : List Lexeme) : Option String :=
  match s.filter (!·.isMark ";") with
  | [l] => l.name?
  | [schema, point, l] =>
    if (schema.name?.map (sameName "main")).getD false && point.isMark "." then l.name? else none
  | _ => none

def ofText? (text : String) : Option Query :=
  if text = probeText then some probe
  else match cut? countHead.toList text.toList with
    | some ([], rest) => (tableName? (lexemes (String.ofList rest))).map count
    | _ => none

def answer? (db : Database) : Query → Option (List (String × Value))
  | probe => some [("test", .int 1)]
  | count table => (db.read? table none).bind fun r =>
    if r.isWhole then some [("n", .int r.rows.length)] else none

end Query

inductive Store
  | file (location : Location)
  | memory
  deriving DecidableEq, Repr

structure Adapter where
  config : AdapterConfig
  store : Option Store := none

namespace Store

/-- Where a path leads by its text alone, `..` taking the part before it away. -/
def plainLocation (working : Location) (p : Path) : Location :=
  p.parts.foldl (fun l part => if part = ".." then l.dropLast else l ++ [part])
    (if p.isAbsolute then [] else working)

def openFile (l : Location) (mode : FileMode) (t : Tree) : Option (Store × Tree) :=
  match t.node? l, t.node? l.dropLast with
  | some (.file _), _ => some (file l, t)
  | none, some .directory =>
    if mode = .create then some (file l, t.put l (.file (.bytes .empty))) else none
  | _, _ => none

def ofTarget (target : Target) (t : Tree) : Option (Store × Tree) :=
  match target with
  | .memory => some (memory, t)
  | .file path mode => openFile (plainLocation t.working path) mode t

/-- The endings of the logs beside a file: of pages that were replaced, and of newer ones. -/
def undoEnding : String := "-journal"
def changesEnding : String := "-wal"

def beside (l : Location) (ending : String) : Location :=
  l.dropLast ++ [l.getLastD "" ++ ending]

def bytes? (t : Tree) (l : Location) : Option ByteArray :=
  match t.node? l with
  | some (.file (.bytes b)) => some b
  | _ => none

def database? (t : Tree) : Store → Option Database
  | memory => some {}
  | file l => match t.node? l with
    | some (.file (.database db)) => some db
    | some (.file (.bytes b)) =>
      (Image.settled? b (bytes? t (beside l undoEnding)) (bytes? t (beside l changesEnding))).bind
        Database.ofBytes?
    | _ => none

/-- The part of a database in a schema, whose name ignores letter case; the store itself is
`main`. -/
def schema? (db : Database) : Option String → Option Database
  | none => some db
  | some schema =>
    if Sql.sameName schema "main" then some db
    else if Sql.sameName schema "temp" then some {}
    else none

end Store

namespace Adapter

def kindName (a : Adapter) : String :=
  a.config.kindName

def fail (e : AdapterError) : Run α :=
  throw (.adapter e)

def logger : String := "dbenum.core.adapters.generic"

def checkFile (c : AdapterConfig) : Run Unit := do
  match c with
  | .file path _ =>
    if !(← Run.tree).isFile path then fail (.fileNotFound c.kindName path.text)
  | .address _ _ _ => pure ()

def readAddress (c : AdapterConfig) : Run Address :=
  match Address.parse c.url with
  | .ok a => pure a
  | .error .malformed => fail (.cannotConnect c.kindName)
  | .error e => throw (.address e)

def readTarget (c : AdapterConfig) (a : Address) : Run Target :=
  match a.target? with
  | .ok (some target) => pure target
  | .ok none => fail (.cannotConnect c.kindName)
  | .error e => throw (.address e)

/-- A failure leaves the store that was connected before. -/
def connect (a : Adapter) : Run Adapter := do
  checkFile a.config
  let address ← readAddress a.config
  let target ← readTarget a.config address
  match Store.ofTarget target (← Run.tree) with
  | none => fail (.cannotConnect a.kindName)
  | some (store, tree) =>
    modify fun w => { w with tree }
    Run.note ⟨.info, logger, s!"Connected to {address.shown}"⟩
    return { a with store := some store }

def disconnect (a : Adapter) : Adapter :=
  { a with store := none }

def connected (a : Adapter) : Run Store :=
  match a.store with
  | some store => pure store
  | none => fail (.notConnected a.kindName)

def query (a : Adapter) (text : String) : Run (List (List (String × Value))) := do
  let store ← a.connected
  let tree ← Run.tree
  let answer := match Query.ofText? text with
    | some .probe => Query.answer? {} .probe
    | some q => (store.database? tree).bind q.answer?
    | none => none
  match answer with
  | some row => return [row]
  | none => fail (.queryFailed a.kindName text)

def test (a : Adapter) : Run Bool :=
  tryCatch (do let _ ← a.query Query.probeText; return true) fun _ => return false

/-- A table with the columns that are asked for. Logs beside the file count; what putting them into
effect does to the files is left out. -/
def fetch (a : Adapter) (table : String) (columns : List String) : Run ResultSet := do
  let store ← a.connected
  let database := (store.database? (← Run.tree)).bind (Store.schema? · a.config.schema)
  match (database.map (·.select table columns)).getD (.error .store) with
  | .ok r => pure r
  | .error .store => fail (.cannotReadTable a.kindName table columns)
  | .error (.schema e) => throw (.compile (.schema e))
  | .error (.cell e) => throw (.cell e)

end Adapter

end LookupEnums
