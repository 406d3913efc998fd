import LookupEnums.Calendar.Iso
import LookupEnums.Database.ColumnType
import LookupEnums.Database.Datum
import LookupEnums.Database.Reflection
import LookupEnums.Json.Reader
import LookupEnums.Number.Fixed
import LookupEnums.Text.Encoding

/-! # Reading tables

The columns of a table in the order they are asked for, with the storage type of each, and all its
rows in their order.

A stored value becomes the value that the type of its column promises. Null stays null, and types that
promise nothing leave their values as they are.
-/

namespace LookupEnums

inductive CellError
  | wrongKind
  | unreadable
  | notJson
  /-- Bytes that are no text in their encoding. -/
  | notText
  deriving DecidableEq, Repr

mutual

/-- The value that data stands for; of fields with one name the last counts. All not-a-numbers that are
read are one object. -/
def Json.toValue : Json → Value
  | .null => .null
  | .bool b => .bool b
  | .int i => .int i
  | .float x => .float x 0
  | .str s => .text s
  | .arr items => .list (Json.itemsToValues items)
  | .obj fields => .dict (Json.fieldsToEntries [] fields)

def Json.itemsToValues : List Json → List Value
  | [] => []
  | j :: rest => j.toValue :: Json.itemsToValues rest

def Json.fieldsToEntries (entries : List (Value × Value)) :
    List (String × Json) → List (Value × Value)
  | [] => entries
  | (k, j) :: rest => Json.fieldsToEntries (Value.setField k j.toValue entries) rest

end

namespace ColumnType

def readDecimal (scale : Nat) : Datum → Except CellError Value
  | .int i => .ok (.decimal ((Binary64.ofInt i).toPlaces scale) 0)
  | .real x => .ok (.decimal (x.toPlaces scale) 0)
  | _ => .error .wrongKind

def readText (parse : List Char → Option α) (wrap : α → Value) : Datum → Except CellError Value
  | .text s => match parse s.toList with
    | some a => .ok (wrap a)
    | none => .error .unreadable
  | _ => .error .wrongKind

def readJsonText (s : String) : Except CellError Value :=
  match Json.read? s with
  | some j => .ok j.toValue
  | none => .error .notJson

def readJson : Datum → Except CellError Value
  | .text s => readJsonText s
  | .blob content =>
    let (encoding, content) := Text.Encoding.detect content
    match encoding.decode? content with
    | some s => readJsonText s
    | none => .error .notText
  | .int i => .ok (.int i)
  | .real x => .ok (.float x 0)
  | _ => .error .wrongKind

def read (t : ColumnType) (d : Datum) : Except CellError Value :=
  match t, d with
  | _, .null => .ok .null
  | boolean, d => .ok (.bool ((d.toValue?.getD .null).isTruthy))
  | numeric scale, d => readDecimal scale d
  | float (some places), d => readDecimal places d
  | date, d => readText Iso.date? .date d
  | dateTime, d => readText Iso.moment? .moment d
  | time, d => readText Iso.time? .time d
  | json, d => readJson d
  | _, d => .ok (d.toValue?.getD .null)

end ColumnType

inductive SelectError
  | schema (e : SchemaError)
  | cell (e : CellError)
  | store
  deriving DecidableEq, Repr

namespace KnownColumn

def storageType (c : KnownColumn) : StorageType :=
  c.type.storageType c.nullable

def read (c : KnownColumn) (d : Datum) : Except SelectError (String × Value) :=
  ((c.type.read d).map (c.name, ·)).mapError .cell

end KnownColumn

namespace Database

/-- The columns that are asked for, each once; the first that is missing is refused. -/
def requested (known : List KnownColumn) (asked : String) (columns : List String) :
    Except SelectError (List KnownColumn) :=
  columns.eraseDups.mapM fun name =>
    match known.find? (·.name = name) with
    | some c => .ok c
    | none => .error (.schema (.unknownColumn asked name))

def readRow (columns : List KnownColumn) (data : List Datum) :
    Except SelectError (List (String × Value)) :=
  if data.any (·.toValue?.isNone) then .error .store
  else (columns.zip data).mapM fun (c, d) => c.read d

/-- The answer carries the name under which the table was asked for. To ask for no columns is an
error of the store. -/
def select (db : Database) (asked : String) (columns : List String) :
    Except SelectError ResultSet :=
  match db.reflect asked with
  | .error .missing => .error (.schema (.unknownTable asked))
  | .error .unclear => .error .store
  | .ok known => do
    let requested ← requested known asked columns
    let names := requested.map (·.name)
    match if names.isEmpty then none else db.read? asked (some names) with
    | none => .error .store
    | some r =>
      let rows ← r.rows.mapM fun data =>
        let cells := (r.columns.map (·.name)).zip data
        readRow requested (names.map fun n => (cells.lookup n).getD .null)
      if r.isWhole then
        return ⟨asked, requested.map fun c => (c.name, c.storageType), rows⟩
      else .error .store

end Database

end LookupEnums
