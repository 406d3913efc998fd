import LookupEnums.Database.Affinity
import LookupEnums.Database.ColumnType
import LookupEnums.Database.Reading
import LookupEnums.Table
import LookupEnums.Text.Letter
import LookupEnums.Text.UpperCase

/-! # What is known of columns

The columns of a table or view with their types. The tables a table refers to are looked at as well,
as far as a chain of references goes: they have to be there, and a column without a type takes that
of the column it refers to. References are only known under the exact name of the table.

A declared type is a name and numbers in parentheses. A name that is not known counts by the words in
it, as an affinity does.
-/

namespace LookupEnums
open Text

structure DeclaredType where
  /-- In capitals. -/
  name : List Char
  arguments : List Nat
  deriving DecidableEq, Repr

namespace DeclaredType

def isNameChar (c : Char) : Bool :=
  isLetter c || c.isDigit || c == '_' || c == ' '

def insideParentheses : List Char → List Char
  | '(' :: r =>
    match cut? [')'] r with
    | some (inside, _) => if inside.contains '\n' then [] else inside
    | none => []
  | _ => []

def numbersFrom (current : List Char) : List Char → List Nat
  | [] => (readDecimal? current.reverse).toList
  | c :: r =>
    if c.isDigit then numbersFrom (c :: current) r
    else (readDecimal? current.reverse).toList ++ numbersFrom [] r

def ofText (declared : String) : DeclaredType :=
  let s := declared.toList.flatMap upper
  ⟨s.takeWhile isNameChar, numbersFrom [] (insideParentheses (s.dropWhile isNameChar))⟩

def scale (t : DeclaredType) : Nat :=
  t.arguments.getD 1 ColumnType.defaultScale

def places (t : DeclaredType) : Option Nat :=
  if t.arguments.getD 1 0 = 0 then none else some ColumnType.defaultScale

def known (t : DeclaredType) : List (String × ColumnType) :=
  let families : List (ColumnType × List String) :=
    [(.bigInteger, ["BIGINT"]),
      (.boolean, ["BOOLEAN", "BOOL"]),
      (.text, ["CHAR", "NCHAR", "VARCHAR", "NVARCHAR", "TEXT"]),
      (.date, ["DATE", "DATE_CHAR"]),
      (.dateTime, ["DATETIME", "DATETIME_CHAR", "TIMESTAMP"]),
      (.time, ["TIME", "TIME_CHAR"]),
      (.numeric t.scale, ["DECIMAL", "NUMERIC"]),
      (.float t.places, ["DOUBLE", "DOUBLE_PRECISION", "FLOAT", "REAL"]),
      (.integer, ["INT", "INTEGER"]),
      (.smallInteger, ["SMALLINT"]),
      (.binary, ["BLOB"]),
      (.json, ["JSON"])]
  families.flatMap fun (c, names) => names.map (·, c)

def byWords (t : DeclaredType) : ColumnType :=
  match Affinity.ofDeclared (some (String.ofList t.name)) with
  | .integer => .integer
  | .text => .text
  | .unchanged => .unknown
  | .real => .float t.places
  | .numeric => .numeric t.scale

def columnType (t : DeclaredType) : ColumnType :=
  (t.known.lookup (String.ofList t.name)).getD t.byWords

end DeclaredType

/-- The type of a column by its declaration. -/
def ColumnType.ofDeclared (declared : Option String) : ColumnType :=
  (DeclaredType.ofText (declared.getD "")).columnType

open Sql

structure KnownColumn where
  name : String
  type : ColumnType
  nullable : Bool
  deriving DecidableEq, Repr

namespace KnownColumn

def ofColumn (c : Column) : KnownColumn :=
  ⟨c.name, .ofDeclared c.declared, !c.notNull⟩

def taking (c : KnownColumn) (type : ColumnType) : KnownColumn :=
  if c.type = .unknown then { c with type } else c

end KnownColumn

inductive ReflectionError
  | missing
  | unclear
  deriving DecidableEq, Repr

namespace Database

def referencedKey (db : Database) (table : String) : List String :=
  match db.table? table with
  | some t => if t.name = table then (t.columns.filter (·.key)).map (·.name) else []
  | none => []

def referencedColumns (db : Database) (f : ForeignKey) : List String :=
  if f.referenced.isEmpty then db.referencedKey f.table else f.referenced

def withReferred (columns referred : List KnownColumn) (pairs : List (String × String)) :
    List KnownColumn :=
  columns.map fun c =>
    match pairs.lookup c.name with
    | some other => match referred.find? (·.name = other) with
      | some r => c.taking r.type
      | none => c
    | none => c

def declaredName (t : StoredTable) (name : String) : String :=
  ((t.column? name).map (·.name)).getD name

/-- The columns of a table. The tables on the way to it are not looked at again. -/
def knownColumns (db : Database) : (depth : Nat) → (way : List String) → String →
    Except ReflectionError (List KnownColumn)
  | 0, _, _ => .error .unclear
  | depth + 1, way, name =>
    match db.table? name with
    | none =>
      match db.read? name none with
      | some r => .ok (r.columns.map .ofColumn)
      | none => .error (if db.contains name then .unclear else .missing)
    | some t =>
      let columns := t.columns.map fun c => KnownColumn.ofColumn c.toColumn
      if way.contains name then .ok columns
      else if t.name ≠ name then
        if t.columns.any (·.computed.isSome) then .error .missing else .ok columns
      else
        t.definition.foreignKeys.foldlM (fun columns f => do
          let referred ←
            if f.table = name then .ok columns
            else db.knownColumns depth (name :: way) f.table
          let names := f.columns.map (declaredName t)
          let others := db.referencedColumns f
          if names.eraseDups.length = others.length then
            .ok (withReferred columns referred (names.zip others))
          else .error .unclear) columns

def chainBound (db : Database) : Nat :=
  db.tables.length + (db.tables.flatMap (·.definition.foreignKeys)).length + 2

def reflect (db : Database) (name : String) : Except ReflectionError (List KnownColumn) :=
  db.knownColumns db.chainBound [] name

end Database

end LookupEnums
