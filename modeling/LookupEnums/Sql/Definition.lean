import LookupEnums.Database.Relation
import LookupEnums.Sql.ExprReading

/-! # Definitions of tables and indexes

A table is defined by its columns, each with a type and constraints, and by constraints of the whole
table. Keys that are not the row number bring an index with them. -/

namespace LookupEnums.Sql
open Text

structure TableKey where
  primary : Bool
  columns : List IndexedColumn

structure ForeignKey where
  columns : List String
  table : String
  /-- Empty where the primary key is meant. -/
  referenced : List String

structure TableDefinition where
  columns : List DeclaredColumn := []
  keys : List TableKey := []
  foreignKeys : List ForeignKey := []
  hasRowNumbers : Bool := true
  isStrict : Bool := false

inductive IndexOrigin
  | own
  | uniqueKey
  | primaryKey
  deriving DecidableEq, Repr

structure IndexDefinition where
  columns : List IndexedColumn
  isUnique : Bool := false
  /-- What holds of all rows in the index. -/
  condition : Option Expr := none
  origin : IndexOrigin := .own

namespace IndexedColumn

def columnName? (c : IndexedColumn) : Option String :=
  match c.expr with
  | .column none name _ => some name
  | .literal (.text name) => some name
  | _ => none

def ofExpr : Expr → IndexedColumn
  | .collated e c => ⟨e, some c, false⟩
  | e => { expr := e }

def list? : (room : Nat) → List Lexeme → Option (List IndexedColumn × List Lexeme)
  | 0, _ => none
  | room + 1, s => do
    let (e, s) ← Expr.ofLexemes? Expr.noSelection s
    let (descending, s) := match afterKeywords? ["DESC"] s with
      | some s => (true, s)
      | none => (false, skipKeywords ["ASC"] s)
    let s := skipKeywords ["AUTOINCREMENT"] s
    let column := { ofExpr e with descending }
    match afterMark? "," s with
    | some s =>
      let (more, s) ← list? room s
      return (column :: more, s)
    | none => return ([column], ← afterMark? ")" s)

end IndexedColumn

namespace IndexDefinition

def ofStatement? (statement : String) : Option IndexDefinition := do
  let s ← afterKeywords? ["CREATE"] (lexemes statement)
  let isUnique := (afterKeywords? ["UNIQUE"] s).isSome
  let s ← afterKeywords? ["INDEX"] (skipKeywords ["UNIQUE"] s)
  let (_, s) ← name? s
  let (_, s) ← name? (← afterKeywords? ["ON"] s)
  let (columns, s) ← IndexedColumn.list? s.length (← afterMark? "(" s)
  let condition ← match afterKeywords? ["WHERE"] s with
    | some s => (Expr.ofLexemes? Expr.noSelection s).map fun (e, _) => some e
    | none => some none
  return { columns, isUnique, condition }

end IndexDefinition

end LookupEnums.Sql
