import LookupEnums.Sql.Definition
import LookupEnums.Sql.Evaluation

/-! # Reading definitions of tables

A definition lists columns and then constraints of the whole table. What a constraint checks does not
matter for reading and is passed over; what it says about keys, defaults and computed columns is
kept. -/

namespace LookupEnums.Sql

namespace TableDefinition

def tableConstraintWords : List String :=
  ["CONSTRAINT", "PRIMARY", "UNIQUE", "CHECK", "FOREIGN"]

def startsWith (words : List String) : List Lexeme → Bool
  | l :: _ => words.any fun w => l.isKeyword w
  | [] => false

def splitType (s : List Lexeme) : List Lexeme × List Lexeme :=
  let names := s.takeWhile fun l => l.name?.isSome && !l.isKeyword "GENERATED"
  let rest := s.drop names.length
  match names, afterMark? "(" rest with
  | _ :: _, some inside =>
    let after := afterClosing 0 inside
    (s.take (s.length - after.length), after)
  | _, _ => (names, rest)

def unquoted (s : String) : String :=
  match s.toList with
  | [] => s
  | c :: r =>
    if c = '\'' then String.ofList (untilQuote c [] r).1
    else match closingQuote? c with
      | some quote => String.ofList (untilQuote quote [] r).1
      | none => s

/-- Types that are kept in capitals, however they are written. -/
def plainTypes : List String := ["ANY", "BLOB", "INT", "INTEGER", "REAL", "TEXT"]

def typeText? (s : List Lexeme) : Option String :=
  let written := unquoted (writtenText s)
  if written.isEmpty then none
  else some ((plainTypes.find? (sameName written)).getD written)

def skipConflict (s : List Lexeme) : List Lexeme :=
  match afterKeywords? ["ON", "CONFLICT"] s with
  | some rest => rest.drop 1
  | none => s

/-- The referenced table and columns, and the rest after what is done in case of a violation. -/
def reference? (columns : List String) (s : List Lexeme) :
    Option (ForeignKey × List Lexeme) := do
  let (table, s) ← name? s
  let (referenced, s) := match afterMark? "(" s with
    | some inside =>
      let after := afterClosing 0 inside
      ((inside.take (inside.length - after.length)).filterMap Lexeme.name?, after)
    | none => ([], s)
  return (⟨columns, table, referenced⟩, skipActions s.length s)
where
  skipActions : Nat → List Lexeme → List Lexeme
    | 0, s => s
    | room + 1, s =>
      match afterKeywords? ["ON"] s with
      | some rest =>
        let action := rest.drop 1
        if startsWith ["SET", "NO"] action then skipActions room (action.drop 2)
        else skipActions room (action.drop 1)
      | none => match afterKeywords? ["MATCH"] s with
        | some rest => skipActions room (rest.drop 1)
        | none => s

def defaultOf (column : DeclaredColumn) (e : Expr) : Datum :=
  column.affinity.store ((e.plainValue? []).getD .null)

/-- A default and the rest: an expression in parentheses, a number with its sign, or a word, which
stands for a text. -/
def default? (s : List Lexeme) : Option (Expr × List Lexeme) :=
  match s with
  | [] => none
  | l :: rest =>
    if l.isMark "(" || l.isMark "-" || l.isMark "+" then
      Expr.read? Expr.noSelection (Expr.roomFor s) Expr.signLevel s
    else match l.token with
      | .word w => match Expr.constants.lookup w.toUpper with
        | some d => some (.literal d, rest)
        | none => some (.literal (.text w), rest)
      | .quoted w => some (.literal (.text w), rest)
      | _ => (Expr.leaf? l).map (·, rest)

abbrev State := TableDefinition × List Lexeme

def withKey (t : TableDefinition) (primary : Bool) (columns : List IndexedColumn) :
    TableDefinition :=
  { t with keys := t.keys ++ [⟨primary, columns⟩] }

def columnConstraints? :
    (room : Nat) → TableDefinition → DeclaredColumn → List Lexeme →
      Option (TableDefinition × DeclaredColumn × List Lexeme)
  | 0, _, _, _ => none
  | room + 1, t, c, s => do
    let own : IndexedColumn := { expr := .column none c.name false }
    if let some s := afterKeywords? ["CONSTRAINT"] s then columnConstraints? room t c (s.drop 1)
    else if let some s := afterKeywords? ["PRIMARY", "KEY"] s then
      let descending := startsWith ["DESC"] s
      let s := skipConflict (skipKeywords ["DESC"] (skipKeywords ["ASC"] s))
      let s := skipKeywords ["AUTOINCREMENT"] s
      if c.declared = some "INTEGER" && !descending then
        columnConstraints? room t { c with key := true, isRowNumber := true } s
      else columnConstraints? room (t.withKey true [{ own with descending }]) { c with key := true } s
    else if let some s := afterKeywords? ["NOT", "NULL"] s then
      columnConstraints? room t { c with notNull := true } (skipConflict s)
    else if let some s := afterKeywords? ["NULL"] s then
      columnConstraints? room t c (skipConflict s)
    else if let some s := afterKeywords? ["UNIQUE"] s then
      columnConstraints? room (t.withKey false [own]) c (skipConflict s)
    else if let some s := afterKeywords? ["CHECK"] s then
      columnConstraints? room t c (afterClosing 0 (← afterMark? "(" s))
    else if let some s := afterKeywords? ["DEFAULT"] s then
      let (e, s) ← default? s
      columnConstraints? room t { c with default := defaultOf c e } s
    else if let some s := afterKeywords? ["COLLATE"] s then
      let (name, s) ← name? s
      columnConstraints? room t { c with collation := (Collation.ofName? name).getD .exact } s
    else if let some s := afterKeywords? ["REFERENCES"] s then
      let (key, s) ← reference? [c.name] s
      columnConstraints? room { t with foreignKeys := t.foreignKeys ++ [key] } c s
    else if startsWith ["DEFERRABLE", "INITIALLY", "DEFERRED", "IMMEDIATE"] s then
      columnConstraints? room t c (s.drop 1)
    else if let some s := afterKeywords? ["NOT", "DEFERRABLE"] s then
      columnConstraints? room t c s
    else if let some s := afterKeywords? ["AS"] (skipKeywords ["GENERATED", "ALWAYS"] s) then
      let (expr, s) ← Expr.ofLexemes? Expr.noSelection s
      let isStored := startsWith ["STORED"] s
      let s := skipKeywords ["VIRTUAL"] (skipKeywords ["STORED"] s)
      columnConstraints? room t { c with computed := some ⟨expr, isStored⟩ } s
    else return (t, c, s)

def rowNumberColumn? (t : TableDefinition) (columns : List IndexedColumn) :
    Option DeclaredColumn :=
  match columns with
  | [k] => t.columns.find? fun c =>
      (k.columnName?.map (sameName c.name)).getD false && c.declared = some "INTEGER"
  | _ => none

def mapColumns (t : TableDefinition) (f : DeclaredColumn → DeclaredColumn) : TableDefinition :=
  { t with columns := t.columns.map f }

def withPrimaryKey (t : TableDefinition) (columns : List IndexedColumn) : TableDefinition :=
  let names := columns.filterMap (·.columnName?)
  let t := t.mapColumns fun c => { c with key := c.key || names.any (sameName c.name) }
  match t.rowNumberColumn? columns with
  | some k => t.mapColumns fun c => { c with isRowNumber := c.isRowNumber || c.name = k.name }
  | none => t.withKey true columns

def tableConstraints? : (room : Nat) → TableDefinition → List Lexeme → Option State
  | 0, _, _ => none
  | room + 1, t, s => do
    let s := (afterMark? "," s).getD s
    if let some s := afterMark? ")" s then return (t, s)
    else if let some s := afterKeywords? ["CONSTRAINT"] s then tableConstraints? room t (s.drop 1)
    else if let some s := afterKeywords? ["PRIMARY", "KEY"] s then
      let (columns, s) ← IndexedColumn.list? s.length (← afterMark? "(" s)
      tableConstraints? room (t.withPrimaryKey columns) (skipConflict s)
    else if let some s := afterKeywords? ["UNIQUE"] s then
      let (columns, s) ← IndexedColumn.list? s.length (← afterMark? "(" s)
      tableConstraints? room (t.withKey false columns) (skipConflict s)
    else if let some s := afterKeywords? ["CHECK"] s then
      tableConstraints? room t (skipConflict (afterClosing 0 (← afterMark? "(" s)))
    else if let some s := afterKeywords? ["FOREIGN", "KEY"] s then
      let inside ← afterMark? "(" s
      let after := afterClosing 0 inside
      let own := (inside.take (inside.length - after.length)).filterMap Lexeme.name?
      let (key, s) ← reference? own (← afterKeywords? ["REFERENCES"] after)
      let t := { t with foreignKeys := t.foreignKeys ++ [key] }
      tableConstraints? room t (afterDeferral s)
    else none
where
  afterDeferral (s : List Lexeme) : List Lexeme :=
    (skipKeywords ["NOT"] s).dropWhile fun l =>
      startsWith ["DEFERRABLE", "INITIALLY", "DEFERRED", "IMMEDIATE"] [l]

def body? : (room : Nat) → TableDefinition → List Lexeme → Option State
  | 0, _, _ => none
  | room + 1, t, s => do
    if startsWith tableConstraintWords s then tableConstraints? (s.length + 1) t s
    else
      let (name, s) ← name? s
      let (type, s) := splitType s
      let column : DeclaredColumn := { name, declared := typeText? type }
      let (t, column, s) ← columnConstraints? (s.length + 1) t column s
      let t := { t with columns := t.columns ++ [column] }
      match afterMark? "," s with
      | some s => body? room t s
      | none => tableConstraints? (s.length + 1) t s

def withOptions (t : TableDefinition) (s : List Lexeme) : TableDefinition :=
  { t with
    hasRowNumbers := !s.any (·.isKeyword "WITHOUT")
    isStrict := s.any (·.isKeyword "STRICT") }

/-- Without row numbers, the primary key holds the rows, and none of its columns may be empty. -/
def finished (t : TableDefinition) : TableDefinition :=
  if t.hasRowNumbers then
    if t.isStrict then
      t.mapColumns fun c => { c with notNull := c.notNull || (c.key && !c.isRowNumber) }
    else t
  else
    let numbered := t.columns.filter (·.isRowNumber)
    let t := t.mapColumns fun c => { c with notNull := c.notNull || c.key, isRowNumber := false }
    if numbered.isEmpty then t
    else t.withKey true (numbered.map fun c => { expr := .column none c.name false })

def ofStatement? (statement : String) : Option TableDefinition := do
  let s ← afterKeywords? ["CREATE", "TABLE"] (lexemes statement)
  let (_, s) ← name? s
  let s ← afterMark? "(" s
  let (t, s) ← body? (s.length + 1) {} s
  return (t.withOptions s).finished

end TableDefinition

end LookupEnums.Sql
