import LookupEnums.Database.Image
import LookupEnums.Database.Basic

/-! # Tables kept in other tables

The rows of a virtual table lie in further tables whose names start with its own: those of a text
index in a table of their contents, or with nothing left of them in one of their sizes, and those of
a tree of boxes in nodes, which hold a number and the bounds of a box for each row. -/

namespace LookupEnums
open Sql

def Binary64.ofSingleBits (n : Nat) : Binary64 :=
  let negative : Bool := n / Nat.pow 2 31 % 2 == 1
  let exponent : Nat := n / Nat.pow 2 23 % Nat.pow 2 8
  let fraction : Nat := n % Nat.pow 2 23
  if exponent = 255 then (if fraction = 0 then .infinite negative else .nan)
  else
    let mantissa := if exponent = 0 then fraction else Nat.pow 2 23 + fraction
    let (num, den) := scaled mantissa 1 2 (150 - (max exponent 1 : Nat) : Int)
    ofQuotient negative num den

inductive Keeping
  /-- Texts, in the order of their numbers or against it. -/
  | texts (isReversed : Bool)
  /-- Only the sizes of texts. -/
  | sizes
  /-- Boxes with so many bounds, which may be whole numbers. -/
  | boxes (bounds : Nat) (areInts : Bool)
  deriving DecidableEq, Repr

structure VirtualTable where
  name : String
  columns : List DeclaredColumn
  keeping : Keeping

namespace VirtualTable

def splitArguments : (depth : Nat) → (argument : List Lexeme) → List Lexeme → List (List Lexeme)
  | _, argument, [] => [argument.reverse]
  | depth, argument, l :: rest =>
    if l.isMark "(" then splitArguments (depth + 1) (l :: argument) rest
    else if l.isMark ")" then
      match depth with
      | 0 => [argument.reverse]
      | depth + 1 => splitArguments depth (l :: argument) rest
    else if l.isMark "," && depth == 0 then argument.reverse :: splitArguments 0 [] rest
    else splitArguments depth (l :: argument) rest

def untyped (name : String) : DeclaredColumn := { name }

def typed (type name : String) : DeclaredColumn := { name, declared := some type }

def firstName? (argument : List Lexeme) : Option String :=
  (name? argument).map (·.1)

def option? (argument : List Lexeme) : Option (List Lexeme) :=
  match argument.dropWhile (!·.isMark "=") with
  | [] => none
  | _ :: value => some value

def startsWith (word : String) (argument : List Lexeme) : Bool :=
  (afterKeywords? [word] argument).isSome

def valueOf? (name : String) (arguments : List (List Lexeme)) : Option String :=
  (arguments.find? fun a => (option? a).isSome && startsWith name a).map fun a =>
    ((option? a).bind firstName?).getD ""

/-- How a text index keeps its rows, if it does not leave them to another table or pack them. -/
def textsKeeping? (arguments : List (List Lexeme)) : Option Keeping :=
  if (valueOf? "COMPRESS" arguments).isSome then none
  else match valueOf? "CONTENT" arguments with
    | some table => if table.isEmpty then some .sizes else none
    | none =>
      some (.texts (((valueOf? "ORDER" arguments).map fun order => sameName order "desc").getD false))

def texts? (name : String) (arguments : List (List Lexeme)) : Option VirtualTable := do
  let keeping ← textsKeeping? arguments
  let written := arguments.filter fun a => !a.isEmpty && (option? a).isNone && !startsWith "TOKENIZE" a
  let columns ← (written.mapM firstName?).map (·.map untyped)
  return ⟨name, if columns.isEmpty then [untyped "content"] else columns, keeping⟩

/-- A tree of boxes has a number, the bounds, and after them further columns with a sign. -/
def boxes? (name : String) (areInts : Bool) (arguments : List (List Lexeme)) :
    Option VirtualTable := do
  let isFurther (a : List Lexeme) : Bool := (afterMark? "+" a).isSome
  match arguments with
  | [] => none
  | number :: rest =>
    let bounds ← (rest.takeWhile (!isFurther ·)).mapM firstName?
    let further ← ((rest.dropWhile (!isFurther ·)).mapM (afterMark? "+")).bind (·.mapM firstName?)
    let columns := typed "INT" (← firstName? number)
      :: bounds.map (typed (if areInts then "INT" else "REAL")) ++ further.map untyped
    return ⟨name, columns, .boxes bounds.length areInts⟩

def ofStatement? (statement : String) : Option VirtualTable := do
  let s ← afterKeywords? ["CREATE", "VIRTUAL", "TABLE"] (lexemes statement)
  let (name, s) ← name? s
  let (kind, s) ← name? (← afterKeywords? ["USING"] s)
  let arguments := ((afterMark? "(" s).map (splitArguments 0 [])).getD []
  match String.ofList (kind.toList.map Char.toLower) with
  | "fts3" | "fts4" | "fts5" => texts? name arguments
  | "rtree" => boxes? name false arguments
  | "rtree_i32" => boxes? name true arguments
  | _ => none

def keeper? (v : VirtualTable) (db : Database) (ending : String) : Option StoredTable :=
  db.table? (v.name ++ ending)

structure BoxCell where
  number : Int
  bounds : List Datum

namespace BoxCell

def bound? (areInts : Bool) (b : ByteArray) (start : Nat) : Option Datum :=
  (Image.number? b start 4).map fun n =>
    if areInts then .int (Image.signed 32 n) else .ofReal (.ofSingleBits n)

def ofBytes? (count : Nat) (areInts : Bool) (b : ByteArray) (start : Nat) : Option BoxCell := do
  let number ← Image.number? b start 8
  let bounds ← (List.range count).mapM fun k => bound? areInts b (start + 8 + 4 * k)
  return ⟨Image.signed 64 number, bounds⟩

def ofNode? (count : Nat) (areInts : Bool) (b : ByteArray) : Option (List BoxCell) := do
  let cells ← Image.number? b 2 2
  (List.range cells).mapM fun k => ofBytes? count areInts b (4 + (8 + 4 * count) * k)

end BoxCell

def cellsBelow (cells? : Int → Option (List BoxCell)) : (depth : Nat) → (node : Int) →
    List BoxCell × Bool
  | 0, node => match cells? node with
    | some cells => (cells, true)
    | none => ([], false)
  | depth + 1, node => match cells? node with
    | some cells => Image.gathered (cells.map fun c => cellsBelow cells? depth c.number)
    | none => ([], false)

def nodeOf (nodes : StoredTable) (node : Int) : Option ByteArray :=
  (nodes.rows.find? (·.number = node)).bind fun row =>
    match row.data with
    | [_, .blob content] => some ⟨content.toArray⟩
    | _ => none

def topNode : Int := 1

def greatestDepth : Nat := 40

def boxRows (count : Nat) (areInts : Bool) (nodes : StoredTable) (further : Int → List Datum) :
    List StoredRow × Bool :=
  let depth := ((nodeOf nodes topNode).bind (Image.number? · 0 2)).getD 0
  let cells? (n : Int) := (nodeOf nodes n).bind (BoxCell.ofNode? count areInts)
  let (cells, isWhole) :=
    if greatestDepth < depth then ([], false) else cellsBelow cells? depth topNode
  (cells.map fun c => ⟨c.number, .int c.number :: c.bounds ++ further c.number⟩, isWhole)

def furtherData (t : StoredTable) (number : Int) : List Datum :=
  ((t.rows.find? (·.number = number)).map (·.data.drop 2)).getD []

/-- A virtual table as if its rows were its own. -/
def stored? (v : VirtualTable) (db : Database) : Option StoredTable := do
  let definition : TableDefinition := { columns := v.columns }
  match v.keeping with
  | .texts isReversed =>
    let contents ← v.keeper? db "_content"
    let rows := contents.rows.map fun row =>
      { row with data := (row.data.drop 1).take v.columns.length }
    let rows := if isReversed then rows.reverse else rows
    return { name := v.name, definition, rows, isWhole := contents.isWhole }
  | .sizes =>
    let sizes ← v.keeper? db "_docsize"
    let rows := sizes.rows.map fun row => { row with data := v.columns.map fun _ => .null }
    return { name := v.name, definition, rows, isWhole := sizes.isWhole }
  | .boxes count areInts =>
    let (rows, isWhole) := boxRows count areInts (← v.keeper? db "_node")
      (furtherData (← v.keeper? db "_rowid"))
    return { name := v.name, definition, rows, isWhole }

/-- Adds a virtual table to a database that holds what keeps its rows. -/
def addTo (v : VirtualTable) (db : Database) : Database :=
  match v.stored? db with
  | some t => { db with tables := db.tables ++ [t] }
  | none => { db with unreadable := db.unreadable ++ [v.name] }

end VirtualTable

end LookupEnums
