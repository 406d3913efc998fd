import LookupEnums.Database.Affinity
import LookupEnums.Sql.Expr
import LookupEnums.Sql.Token

/-! # Reading expressions

Operators bind in levels, from `OR` at the weakest to the signs at the strongest; those of one level
are read from left to right. The number of tokens bounds the depth. -/

namespace LookupEnums.Sql
open Text

namespace Expr

def operators : Nat → List (String × BinaryOp)
  | 3 => [("=", .equal), ("==", .equal), ("!=", .unequal), ("<>", .unequal)]
  | 4 => [("<", .less), ("<=", .atMost), (">", .greater), (">=", .atLeast)]
  | 5 => [("&", .bitAnd), ("|", .bitOr), ("<<", .shiftLeft), (">>", .shiftRight)]
  | 6 => [("+", .add), ("-", .subtract)]
  | 7 => [("*", .multiply), ("/", .divide), ("%", .remainder)]
  | 8 => [("||", .concat)]
  | _ => []

def connectives : Nat → List (String × BinaryOp)
  | 0 => [("OR", .or)]
  | 1 => [("AND", .and)]
  | _ => []

def notLevel : Nat := 2
def testLevel : Nat := 3
def collationLevel : Nat := 9
def signLevel : Nat := 10

def binaryOp? (level : Nat) (l : Lexeme) : Option BinaryOp :=
  match l.token with
  | .mark s => (operators level).lookup s
  | .word s => (connectives level).lookup s.toUpper
  | _ => none

def negated (negative : Bool) (e : Expr) : Expr :=
  if negative then unary .not e else e

def wordOfHex (s : List Char) : Option Datum := do
  let n ← readHex? s
  if n < Word.count then some (.int (Word.ofBits n)) else none

def numberLiteral? (negative : Bool) (s : String) : Option Datum :=
  match s.toList with
  | '0' :: 'x' :: r | '0' :: 'X' :: r =>
    (wordOfHex r).map fun d => match d with
      | .int i => .int (if negative then -i else i)
      | d => d
  | s => Affinity.number? (if negative then '-' :: s else s)

def bytes? : List Char → Option (List UInt8)
  | [] => some []
  | a :: b :: rest => do
    let n ← readHex? [a, b]
    return n.toUInt8 :: (← bytes? rest)
  | _ => none

def constants : List (String × Datum) :=
  [("NULL", .null), ("TRUE", .int 1), ("FALSE", .int 0)]

def leaf? (l : Lexeme) : Option Expr :=
  match l.token with
  | .word s =>
    match constants.lookup s.toUpper with
    | some d => some (literal d)
    | none => if reservedWords.contains s.toUpper then none else some (column none s false)
  | .quoted s => some (column none s (l.written.head? = some '"'))
  | .string s => some (literal (.text s))
  | .number s => (numberLiteral? false s).map literal
  | .blob digits => (bytes? digits.toList).map fun b => literal (.blob b)
  | .mark _ => none

def isNegatable (l : Lexeme) : Bool :=
  ["LIKE", "GLOB", "IN", "BETWEEN"].any l.isKeyword

def patternFunction? (l : Lexeme) : Option String :=
  if l.isKeyword "LIKE" then some "like" else if l.isKeyword "GLOB" then some "glob" else none

def truth? (s : List Lexeme) : Option (Bool × List Lexeme) :=
  match s with
  | l :: rest =>
    let goesOn := rest.head?.any fun k => k.isMark "." || k.isMark "("
    if goesOn then none
    else if l.isKeyword "TRUE" then some (true, rest)
    else if l.isKeyword "FALSE" then some (false, rest)
    else none
  | [] => none

/-- Whether something is true, or false; what is empty is neither. -/
def testOfTruth (truth negative : Bool) (e : Expr) : Expr :=
  let holds : Expr := .literal (.int (if negative then 0 else 1))
  let fails : Expr := .literal (.int (if negative then 1 else 0))
  choose [if truth then e else unary .not e, holds, fails]

section

-- How a selection is read.
variable (inner? : List Lexeme → Option (Selection × List Lexeme))

def enclosed? (s : List Lexeme) : Option (Selection × List Lexeme) := do
  let (selection, s) ← inner? s
  return (selection, ← afterMark? ")" s)

mutual

def read? : (room level : Nat) → List Lexeme → Option (Expr × List Lexeme)
  | 0, _, _ => none
  | room + 1, level, s => do
    if level = notLevel then
      match afterKeywords? ["NOT"] s with
      | some s =>
        let (e, s) ← read? room level s
        return (unary .not e, s)
      | none => read? room (level + 1) s
    else if level = signLevel then
      match s with
      | [] => none
      | l :: rest =>
        if l.isMark "-" then
          match rest with
          | ⟨.number n, _, _⟩ :: rest => return (literal (← numberLiteral? true n), rest)
          | rest =>
            let (e, rest) ← read? room level rest
            return (unary .minus e, rest)
        else if l.isMark "+" then
          let (e, rest) ← read? room level rest
          return (unary .plus e, rest)
        else if l.isMark "~" then
          let (e, rest) ← read? room level rest
          return (unary .complement e, rest)
        else primary? room l rest
    else
      let (e, s) ← read? room (level + 1) s
      tail? room level e s

def tail? : (room level : Nat) → Expr → List Lexeme → Option (Expr × List Lexeme)
  | 0, _, _, _ => none
  | _ + 1, _, e, [] => some (e, [])
  | room + 1, level, e, l :: rest => do
    if level = collationLevel then
      if l.isKeyword "COLLATE" then
        let (name, rest) ← name? rest
        tail? room level (collated e (← Collation.ofName? name)) rest
      else some (e, l :: rest)
    else match binaryOp? level l with
      | some op =>
        let (b, rest) ← read? room (level + 1) rest
        tail? room level (binary op e b) rest
      | none => if level = testLevel then test? room e l rest else some (e, l :: rest)

def test? : (room : Nat) → Expr → Lexeme → List Lexeme → Option (Expr × List Lexeme)
  | 0, _, _, _ => none
  | room + 1, e, l, rest => do
    if l.isKeyword "ISNULL" then tail? room testLevel (binary .same e (literal .null)) rest
    else if l.isKeyword "NOTNULL" then
      tail? room testLevel (binary .different e (literal .null)) rest
    else if l.isKeyword "IS" then
      let (negative, rest) := match afterKeywords? ["NOT"] rest with
        | some rest => (true, rest)
        | none => (false, rest)
      let (negative, rest) := match afterKeywords? ["DISTINCT", "FROM"] rest with
        | some rest => (!negative, rest)
        | none => (negative, rest)
      match truth? rest with
      | some (truth, rest) => tail? room testLevel (testOfTruth truth negative e) rest
      | none =>
        let (b, rest) ← read? room (testLevel + 1) rest
        tail? room testLevel (binary (if negative then .different else .same) e b) rest
    else if l.isKeyword "NOT" then
      match rest with
      | [] => none
      | k :: more =>
        if k.isKeyword "NULL" then
          tail? room testLevel (binary .different e (literal .null)) more
        else if isNegatable k then operation? room true e k more
        else some (e, l :: rest)
    else if isNegatable l then operation? room false e l rest
    else some (e, l :: rest)

def operation? : (room : Nat) → Bool → Expr → Lexeme → List Lexeme → Option (Expr × List Lexeme)
  | 0, _, _, _, _ => none
  | room + 1, negative, e, l, rest => do
    if l.isKeyword "IN" then
      let rest ← afterMark? "(" rest
      match enclosed? inner? rest with
      | some (s, rest) => tail? room testLevel (negated negative (among e s {})) rest
      | none =>
        let (items, rest) ← arguments? room rest
        tail? room testLevel (negated negative (oneOf e items)) rest
    else
      let (b, rest) ← read? room (testLevel + 1) rest
      match patternFunction? l with
      | some function =>
        match afterKeywords? ["ESCAPE"] rest with
        | some rest =>
          let (escape, rest) ← read? room (testLevel + 1) rest
          tail? room testLevel (negated negative (call function [b, e, escape])) rest
        | none => tail? room testLevel (negated negative (call function [b, e])) rest
      | none =>
        let rest ← afterKeywords? ["AND"] rest
        let (c, rest) ← read? room (testLevel + 1) rest
        let both := binary .and (binary .atLeast e b) (binary .atMost e c)
        tail? room testLevel (negated negative both) rest

def primary? : (room : Nat) → Lexeme → List Lexeme → Option (Expr × List Lexeme)
  | 0, _, _ => none
  | room + 1, l, rest => do
    if l.isMark "(" then
      match enclosed? inner? rest with
      | some (s, rest) => return (nested s {}, rest)
      | none =>
        let (e, rest) ← read? room 0 rest
        return (e, ← afterMark? ")" rest)
    else if l.isKeyword "EXISTS" then
      let (s, rest) ← enclosed? inner? (← afterMark? "(" rest)
      return (anyRow s {}, rest)
    else if l.isKeyword "CASE" then
      match rest with
      | [] => none
      | k :: _ =>
        if k.isKeyword "WHEN" then
          let (parts, rest) ← branches? room none rest
          return (choose parts, rest)
        else
          let (subject, rest) ← read? room 0 rest
          let (parts, rest) ← branches? room (some subject) rest
          return (choose parts, rest)
    else match l.name?, rest with
      | some name, k :: more =>
        if k.isMark "(" then
          if name.toUpper = "CAST" then
            let (e, more) ← read? room 0 more
            let more ← afterKeywords? ["AS"] more
            let type := more.takeWhile (!·.isMark ")")
            return (cast e (writtenText type), ← afterMark? ")" (more.drop type.length))
          else match more with
            | star :: close :: more =>
              if star.isMark "*" && close.isMark ")" then
                if name.toUpper = "COUNT" then return (countRows, more) else none
              else call? room name (star :: close :: more)
            | more => call? room name more
        else if k.isMark "." then
          let (second, more) ← name? more
          match afterMark? "." more with
          | some more =>
            let (third, more) ← name? more
            return (column (some second) third false, more)
          | none => return (column (some name) second false, more)
        else return (← leaf? l, rest)
      | _, rest => return (← leaf? l, rest)

def call? : (room : Nat) → (name : String) → List Lexeme → Option (Expr × List Lexeme)
  | 0, _, _ => none
  | room + 1, name, s => do
    let function := String.ofList (name.toList.map Char.toLower)
    match afterKeywords? ["DISTINCT"] s with
    | some s =>
      match ← arguments? room s with
      | ([e], s) => return (distinctCall function e, s)
      | _ => none
    | none =>
      let (arguments, s) ← arguments? room s
      return (call function arguments, s)

def arguments? : (room : Nat) → List Lexeme → Option (List Expr × List Lexeme)
  | 0, _ => none
  | room + 1, s => do
    match afterMark? ")" s with
    | some rest => return ([], rest)
    | none =>
      let (e, rest) ← read? room 0 s
      match afterMark? "," rest with
      | some rest =>
        let (more, rest) ← arguments? room rest
        return (e :: more, rest)
      | none => return ([e], ← afterMark? ")" rest)

def branches? : (room : Nat) → Option Expr → List Lexeme → Option (List Expr × List Lexeme)
  | 0, _, _ => none
  | room + 1, subject, s => do
    match afterKeywords? ["WHEN"] s with
    | some s =>
      let (condition, s) ← read? room 0 s
      let s ← afterKeywords? ["THEN"] s
      let (result, s) ← read? room 0 s
      let (more, s) ← branches? room subject s
      let condition := match subject with
        | some e => binary .equal e condition
        | none => condition
      return (condition :: result :: more, s)
    | none =>
      match afterKeywords? ["ELSE"] s with
      | some s =>
        let (e, s) ← read? room 0 s
        return ([e], ← afterKeywords? ["END"] s)
      | none => return ([], ← afterKeywords? ["END"] s)

end

/-- So deep no expression is nested that has so many tokens. -/
def roomFor (s : List Lexeme) : Nat :=
  16 * (s.length + 1)

def ofLexemes? (s : List Lexeme) : Option (Expr × List Lexeme) :=
  read? inner? (roomFor s) 0 s

end

def noSelection (_ : List Lexeme) : Option (Selection × List Lexeme) :=
  none

end Expr

end LookupEnums.Sql
