import LookupEnums.Text.Cut

/-! # Tokens of statements

A statement falls into words, names in quotes, strings, numbers, bytes and marks, with blanks and
comments between them. What is written is kept beside each token, because types and unnamed columns
go by it. -/

namespace LookupEnums.Sql
open Text

inductive Token
  | word (s : String)
  /-- A name in quotes, which is never a keyword. -/
  | quoted (s : String)
  | string (s : String)
  | number (s : String)
  | blob (digits : String)
  | mark (s : String)
  deriving DecidableEq, Repr

structure Lexeme where
  token : Token
  /-- The blanks and comments before the token. -/
  gap : List Char
  written : List Char
  deriving DecidableEq, Repr

def isSpace (c : Char) : Bool :=
  let n := c.toNat
  n == 0x20 || (0x09 ≤ n && n ≤ 0x0d)

def isNameChar (c : Char) : Bool :=
  c.isAlphanum || c == '_' || c == '$' || 0x80 ≤ c.toNat

/-- What follows an opening quote up to the closing one, which is doubled inside, and the rest. -/
def untilQuote (quote : Char) : (read : List Char) → List Char → List Char × List Char
  | read, [] => (read.reverse, [])
  | read, [c] => if c = quote then (read.reverse, []) else ((c :: read).reverse, [])
  | read, c :: d :: r =>
    if c ≠ quote then untilQuote quote (c :: read) (d :: r)
    else if d = quote ∧ quote ≠ ']' then untilQuote quote (c :: read) r
    else (read.reverse, d :: r)

def closingQuote? (c : Char) : Option Char :=
  [('"', '"'), ('\x60', '\x60'), ('[', ']')].lookup c

def splitNumber (s : List Char) : List Char × List Char :=
  match s with
  | '0' :: x :: r =>
    if x = 'x' ∨ x = 'X' then ('0' :: x :: r.takeWhile Char.isAlphanum, r.dropWhile Char.isAlphanum)
    else splitDecimal s
  | s => splitDecimal s
where
  splitDecimal (s : List Char) : List Char × List Char :=
    let afterWhole := s.dropWhile Char.isDigit
    let afterPoint := match afterWhole with
      | '.' :: r => r.dropWhile Char.isDigit
      | r => r
    let afterMark := match afterPoint with
      | e :: '+' :: d :: r | e :: '-' :: d :: r | e :: d :: r =>
        if (e = 'e' ∨ e = 'E') ∧ d.isDigit then r.dropWhile Char.isDigit else afterPoint
      | r => r
    (s.take (s.length - afterMark.length), afterMark)

def doubleMarks : List (List Char) :=
  ["||", "<<", ">>", "<=", ">=", "==", "!=", "<>", "->"].map String.toList

def startsNumber : List Char → Bool
  | '.' :: c :: _ => c.isDigit
  | c :: _ => c.isDigit
  | [] => false

def splitToken (c : Char) (r : List Char) : Token × List Char :=
  match closingQuote? c with
  | some quote =>
    let (inside, rest) := untilQuote quote [] r
    (.quoted (String.ofList inside), rest)
  | none =>
    if c = '\'' then
      let (inside, rest) := untilQuote '\'' [] r
      (.string (String.ofList inside), rest)
    else if (c = 'x' ∨ c = 'X') ∧ r.head? = some '\'' then
      let (inside, rest) := untilQuote '\'' [] r.tail
      (.blob (String.ofList inside), rest)
    else if startsNumber (c :: r) then
      let (number, rest) := splitNumber (c :: r)
      (.number (String.ofList number), rest)
    else if isNameChar c then
      (.word (String.ofList (c :: r.takeWhile isNameChar)), r.dropWhile isNameChar)
    else if doubleMarks.contains (c :: r.take 1) then (.mark (String.ofList (c :: r.take 1)), r.tail)
    else (.mark (String.singleton c), r)

def skipGap? : List Char → Option (List Char)
  | '-' :: '-' :: r => some (r.dropWhile (· ≠ '\n'))
  | '/' :: '*' :: r => some (((cut? "*/".toList r).map (·.2)).getD [])
  | c :: r => if isSpace c then some r else none
  | [] => none

/-- The tokens of a text after a gap. Each step takes one character at least, so that the length of
the text bounds the number of steps. -/
def lexemesFrom : (room : Nat) → (gap : List Char) → List Char → List Lexeme
  | 0, _, _ => []
  | _, _, [] => []
  | room + 1, gap, c :: r =>
    match skipGap? (c :: r) with
    | some rest =>
      lexemesFrom room (gap ++ (c :: r).take ((c :: r).length - rest.length)) rest
    | none =>
      let (token, rest) := splitToken c r
      ⟨token, gap, (c :: r).take ((c :: r).length - rest.length)⟩ :: lexemesFrom room [] rest

def lexemes (s : String) : List Lexeme :=
  lexemesFrom (s.toList.length + 1) [] s.toList

def writtenText : List Lexeme → String
  | [] => ""
  | l :: rest => String.ofList (l.written ++ rest.flatMap fun l => l.gap ++ l.written)

def reservedWords : List String :=
  ["ADD", "ALL", "ALTER", "AND", "AS", "AUTOINCREMENT", "BETWEEN", "CASE", "CHECK", "COLLATE",
    "COMMIT", "CONSTRAINT", "CREATE", "DEFAULT", "DEFERRABLE", "DELETE", "DISTINCT", "DROP", "ELSE",
    "ESCAPE", "EXCEPT", "EXISTS", "FOREIGN", "FROM", "GROUP", "HAVING", "IN", "INDEX", "INSERT",
    "INTERSECT", "INTO", "IS", "ISNULL", "JOIN", "LIMIT", "NOT", "NOTHING", "NOTNULL", "NULL", "ON",
    "OR", "ORDER", "PRIMARY", "REFERENCES", "RETURNING", "SELECT", "SET", "TABLE", "THEN", "TO",
    "TRANSACTION", "UNION", "UNIQUE", "UPDATE", "USING", "VALUES", "WHEN", "WHERE"]

namespace Lexeme

def isKeyword (keyword : String) (l : Lexeme) : Bool :=
  match l.token with
  | .word s => s.toUpper == keyword
  | _ => false

def isMark (s : String) (l : Lexeme) : Bool :=
  l.token == .mark s

def name? (l : Lexeme) : Option String :=
  match l.token with
  | .word s => if reservedWords.contains s.toUpper then none else some s
  | .quoted s | .string s => some s
  | _ => none

end Lexeme

def afterKeywords? : List String → List Lexeme → Option (List Lexeme)
  | [], s => some s
  | keyword :: more, l :: rest => if l.isKeyword keyword then afterKeywords? more rest else none
  | _ :: _, [] => none

def skipKeywords (keywords : List String) (s : List Lexeme) : List Lexeme :=
  (afterKeywords? keywords s).getD s

def afterMark? (mark : String) : List Lexeme → Option (List Lexeme)
  | l :: rest => if l.isMark mark then some rest else none
  | [] => none

def name? : List Lexeme → Option (String × List Lexeme)
  | l :: rest => l.name?.map (·, rest)
  | [] => none

def afterClosing : (depth : Nat) → List Lexeme → List Lexeme
  | _, [] => []
  | depth, l :: rest =>
    if l.isMark "(" then afterClosing (depth + 1) rest
    else if l.isMark ")" then (if depth = 0 then rest else afterClosing (depth - 1) rest)
    else afterClosing depth rest

def sameName (a b : String) : Bool :=
  a.toList.map Char.toLower == b.toList.map Char.toLower

end LookupEnums.Sql
