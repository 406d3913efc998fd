/-! # Tokens

A text is read as tokens: punctuation, the starts and ends of blocks that indentation implies, and
scalars with their anchors and tags.
-/

namespace LookupEnums.Yaml

structure Cursor where
  rest : List Char
  /-- The number of all characters of the text. -/
  size : Nat
  index : Nat := 0
  line : Nat := 0
  column : Nat := 0

/-- A line break: a line feed, a carriage return, the next-line control, or one of the two Unicode
separators. -/
def isBreak (c : Char) : Bool :=
  c == '\n' || c == '\r' || c == '\x85' || c == '\u2028' || c == '\u2029'

def byteOrderMark : Char := '\ufeff'

def endsLine (c : Option Char) : Bool :=
  c.all isBreak

def endsWord (c : Option Char) : Bool :=
  c.all fun c => isBreak c || c == ' '

def endsToken (c : Option Char) : Bool :=
  c.all fun c => isBreak c || c == ' ' || c == '\t'

namespace Cursor

def start (s : List Char) : Cursor :=
  { rest := s, size := s.length }

/-- More steps than these lead to the end of the text. -/
def room (c : Cursor) : Nat :=
  c.size - c.index + 1

def peek (c : Cursor) (n : Nat) : Option Char :=
  c.rest[n]?

def here (c : Cursor) : Option Char :=
  c.rest.head?

def isLineEnd (ch : Char) (next : Option Char) : Bool :=
  if ch = '\r' then next != some '\n' else isBreak ch

/-- One character further. The byte order mark takes no column. -/
def step (c : Cursor) : Cursor :=
  match c.rest with
  | [] => c
  | ch :: rest =>
    let c := { c with rest, index := c.index + 1 }
    if isLineEnd ch rest.head? then { c with line := c.line + 1, column := 0 }
    else if ch = byteOrderMark then c
    else { c with column := c.column + 1 }

def forward : Nat → Cursor → Cursor
  | 0, c => c
  | n + 1, c => forward n c.step

def takeWhile (c : Cursor) (p : Char → Bool) : List Char × Cursor :=
  let front := c.rest.takeWhile p
  (front, forward front.length c)

def skipWhile (c : Cursor) (p : Char → Bool) : Cursor :=
  (c.takeWhile p).2

def skipBlanks (c : Cursor) : Cursor :=
  c.skipWhile (· = ' ')

def skipLine (c : Cursor) : Cursor :=
  c.skipWhile fun ch => !isBreak ch

def startsWith (c : Cursor) (s : List Char) : Bool :=
  s.isPrefixOf c.rest

/-- Passes over a line break; all but the Unicode separators count as a line feed. -/
def takeBreak? (c : Cursor) : Option (Char × Cursor) :=
  match c.rest with
  | '\r' :: '\n' :: _ => some ('\n', forward 2 c)
  | ch :: _ =>
    if ch = '\u2028' || ch = '\u2029' then some (ch, c.step)
    else if isBreak ch then some ('\n', c.step)
    else none
  | [] => none

def skipBreak (c : Cursor) : Cursor :=
  ((c.takeBreak?).map (·.2)).getD c

def atSeparator (c : Cursor) : Bool :=
  (c.startsWith ['-', '-', '-'] || c.startsWith ['.', '.', '.']) && endsToken (c.peek 3)

end Cursor

structure TagName where
  handle : Option String
  name : String
  deriving DecidableEq, Repr

inductive Directive
  | version (major minor : Nat)
  | tag (handle replacement : String)
  | other
  deriving DecidableEq, Repr

inductive Token
  | streamEnd
  | directive (d : Directive)
  | documentStart
  | documentEnd
  | blockSequenceStart
  | blockMappingStart
  | blockEnd
  | flowSequenceStart
  | flowMappingStart
  | flowSequenceEnd
  | flowMappingEnd
  | blockEntry
  | flowEntry
  | key
  | value
  | reference (name : String)
  | anchor (name : String)
  | tag (t : TagName)
  | scalar (content : String) (isPlain : Bool)
  deriving DecidableEq, Repr

/-- Why a text cannot be read: it breaks the rules of the syntax, or it asks for something that does
not exist, such as a character beyond the last one. -/
inductive Failure
  | malformed
  | badValue
  | unknownWord
  | tooShort
  | noMatch
  | notText
  /-- Something that contains itself, or is too deep; `before` are the texts that come before it. -/
  | endless (before : List String)
  deriving DecidableEq, Repr

abbrev Read (α : Type) := Except Failure α

end LookupEnums.Yaml
