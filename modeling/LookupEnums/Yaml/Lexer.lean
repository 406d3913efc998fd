import LookupEnums.Yaml.Properties
import LookupEnums.Yaml.Scalars

/-! # Tokens of a text

Indentation opens and closes blocks, and a token that a colon follows on its line turns out to be a
key only then: its place is remembered until the colon comes or can no longer come. -/

namespace LookupEnums.Yaml

/-- A place where a key may have started. -/
structure KeyPlace where
  /-- How many tokens come before it. -/
  tokens : Nat
  /-- It is a key or nothing: no other text may stand at this column. -/
  required : Bool
  index : Nat
  line : Nat
  column : Nat

structure Lexer where
  cursor : Cursor
  tokens : Array Token := #[]
  flowLevel : Nat := 0
  /-- The column of the innermost block; -1 outside of any. -/
  indent : Int := -1
  outerIndents : List Int := []
  keyAllowed : Bool := true
  /-- The places of possible keys by flow level. -/
  places : List (Nat × KeyPlace) := []

namespace Lexer

def inFlow (s : Lexer) : Bool :=
  s.flowLevel != 0

def push (s : Lexer) (t : Token) : Lexer :=
  { s with tokens := s.tokens.push t }

def take (s : Lexer) (n : Nat) (t : Token) : Lexer :=
  { s.push t with cursor := s.cursor.forward n }

def column (s : Lexer) : Int :=
  s.cursor.column

/-- How far behind its start a key may have its colon. -/
def keyReach : Nat := 1024

def isStale (s : Lexer) (p : KeyPlace) : Bool :=
  p.line != s.cursor.line || s.cursor.index - p.index > keyReach

def dropStale (s : Lexer) : Read Lexer :=
  if s.places.any fun p => s.isStale p.2 && p.2.required then .error .malformed
  else .ok { s with places := s.places.filter fun p => !s.isStale p.2 }

def dropPlace (s : Lexer) : Read Lexer :=
  match s.places.lookup s.flowLevel with
  | some p =>
    if p.required then .error .malformed
    else .ok { s with places := s.places.filter fun p => p.1 != s.flowLevel }
  | none => .ok s

def savePlace (s : Lexer) : Read Lexer :=
  if !s.keyAllowed then .ok s
  else do
    let required := !s.inFlow && s.indent = s.column
    let s ← s.dropPlace
    let c := s.cursor
    let place : KeyPlace := ⟨s.tokens.size, required, c.index, c.line, c.column⟩
    return { s with places := (s.flowLevel, place) :: s.places }

def unwindFrom (column indent : Int) (tokens : Array Token) :
    List Int → Int × List Int × Array Token
  | [] => if column < indent then (-1, [], tokens.push .blockEnd) else (indent, [], tokens)
  | outer :: rest =>
    if column < indent then unwindFrom column outer (tokens.push .blockEnd) rest
    else (indent, outer :: rest, tokens)

def unwind (s : Lexer) (column : Int) : Lexer :=
  if s.inFlow then s
  else
    let (indent, outerIndents, tokens) := unwindFrom column s.indent s.tokens s.outerIndents
    { s with indent, outerIndents, tokens }

def indentTo (s : Lexer) (column : Int) : Lexer × Bool :=
  if s.indent < column then
    ({ s with indent := column, outerIndents := s.indent :: s.outerIndents }, true)
  else (s, false)

def skipToToken : (fuel : Nat) → Lexer → Lexer
  | 0, s => s
  | fuel + 1, s =>
    let c := s.cursor.skipBlanks
    let c := if c.here = some '#' then c.skipLine else c
    match c.takeBreak? with
    | none => { s with cursor := c }
    | some (_, c) => skipToToken fuel { s with cursor := c, keyAllowed := s.keyAllowed || !s.inFlow }

/-- The byte order mark may stand at the very start. -/
def skipMark (s : Lexer) : Lexer :=
  if s.cursor.index = 0 && s.cursor.here = some byteOrderMark then
    { s with cursor := s.cursor.step }
  else s

def outermost (s : Lexer) : Read Lexer := do
  let s ← (s.unwind (-1)).dropPlace
  return { s with keyAllowed := false }

def openFlow (s : Lexer) (t : Token) : Read Lexer := do
  let s ← s.savePlace
  return { s.take 1 t with flowLevel := s.flowLevel + 1, keyAllowed := true }

def closeFlow (s : Lexer) (t : Token) : Read Lexer := do
  let s ← s.dropPlace
  if s.flowLevel = 0 then throw .malformed
  return { s.take 1 t with flowLevel := s.flowLevel - 1, keyAllowed := false }

def startBlock (s : Lexer) (t : Token) : Read Lexer :=
  if s.inFlow then .ok s
  else if !s.keyAllowed then .error .malformed
  else
    let (s, opened) := s.indentTo s.column
    .ok (if opened then s.push t else s)

def flowEntry (s : Lexer) : Read Lexer := do
  let s ← { s with keyAllowed := true }.dropPlace
  return s.take 1 .flowEntry

def blockEntry (s : Lexer) : Read Lexer := do
  let s ← s.startBlock .blockSequenceStart
  let s ← { s with keyAllowed := true }.dropPlace
  return s.take 1 .blockEntry

def explicitKey (s : Lexer) : Read Lexer := do
  let s ← s.startBlock .blockMappingStart
  let s ← { s with keyAllowed := !s.inFlow }.dropPlace
  return s.take 1 .key

def markKey (s : Lexer) (p : KeyPlace) : Lexer :=
  let s := { s with
    places := s.places.filter fun q => q.1 != s.flowLevel
    tokens := s.tokens.insertIdxIfInBounds p.tokens .key }
  let (s, opened) := if s.inFlow then (s, false) else s.indentTo p.column
  let tokens :=
    if opened then s.tokens.insertIdxIfInBounds p.tokens .blockMappingStart else s.tokens
  { s with tokens, keyAllowed := false }

def value (s : Lexer) : Read Lexer := do
  match s.places.lookup s.flowLevel with
  | some p => return (s.markKey p).take 1 .value
  | none =>
    let s ← s.startBlock .blockMappingStart
    let s ← { s with keyAllowed := !s.inFlow }.dropPlace
    return s.take 1 .value

def content (s : Lexer) (read : Cursor → Read (Token × Cursor)) : Read Lexer := do
  let s ← s.savePlace
  let (t, cursor) ← read s.cursor
  return { s.push t with cursor, keyAllowed := false }

def block (s : Lexer) (folded : Bool) : Read Lexer := do
  let s ← { s with keyAllowed := true }.dropPlace
  let (t, cursor) ← blockScalar folded s.indent s.cursor
  return { s.push t with cursor }

def plain (s : Lexer) : Read Lexer := do
  let s ← s.savePlace
  let r := plainFrom s.inFlow (s.indent + 1) s.cursor.room [] false s.cursor
  let t := Token.scalar (String.ofList r.content) true
  return { s.push t with cursor := r.cursor, keyAllowed := r.lineEnded }

def directive (s : Lexer) : Read Lexer := do
  let s ← s.outermost
  let (d, cursor) ← directiveLine s.cursor
  return { s.push (.directive d) with cursor }

def separator (s : Lexer) (t : Token) : Read Lexer := do
  let s ← s.outermost
  return s.take 3 t

/-- The characters a plain scalar cannot start with, or not unless text follows. -/
def indicators : List Char := "-?:,[]\x7b\x7d#&*!|>'\"%@\x60".toList

def startsPlain (s : Lexer) (ch : Char) : Bool :=
  (!endsToken (some ch) && !indicators.contains ch)
    || (!endsToken (s.cursor.peek 1)
      && (ch == '-' || (!s.inFlow && (ch == '?' || ch == ':'))))

def token (s : Lexer) (ch : Char) : Read Lexer :=
  let alone := endsToken (s.cursor.peek 1)
  let atStart := s.cursor.column = 0
  if ch = '%' && atStart then s.directive
  else if ch = '-' && atStart && s.cursor.atSeparator then s.separator .documentStart
  else if ch = '.' && atStart && s.cursor.atSeparator then s.separator .documentEnd
  else if ch = '[' then s.openFlow .flowSequenceStart
  else if ch = '{' then s.openFlow .flowMappingStart
  else if ch = ']' then s.closeFlow .flowSequenceEnd
  else if ch = '}' then s.closeFlow .flowMappingEnd
  else if ch = ',' then s.flowEntry
  else if ch = '-' && alone then s.blockEntry
  else if ch = '?' && (s.inFlow || alone) then s.explicitKey
  else if ch = ':' && (s.inFlow || alone) then s.value
  else if ch = '*' then s.content fun c => (anchorName c).map fun (n, c) => (.reference n, c)
  else if ch = '&' then s.content fun c => (anchorName c).map fun (n, c) => (.anchor n, c)
  else if ch = '!' then s.content fun c => (tagName c).map fun (t, c) => (.tag t, c)
  else if ch = '|' && !s.inFlow then s.block false
  else if ch = '>' && !s.inFlow then s.block true
  else if ch = '\'' || ch = '"' then s.content (quotedScalar ch)
  else if s.startsPlain ch then s.plain
  else .error .malformed

/-- Tokens up to the end of the text. Each takes a character at least. -/
def run : (fuel : Nat) → Lexer → Read (Array Token)
  | 0, _ => .error .malformed
  | fuel + 1, s => do
    let s := s.skipMark
    let s ← (skipToToken s.cursor.room s).dropStale
    let s := s.unwind s.column
    match s.cursor.here with
    | none =>
      let s ← (s.unwind (-1)).dropPlace
      return s.tokens.push .streamEnd
    | some ch =>
      let s ← s.token ch
      run fuel s

end Lexer

def isAllowed (c : Char) : Bool :=
  let n := c.toNat
  n == 0x09 || n == 0x0a || n == 0x0d || (0x20 ≤ n && n ≤ 0x7e) || n == 0x85
    || (0xa0 ≤ n && n ≤ 0xfffd) || 0x10000 ≤ n

def tokens (s : List Char) : Read (List Token) :=
  if !s.all isAllowed then .error .malformed
  else ((Lexer.run (s.length + 1) { cursor := .start s }).map Array.toList)

end LookupEnums.Yaml
