import LookupEnums.Config.Substitution
import LookupEnums.Text.Blank
import LookupEnums.Text.Cut
import LookupEnums.Text.LowerCase

/-! # Files of variables

One variable a line, `NAME=value` with an optional `export` before it; values may be quoted, and
outside quotes a blank before `#` starts a comment. A line that cannot be read is passed over, and a
name by itself unsets its variable. Values may refer to variables set before them or outside. -/

namespace LookupEnums
open Text

namespace DotEnv

def isInlineBlank (c : Char) : Bool :=
  isBlank c && c != '\n' && c != '\r'

def isLineBreak (c : Char) : Bool :=
  c == '\n' || c == '\r'

def skipBlanks (s : List Char) : List Char :=
  s.dropWhile isInlineBlank

def exportWord : List Char := "export".toList

def skipExport (s : List Char) : List Char :=
  if exportWord.isPrefixOf s then
    let rest := s.drop exportWord.length
    if rest.head?.any isInlineBlank then skipBlanks rest else s
  else s

def isKeyChar (c : Char) : Bool :=
  c != '=' && c != '#' && !isBlank c

def readKey? (s : List Char) : Option (Option String × List Char) :=
  match s with
  | '#' :: _ => some (none, s)
  | '\'' :: r =>
    let key := r.takeWhile (· ≠ '\'')
    if key.isEmpty || key.length = r.length then none
    else some (some (String.ofList key), r.drop (key.length + 1))
  | _ =>
    let key := s.takeWhile isKeyChar
    if key.isEmpty then none else some (some (String.ofList key), s.drop key.length)

/-- The characters up to a closing quote, in which a backslash guards a quote. -/
def quotedPart? (mark : Char) : List Char → Option (List Char × List Char)
  | [] => none
  | '\\' :: c :: r =>
    if c = mark then
      match quotedPart? mark r with
      | some (inside, rest) => some ('\\' :: c :: inside, rest)
      | none => some (['\\'], r)
    else (quotedPart? mark (c :: r)).map fun (inside, rest) => ('\\' :: inside, rest)
  | c :: r =>
    if c = mark then some ([], r)
    else (quotedPart? mark r).map fun (inside, rest) => (c :: inside, rest)

def doubleEscapes : List (Char × Char) :=
  [('\\', '\\'), ('\'', '\''), ('"', '"'), ('a', '\x07'), ('b', '\x08'), ('f', '\x0c'), ('n', '\n'),
    ('r', '\r'), ('t', '\t'), ('v', '\x0b')]

def singleEscapes : List (Char × Char) :=
  [('\\', '\\'), ('\'', '\'')]

def unescape (table : List (Char × Char)) : List Char → List Char
  | '\\' :: c :: r =>
    match table.lookup c with
    | some d => d :: unescape table r
    | none => '\\' :: unescape table (c :: r)
  | c :: r => c :: unescape table r
  | [] => []

def withoutComment : List Char → List Char
  | [] => []
  | c :: r =>
    if isBlank c && ((c :: r).dropWhile isBlank).head? = some '#' then [] else c :: withoutComment r

def readValue? (s : List Char) : Option (List Char × List Char) :=
  match s with
  | '\'' :: r => (quotedPart? '\'' r).map fun (v, rest) => (unescape singleEscapes v, rest)
  | '"' :: r => (quotedPart? '"' r).map fun (v, rest) => (unescape doubleEscapes v, rest)
  | _ =>
    let line := s.takeWhile fun c => !isLineBreak c
    some (stripEnd (withoutComment line), s.drop line.length)

def endLine? (s : List Char) : Option (List Char) :=
  let s := skipBlanks s
  let s := if s.head? = some '#' then s.dropWhile fun c => !isLineBreak c else s
  match s with
  | [] => some []
  | '\r' :: '\n' :: r => some r
  | c :: r => if isLineBreak c then some r else none

def restOfLine (s : List Char) : List Char :=
  (s.dropWhile fun c => !isLineBreak c).drop 1

abbrev Binding := String × Option (List Char)

structure LineResult where
  binding : Option Binding
  rest : List Char

def readLine (s : List Char) : LineResult :=
  let s := skipExport s
  match readKey? s with
  | none => ⟨none, restOfLine s⟩
  | some (key, s) =>
    let s := skipBlanks s
    let value := match s with
      | '=' :: r => (readValue? (skipBlanks r)).map fun (v, rest) => (some v, rest)
      | _ => some (none, s)
    match value with
    | none => ⟨none, restOfLine s⟩
    | some (v, rest) =>
      match endLine? rest with
      | some rest => ⟨key.map (·, v), rest⟩
      | none => ⟨none, restOfLine rest⟩

/-- The bindings of a text; each line takes a character at least, so the length of the text bounds
their number. -/
def bindingsFrom : (fuel : Nat) → List Char → List Binding
  | 0, _ => []
  | fuel + 1, s =>
    match s.dropWhile isBlank with
    | [] => []
    | s =>
      let r := readLine s
      r.binding.toList ++ bindingsFrom fuel r.rest

def bindings (s : List Char) : List Binding :=
  bindingsFrom (s.length + 1) s

def reference? : List Char → Option ((List Char × List Char) × Nat)
  | '$' :: '{' :: r =>
    let name := r.takeWhile fun c => c != '}' && c != ':'
    match r.drop name.length with
    | '}' :: _ => some ((name, []), name.length + 3)
    | ':' :: '-' :: tail =>
      let fallback := tail.takeWhile (· ≠ '}')
      if fallback.length < tail.length then
        some ((name, fallback), name.length + fallback.length + 5)
      else none
    | _ => none
  | _ => none

abbrev Known := List (String × Option String)

/-- A value with its variables replaced; one that is unset is empty. `skip` characters are taken
already. -/
def expandFrom (known : Known) : (skip : Nat) → List Char → List Char
  | _, [] => []
  | skip + 1, _ :: r => expandFrom known skip r
  | 0, c :: r =>
    match reference? (c :: r) with
    | some ((name, fallback), n) =>
      let value := match known.lookup (String.ofList name) with
        | some v => (v.getD "").toList
        | none => fallback
      value ++ expandFrom known (n - 1) r
    | none => c :: expandFrom known 0 r

def setVariable (name : String) (value : Option String) : Known → Known
  | [] => [(name, value)]
  | (n, v) :: rest =>
    if n = name then (n, value) :: rest else (n, v) :: setVariable name value rest

/-- The variables of a file in order; inside values, those set before win over those from
outside. -/
def resolve (outside : Environment) : (set : Known) → List Binding → Known
  | set, [] => set
  | set, (name, value) :: rest =>
    let known := set ++ outside.map fun (n, v) => (n, some v)
    let value := value.map fun v => String.ofList (expandFrom known 0 v)
    resolve outside (setVariable name value set) rest

def isCalled (name : String) (v : String × α) : Bool :=
  lowered v.1.toList == lowered name.toList

def setOf (known : Known) : Environment :=
  known.foldl (fun set (name, value) => match value with
    | some v => set ++ [(name, v)]
    | none => set.filter (!isCalled name ·)) []

def read (outside : Environment) (text : String) : Environment :=
  setOf (resolve outside [] (bindings (unifyLineEnds text.toList)))

end DotEnv

end LookupEnums
