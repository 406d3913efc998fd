import LookupEnums.Terminal.EmojiNames
import LookupEnums.Text.Blank
import LookupEnums.Text.Cut
import LookupEnums.Text.Digits
import LookupEnums.Text.LowerCase

/-! # Markup

A tag is a style in square brackets, closed by its name after a slash or by a slash alone. An odd
number of backslashes before a bracket takes its meaning away. Styles do not show here, so what is
left of a text is what stands outside its tags, with pictures in the place of their names.

A name between colons stands for a picture, whatever the letter case of the name. An ending of the
name asks for the picture as text or in colour. A name that is not known stays as it is.
-/

namespace LookupEnums
open Text

namespace Emoji

def pairUp : List String → List (String × String)
  | name :: codes :: rest => (name, codes) :: pairUp rest
  | _ => []

def ofCodes (codes : String) : List Char :=
  (pieces ['-'] codes.toList).map fun digits => Char.ofNat ((readHex? digits).getD 0)

def table : List (String × String) :=
  nameLines.flatMap fun line => pairUp (line.splitOn " ")

def picture? (name : List Char) : Option (List Char) :=
  (table.lookup (String.ofList (lowered name))).map ofCodes

structure Code where
  name : List Char
  form : List Char
  length : Nat
  deriving DecidableEq, Repr

def ending? : List Char → Option Code
  | ':' :: _ => some ⟨[], [], 1⟩
  | '-' :: 't' :: 'e' :: 'x' :: 't' :: ':' :: _ => some ⟨[], ['\ufe0e'], 6⟩
  | '-' :: 'e' :: 'm' :: 'o' :: 'j' :: 'i' :: ':' :: _ => some ⟨[], ['\ufe0f'], 7⟩
  | _ => none

def code? : List Char → Option Code
  | [] => none
  | c :: r =>
    match ending? (c :: r) with
    | some code => some code
    | none =>
      if isBlank c then none
      else (code? r).map fun code => { code with name := c :: code.name, length := code.length + 1 }

def shownFrom : (skip : Nat) → List Char → List Char
  | _, [] => []
  | skip + 1, _ :: r => shownFrom skip r
  | 0, c :: r =>
    match if c = ':' then code? r else none with
    | none => c :: shownFrom 0 r
    | some code =>
      match picture? code.name with
      | some picture => picture ++ code.form ++ shownFrom code.length r
      | none => c :: r.take code.length ++ shownFrom code.length r

def shown (s : List Char) : List Char :=
  shownFrom 0 s

end Emoji

namespace Markup

structure TagPlace where
  slashes : Nat
  content : List Char
  deriving DecidableEq, Repr

namespace TagPlace

def length (p : TagPlace) : Nat :=
  p.slashes + p.content.length + 2

def bracketed (p : TagPlace) : List Char :=
  '[' :: p.content ++ [']']

end TagPlace

def startsTag (c : Char) : Bool :=
  ('a' ≤ c && c ≤ 'z') || c == '#' || c == '/' || c == '@'

def tagAt? (s : List Char) : Option TagPlace :=
  let slashes := (s.takeWhile (· = '\\')).length
  match s.drop slashes with
  | '[' :: c :: r =>
    let inside := r.takeWhile fun d => d != '[' && d != ']'
    match r.drop inside.length with
    | ']' :: _ => if startsTag c then some ⟨slashes, c :: inside⟩ else none
    | _ => none
  | _ => none

def escapeFrom : (skip : Nat) → List Char → List Char
  | _, [] => []
  | skip + 1, _ :: r => escapeFrom skip r
  | 0, c :: r =>
    match tagAt? (c :: r) with
    | some p => List.replicate (2 * p.slashes + 1) '\\' ++ p.bracketed ++ escapeFrom (p.length - 1) r
    | none => c :: escapeFrom 0 r

/-- A text whose tags are shown; a single backslash at its end is doubled. -/
def escape (s : List Char) : List Char :=
  let e := escapeFrom 0 s
  match e.reverse with
  | '\\' :: '\\' :: _ => e
  | '\\' :: _ => e ++ ['\\']
  | _ => e

inductive Piece
  | plain (s : List Char)
  /-- What backslashes have kept. -/
  | kept (s : List Char)
  | tag (content : List Char)
  deriving DecidableEq, Repr

def consPlain (c : Char) : List Piece → List Piece
  | .plain s :: rest => .plain (c :: s) :: rest
  | rest => .plain [c] :: rest

def TagPlace.pieces (p : TagPlace) : List Piece :=
  let before := if p.slashes < 2 then [] else [.kept (List.replicate (p.slashes / 2) '\\')]
  before ++ [if p.slashes % 2 = 1 then .kept p.bracketed else .tag p.content]

def piecesFrom : (skip : Nat) → List Char → List Piece
  | _, [] => []
  | skip + 1, _ :: r => piecesFrom skip r
  | 0, c :: r =>
    match tagAt? (c :: r) with
    | some p => p.pieces ++ piecesFrom (p.length - 1) r
    | none => consPlain c (piecesFrom 0 r)

def styleNames : List (String × String) :=
  [("b", "bold"), ("d", "dim"), ("i", "italic"), ("u", "underline"), ("r", "reverse"),
    ("c", "conceal"), ("s", "strike"), ("o", "overline"), ("uu", "underline2")]

def styleName (content : List Char) : String :=
  let name := String.ofList (lowered (strip (cutOrAll ['='] content).1))
  (styleNames.lookup name).getD name

/-- The text outside the tags, unless a tag closes what is not open. `opened` holds the styles that
are open, the last one first. -/
def outside? (opened : List String) : List Piece → Option (List Char)
  | [] => some []
  | .plain s :: rest =>
    (outside? opened rest).map (Emoji.shown (replaceAll ['\\', '['] ['['] s) ++ ·)
  | .kept s :: rest => (outside? opened rest).map (Emoji.shown s ++ ·)
  | .tag ('/' :: content) :: rest =>
    let name := styleName content
    if name.isEmpty then
      match opened with
      | [] => none
      | _ :: opened => outside? opened rest
    else if opened.contains name then outside? (opened.erase name) rest
    else none
  | .tag content :: rest => outside? (styleName content :: opened) rest

def shown? (s : List Char) : Option (List Char) :=
  if s.contains '[' then outside? [] (piecesFrom 0 s) else some (Emoji.shown s)

end Markup

end LookupEnums
