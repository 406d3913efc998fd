import LookupEnums.Json.Basic
import LookupEnums.Text.Digits

/-! # Reading JSON

A text falls into tokens, and a value is read off the tokens; the fields of an object keep their
order. Numbers are whole numbers or doubles. -/

namespace LookupEnums
open Text

namespace Json

inductive Token
  | mark (c : Char)
  | scalar (j : Json)

def unit? (s : List Char) : Option (Nat × List Char) :=
  if (s.take 4).length = 4 then (readHex? (s.take 4)).map fun n => (n, s.drop 4) else none

def simpleEscape? (c : Char) : Option Char :=
  [('"', '"'), ('\\', '\\'), ('/', '/'), ('b', '\x08'), ('f', '\x0c'), ('n', '\n'), ('r', '\r'),
    ('t', '\t')].lookup c

/-- Two halves of a pair make a character beyond the basic plane; a half alone is not one. -/
def character? (high : Nat) (rest : List Char) : Option (Char × List Char) :=
  if 0xd800 ≤ high ∧ high < 0xdc00 then
    match rest with
    | '\\' :: 'u' :: more => do
      let (low, more) ← unit? more
      if 0xdc00 ≤ low ∧ low < 0xe000 then
        some (Char.ofNat (0x10000 + (high - 0xd800) * 0x400 + (low - 0xdc00)), more)
      else none
    | _ => none
  else some (Char.ofNat high, rest)

/-- The characters up to the closing quote, with their escapes undone and no bare control among
them; each step takes one character at least, so the length of the text bounds their number. -/
def stringFrom? : (fuel : Nat) → (read : List Char) → List Char → Option (String × List Char)
  | 0, _, _ => none
  | _ + 1, _, [] => none
  | _ + 1, read, '"' :: rest => some (String.ofList read.reverse, rest)
  | fuel + 1, read, '\\' :: 'u' :: rest => do
    let (n, rest) ← unit? rest
    let (c, rest) ← character? n rest
    stringFrom? fuel (c :: read) rest
  | fuel + 1, read, '\\' :: c :: rest => do
    let d ← simpleEscape? c
    stringFrom? fuel (d :: read) rest
  | fuel + 1, read, c :: rest => if c < ' ' then none else stringFrom? fuel (c :: read) rest

def isMark (c : Char) : Bool :=
  c == '[' || c == ']' || c == '{' || c == '}' || c == ',' || c == ':'

def isSpace (c : Char) : Bool :=
  c == ' ' || c == '\t' || c == '\n' || c == '\r'

def isWordChar (c : Char) : Bool :=
  !isMark c && !isSpace c && c != '"'

def magnitude? (negative : Bool) (s : List Char) : Option Json := do
  let whole := s.takeWhile Char.isDigit
  let n ← readDecimal? whole
  if whole.head? = some '0' && whole.length > 1 then none
  else match s.dropWhile Char.isDigit with
    | [] => some (int (if negative then -n else n))
    | '.' :: r =>
      let places := r.takeWhile Char.isDigit
      let fraction ← readDecimal? places
      let e ← readExponent? (r.dropWhile Char.isDigit)
      let digits := n * Nat.pow 10 places.length + fraction
      some (float (.ofScientific negative digits (e - places.length)))
    | r => (readExponent? r).map fun e => float (.ofScientific negative n e)

def number? : List Char → Option Json
  | '-' :: r => magnitude? true r
  | r => magnitude? false r

def words : List (List Char × Json) :=
  [("null".toList, null), ("true".toList, bool true), ("false".toList, bool false),
    ("NaN".toList, float .nan), ("Infinity".toList, float (.infinite false)),
    ("-Infinity".toList, float (.infinite true))]

def word? (w : List Char) : Option Json :=
  (words.lookup w).or (number? w)

def tokensFrom? : (fuel : Nat) → List Char → Option (List Token)
  | _, [] => some []
  | 0, _ :: _ => none
  | fuel + 1, c :: r =>
    if isSpace c then tokensFrom? fuel r
    else if isMark c then (tokensFrom? fuel r).map (.mark c :: ·)
    else if c == '"' then do
      let (s, rest) ← stringFrom? (r.length + 1) [] r
      (tokensFrom? fuel rest).map (.scalar (str s) :: ·)
    else do
      let j ← word? (c :: r.takeWhile isWordChar)
      (tokensFrom? fuel (r.dropWhile isWordChar)).map (.scalar j :: ·)

def tokens? (s : List Char) : Option (List Token) :=
  tokensFrom? (s.length + 1) s

mutual

def valueFrom? : (fuel : Nat) → List Token → Option (Json × List Token)
  | 0, _ => none
  | _ + 1, .scalar j :: rest => some (j, rest)
  | _ + 1, .mark '[' :: .mark ']' :: rest => some (arr [], rest)
  | _ + 1, .mark '{' :: .mark '}' :: rest => some (obj [], rest)
  | fuel + 1, .mark '[' :: rest => (itemsFrom? fuel rest).map fun (items, rest) => (arr items, rest)
  | fuel + 1, .mark '{' :: rest => (fieldsFrom? fuel rest).map fun (fields, rest) => (obj fields, rest)
  | _ + 1, _ => none

def itemsFrom? : (fuel : Nat) → List Token → Option (List Json × List Token)
  | 0, _ => none
  | fuel + 1, tokens => do
    let (j, rest) ← valueFrom? fuel tokens
    match rest with
    | .mark ']' :: rest => some ([j], rest)
    | .mark ',' :: rest => (itemsFrom? fuel rest).map fun (items, rest) => (j :: items, rest)
    | _ => none

def fieldsFrom? : (fuel : Nat) → List Token → Option (List (String × Json) × List Token)
  | 0, _ => none
  | fuel + 1, .scalar (.str k) :: .mark ':' :: tokens => do
    let (j, rest) ← valueFrom? fuel tokens
    match rest with
    | .mark '}' :: rest => some ([(k, j)], rest)
    | .mark ',' :: rest => (fieldsFrom? fuel rest).map fun (fields, rest) => ((k, j) :: fields, rest)
    | _ => none
  | _ + 1, _ => none

end

def read? (s : String) : Option Json := do
  let tokens ← tokens? s.toList
  match ← valueFrom? (tokens.length + 1) tokens with
  | (j, []) => some j
  | _ => none

end Json

end LookupEnums
