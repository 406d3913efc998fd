import LookupEnums.Sql.Format
import LookupEnums.Text.Cut

/-! # Functions of statements

The functions of single data and those of the data of a group of rows. A function that is not known,
or has another number of arguments, has no result at all.

Patterns have two forms: in the first `%` stands for any text and `_` for any character, whatever the
case of the letters of ASCII; in the second these are `*` and `?`, brackets hold a set of characters,
and case counts.
-/

namespace LookupEnums.Sql.Pattern

inductive Piece
  | anyText
  | anyChar
  | oneOf (accepts : Char → Bool)

/-- What is left of a text from each of its places on. -/
def suffixes : List Char → List (List Char)
  | [] => [[]]
  | c :: r => (c :: r) :: suffixes r

def accepts : List Piece → List Char → Bool
  | [], s => s.isEmpty
  | .anyText :: rest, s => (suffixes s).any fun s => accepts rest s
  | .anyChar :: rest, s => match s with
    | [] => false
    | _ :: s => accepts rest s
  | .oneOf p :: rest, s => match s with
    | [] => false
    | c :: s => p c && accepts rest s

def sameLetter (a b : Char) : Bool :=
  a.toLower == b.toLower

def likePieces (escape : Option Char) : List Char → Option (List Piece)
  | [] => some []
  | [c] =>
    if escape = some c then none
    else if c = '%' then some [.anyText]
    else if c = '_' then some [.anyChar]
    else some [.oneOf (sameLetter c)]
  | c :: d :: r => do
    if escape = some c then return .oneOf (sameLetter d) :: (← likePieces escape r)
    else
      let rest ← likePieces escape (d :: r)
      if c = '%' then return .anyText :: rest
      else if c = '_' then return .anyChar :: rest
      else return .oneOf (sameLetter c) :: rest

def setAccepts : List Char → Char → Bool
  | a :: '-' :: b :: r, c => (a ≤ c && c ≤ b) || setAccepts r c
  | a :: r, c => a == c || setAccepts r c
  | [], _ => false

def setPiece : List Char → Piece
  | '^' :: inside => .oneOf fun c => !setAccepts inside c
  | inside => .oneOf (setAccepts inside)

def globPieces : (room : Nat) → List Char → Option (List Piece)
  | _, [] => some []
  | 0, _ => none
  | room + 1, c :: r =>
    if c = '*' then (globPieces room r).map (.anyText :: ·)
    else if c = '?' then (globPieces room r).map (.anyChar :: ·)
    else if c = '[' then
      let (start, r) := match r with
        | '^' :: ']' :: r => (['^', ']'], r)
        | '^' :: r => (['^'], r)
        | ']' :: r => ([']'], r)
        | r => ([], r)
      match r.dropWhile (· ≠ ']') with
      | [] => none
      | _ :: after => (globPieces room after).map (setPiece (start ++ r.takeWhile (· ≠ ']')) :: ·)
    else (globPieces room r).map (.oneOf (· == c) :: ·)

/-- Whether a text is like a pattern; a pattern that ends in its escape fits nothing. -/
def isLike (pattern : List Char) (escape : Option Char) (s : List Char) : Bool :=
  ((likePieces escape pattern).map (accepts · s)).getD false

def isGlob (pattern s : List Char) : Bool :=
  ((globPieces pattern.length pattern).map (accepts · s)).getD false

end LookupEnums.Sql.Pattern

namespace LookupEnums.Sql
open Text

namespace Function

def strict (f : Datum → Datum) (d : Datum) : Datum :=
  if d.isNull then .null else f d

def ofChars (s : List Char) : Datum :=
  .text (String.ofList s)

def length : Datum → Datum
  | .blob content => .int content.length
  | d => .int d.chars.length

def absoluteReal : Binary64 → Binary64
  | .finite _ m e => .finite false m e
  | .infinite _ => .infinite false
  | .nan => .nan

def absolute? : Datum → Option Datum
  | .null => some .null
  | .int i => Datum.ofInt? i.natAbs
  | d => some (.ofReal (absoluteReal d.toReal))

def typeName : Datum → String
  | .null => "null"
  | .int _ => "integer"
  | .real _ => "real"
  | .text _ | .garbled _ => "text"
  | .blob _ => "blob"

/-- Where a part starts, counted from zero, and how long it is at most: places count from one, or
from the end where they are below zero, and place zero takes one from the length. -/
def partBounds (size start count : Int) : Int × Int :=
  if 0 < start then (start - 1, count)
  else if start = 0 then (0, if 0 < count then count - 1 else count)
  else if 0 ≤ start + size then (start + size, count)
  else (0, max 0 (count + start + size))

/-- A number as a place or a count, of which only the lower half of a word counts. -/
def place32 (d : Datum) : Int :=
  d.toInt.bmod 4294967296

def greatestLength : Int := 1000000000

def part {α : Type} (s : List α) (start : Int) (count : Option Int) : List α :=
  let count := count.getD greatestLength
  let (first, room) := partBounds s.length start count.natAbs
  let (first, room) := if count < 0 then (first - room, room) else (first, room)
  (s.drop first.toNat).take (room + min 0 first).toNat

def partOf (d start : Datum) (count : Option Datum) : Datum :=
  if d.isNull || start.isNull || (count.map Datum.isNull).getD false then .null
  else
    let count := count.map place32
    match d with
    | .blob content => .blob (part content (place32 start) count)
    | d => ofChars (part d.chars (place32 start) count)

def trimmed (atStart atEnd : Bool) (d set : Datum) : Datum :=
  let isTrimmed (c : Char) : Bool := set.chars.contains c
  let s := if atStart then d.chars.dropWhile isTrimmed else d.chars
  ofChars (if atEnd then (s.reverse.dropWhile isTrimmed).reverse else s)

def place (s inner : List Char) : Nat :=
  if inner.isEmpty then 1
  else match cut? inner s with
    | some (before, _) => before.length + 1
    | none => 0

def replaced (d old new : Datum) : Datum :=
  if d.isNull || old.isNull || new.isNull then .null
  else if old.chars.isEmpty then d.toText
  else ofChars (replaceAll old.chars new.chars d.chars)

def wholeLimit : Binary64 := .ofInt (Int.pow 2 52)

def nearest (x : Binary64) : Binary64 :=
  let half : Binary64 := .ofScientific (Datum.compareReals x .zero == .lt) 5 (-1)
  .ofInt (Datum.truncated (x.add half))

def rounded (d places : Datum) : Datum :=
  if d.isNull || places.isNull then .null
  else
    let x := d.toReal
    if Datum.compareReals (absoluteReal x) wholeLimit == .gt then .real x
    else match min 30 (place32 places).toNat with
      | 0 => .real (nearest x)
      | places => .real (x.roundedTo places)

def hex (d : Datum) : Datum :=
  let content := match d.toText, d with
    | _, .blob content => content
    | .text s, _ => s.toUTF8.toList
    | .garbled content, _ => content
    | _, _ => []
  ofChars (content.flatMap upperHexByte)

/-- The bytes of a character, also of one that no proper text has. -/
def characterBytes (n : Nat) : List UInt8 :=
  if n.isValidChar then Format.bytes [Char.ofNat n]
  else [n / 4096 + 224, n / 64 % 64 + 128, n % 64 + 128].map Nat.toUInt8

def ofCodes (data : List Datum) : Datum :=
  Format.datum <| data.flatMap fun d =>
    let i := d.toInt
    characterBytes (if 0 ≤ i ∧ i ≤ 0x10ffff then i.toNat else 0xfffd)

def firstCode (d : Datum) : Datum :=
  match d.chars with
  | c :: _ => .int c.toNat
  | [] => .null

def sign (d : Datum) : Datum :=
  let number := match d with
    | .text s => (Affinity.number? s.toList).getD .null
    | .int _ | .real _ => d
    | _ => .null
  if number.isNull then .null
  else match number.order .exact (.int 0) with
    | .lt => .int (-1)
    | .eq => .int 0
    | .gt => .int 1

def zeros? (d : Datum) : Option Datum :=
  let count := max 0 d.toInt
  if count ≤ greatestLength then some (.blob (List.replicate count.toNat 0)) else none

def firstPresent : List Datum → Datum
  | [] => .null
  | d :: rest => if d.isNull then firstPresent rest else d

def extreme (wanted : Ordering) (c : Collation) : List Datum → Datum
  | [] => .null
  | d :: rest => rest.foldl (fun best d => if d.order c best == wanted then d else best) d

def isMatch (f : List Char → List Char → Bool) (pattern d : Datum) : Datum :=
  if pattern.isNull || d.isNull then .null else .ofTruth (some (f pattern.chars d.chars))

def isLike (pattern d : Datum) (escape : Option Char) : Datum :=
  match pattern, d with
  | .blob _, _ | _, .blob _ => .int 0
  | pattern, d => isMatch (fun pattern s => Pattern.isLike pattern escape s) pattern d

def lower : Datum → Datum := strict fun d => ofChars (d.chars.map Char.toLower)
def upper : Datum → Datum := strict fun d => ofChars (d.chars.map Char.toUpper)

def result? (c : Collation) (name : String) (arguments : List Datum) : Option Datum :=
  match name, arguments with
  | "abs", [d] => absolute? d
  | "length", [d] => some (strict length d)
  | "lower", [d] => some (lower d)
  | "upper", [d] => some (upper d)
  | "typeof", [d] => some (.text (typeName d))
  | "hex", [d] => some (hex d)
  | "quote", [d] => some (Format.datum (Format.literal d))
  | "printf", _ | "format", _ => some (Format.result arguments)
  | "char", _ => some (ofCodes arguments)
  | "unicode", [d] => some (firstCode d)
  | "sign", [d] => some (sign d)
  | "zeroblob", [d] => zeros? d
  | "ifnull", [a, b] => some (firstPresent [a, b])
  | "coalesce", _ :: _ :: _ => some (firstPresent arguments)
  | "nullif", [a, b] => some (if a.order c b == .eq then .null else a)
  | "iif", [condition, a, b] => some (if condition.holds then a else b)
  | "min", _ :: _ :: _ =>
    some (if arguments.any Datum.isNull then .null else extreme .lt c arguments)
  | "max", _ :: _ :: _ =>
    some (if arguments.any Datum.isNull then .null else extreme .gt c arguments)
  | "trim", [d] => some (strict (trimmed true true · (.text " ")) d)
  | "ltrim", [d] => some (strict (trimmed true false · (.text " ")) d)
  | "rtrim", [d] => some (strict (trimmed false true · (.text " ")) d)
  | "trim", [d, set] => some (strict (fun set => strict (trimmed true true · set) d) set)
  | "ltrim", [d, set] => some (strict (fun set => strict (trimmed true false · set) d) set)
  | "rtrim", [d, set] => some (strict (fun set => strict (trimmed false true · set) d) set)
  | "instr", [d, inner] =>
    some (strict (fun inner => strict (fun d => .int (place d.chars inner.chars)) d) inner)
  | "replace", [d, old, new] => some (replaced d old new)
  | "substr", [d, start] | "substring", [d, start] => some (partOf d start none)
  | "substr", [d, start, count] | "substring", [d, start, count] =>
    some (partOf d start (some count))
  | "round", [d] => some (rounded d (.int 0))
  | "round", [d, places] => some (rounded d places)
  | "like", [pattern, d] => some (isLike pattern d none)
  | "like", [pattern, d, escape] => match escape.chars with
    | [e] => some (isLike pattern d (some e))
    | _ => none
  | "glob", [pattern, d] => some (isMatch Pattern.isGlob pattern d)
  | _, _ => none

/-- Whether data count as a whole number in a sum: a text does only as a whole. -/
def isWhole : Datum → Bool
  | .int _ => true
  | .text s => match Affinity.number? s.toList with
    | some (.int _) => true
    | _ => false
  | _ => false

/-- The sum of numbers, whole as long as all of them are; one too large for a word has no result. -/
def sum? (data : List Datum) : Option Datum :=
  if data.isEmpty then some .null
  else if data.all isWhole then Datum.ofInt? ((data.map Datum.toInt).foldl (· + ·) 0)
  else some (.ofReal ((data.map Datum.toReal).foldl Binary64.add .zero))

def total (data : List Datum) : Binary64 :=
  (data.map Datum.toReal).foldl Binary64.add .zero

def joined : List (Datum × Datum) → Datum
  | [] => .null
  | (d, _) :: rest => ofChars (d.chars ++ rest.flatMap fun (d, before) => before.chars ++ d.chars)

def distinct (c : Collation) (data : List Datum) : List Datum :=
  data.foldl (fun found d => if found.any (d.order c · == .eq) then found else found ++ [d]) []

def groupResult? (c : Collation) (name : String) (data : List Datum) : Option Datum :=
  let present := data.filter (!·.isNull)
  match name with
  | "count" => some (.int present.length)
  | "sum" => sum? present
  | "total" => some (.ofReal (total present))
  | "avg" =>
    some (if present.isEmpty then .null
      else .ofReal (Datum.divideReals (total present) (.ofInt present.length)))
  | "min" => some (extreme .lt c present)
  | "max" => some (extreme .gt c present)
  | "group_concat" => some (joined (present.map (·, .text ",")))
  | _ => none

def resultOfRows? (c : Collation) (name : String) (rows : List (List Datum)) : Option Datum := do
  if name = "group_concat" ∧ rows.any (·.length = 2) then
    let pairs := rows.filterMap fun
      | [d, before] => if d.isNull then none else some (d, before)
      | _ => none
    return joined pairs
  else groupResult? c name (← rows.mapM fun | [d] => some d | _ => none)

end Function

end LookupEnums.Sql
