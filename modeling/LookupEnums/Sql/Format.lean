import LookupEnums.Number.Fixed
import LookupEnums.Sql.Arithmetic

/-! # Formatted texts

A format is a text with places for arguments. A place says how its argument is written, as a whole
number, a real one, a text or a literal, and how wide it is, which is counted in bytes. A place that
is not understood ends the text. -/

namespace LookupEnums.Sql
open Text

structure FormatStyle where
  toLeft : Bool := false
  /-- What stands before a number that is not below zero. -/
  plus : List Char := []
  /-- Whether the base of a number is shown, and the point of a real one. -/
  alternate : Bool := false
  /-- Whether characters count instead of bytes, and more digits of a real number are known. -/
  full : Bool := false
  zeros : Bool := false
  grouped : Bool := false
  width : Nat := 0
  precision : Option Nat := none

namespace Format

def bytes (s : List Char) : List UInt8 :=
  (String.ofList s).toUTF8.toList

def datum (content : List UInt8) : Datum :=
  match Datum.bytesAsText content with
  | some s => .text s
  | none => .garbled content

def argument? : Datum → Option (List UInt8)
  | .null => none
  | d =>
    let content := match d.toText with
      | .text s => bytes s.toList
      | .garbled content => content
      | _ => []
    some (content.takeWhile (· ≠ 0))

def isInside (b : UInt8) : Bool :=
  128 ≤ b && b < 192

def firstCharacters : (count : Nat) → List UInt8 → List UInt8
  | _, [] => []
  | count, b :: rest =>
    if isInside b then b :: firstCharacters count rest
    else match count with
      | 0 => []
      | count + 1 => b :: firstCharacters count rest

def cut (style : FormatStyle) (content : List UInt8) : List UInt8 :=
  match style.precision with
  | none => content
  | some n => if style.full then firstCharacters n content else content.take n

/-- Spaces up to the width. -/
def padded (style : FormatStyle) (content : List UInt8) : List UInt8 :=
  let length := if style.full then (content.filter (!isInside ·)).length else content.length
  let spaces := bytes (List.replicate (style.width - length) ' ')
  if style.toLeft then content ++ spaces else spaces ++ content

def inThrees (digits : List Char) : List Char :=
  (digits.zipIdx.flatMap fun (c, k) =>
    if 0 < k && (digits.length - k) % 3 == 0 then [',', c] else [c])

def ofPlaces (style : FormatStyle) (sign digits : List Char) : List Char :=
  let least := max (style.precision.getD 0) (if style.zeros then style.width - sign.length else 0)
  let digits := zeroPadded least digits
  sign ++ if style.grouped then inThrees digits else digits

def signed (style : FormatStyle) (i : Int) : List Char :=
  ofPlaces style (if i < 0 then ['-'] else style.plus) (decimalDigits i.natAbs)

def unsigned (style : FormatStyle) (i : Int) : List Char :=
  ofPlaces style [] (decimalDigits (Word.bits i))

def based (style : FormatStyle) (base : Nat) (lead : String) (i : Int) : List Char :=
  let lead := if style.alternate && i ≠ 0 then lead.toList else []
  lead ++ ofPlaces { style with grouped := false } [] (Nat.toDigits base (Word.bits i))

def withFraction (style : FormatStyle) (dropZeros : Bool) (whole fraction : List Char) : List Char :=
  let fraction := if dropZeros then Binary64.dropTrailingZeros fraction else fraction
  if !fraction.isEmpty then whole ++ '.' :: fraction
  else if style.full && dropZeros then whole ++ ['.', '0']
  else if (style.full || style.alternate) && !dropZeros then whole ++ ['.']
  else whole

def knownDigits (style : FormatStyle) : Nat :=
  if style.full then 26 else 16

def positional (style : FormatStyle) (dropZeros : Bool) (places : Nat) (x : Binary64.Fraction)
    (power : Int) : List Char :=
  let digits := Binary64.cutDigits (knownDigits style) (power + places + 1).toNat x
  if power < 0 then
    withFraction style dropZeros ['0'] (List.replicate (-power - 1).toNat '0' ++ digits)
  else
    let whole := digits.take (power.toNat + 1)
    withFraction style dropZeros (if style.grouped then inThrees whole else whole)
      (digits.drop whole.length)

def exponential (style : FormatStyle) (dropZeros : Bool) (places : Nat) (x : Binary64.Fraction)
    (power : Int) (mark : Char) : List Char :=
  let digits := Binary64.cutDigits (knownDigits style) (places + 1) x
  withFraction style dropZeros (digits.take 1) (digits.drop 1)
    ++ mark :: (if power < 0 then '-' else '+') :: paddedDecimal 2 power.natAbs

def normalized (places mantissa : Nat) (exponent : Int) : Binary64.Fraction × Int :=
  let x := Binary64.fractionOf mantissa exponent
  let power := if mantissa = 0 then 0 else Binary64.decimalPoint x - 1
  let y := x.shifted power
  let unit := 2 * Nat.pow 10 places
  let y : Binary64.Fraction := ⟨y.num * unit + y.den, y.den * unit⟩
  if 10 * y.den ≤ y.num then (⟨y.num, y.den * 10⟩, power + 1) else (y, power)

def realDigits (style : FormatStyle) (letter : Char) (mantissa : Nat) (exponent : Int) : List Char :=
  let places := style.precision.getD 6
  let mark := if letter.isUpper then 'E' else 'e'
  match letter.toLower with
  | 'f' =>
    let x := Binary64.raised places mantissa exponent
    let power := Binary64.decimalPoint x - 1
    positional style style.full places (x.shifted power) power
  | 'e' =>
    let (x, power) := normalized places mantissa exponent
    exponential style style.full places x power mark
  | _ =>
    let places := places - 1
    let (x, power) := normalized places mantissa exponent
    let dropZeros := !style.alternate
    if power < -4 || (places : Int) < power then
      exponential style dropZeros places x power mark
    else positional style dropZeros (places - power).toNat x power

def real (style : FormatStyle) (letter : Char) : Binary64 → List Char
  | .nan => "NaN".toList
  | .infinite negative => (if negative then ['-'] else style.plus) ++ "Inf".toList
  | .finite negative m e =>
    let sign := if negative && m ≠ 0 then ['-'] else style.plus
    let digits := realDigits style letter m e
    sign ++ if style.zeros && !style.toLeft then zeroPadded (style.width - sign.length) digits
      else digits

def doubled (quote : UInt8) (content : List UInt8) : List UInt8 :=
  content.flatMap fun b => if b = quote then [b, b] else [b]

def singleQuote : UInt8 := 39
def doubleQuote : UInt8 := 34

def written? (style : FormatStyle) (letter : Char) (d : Datum) : Option (List UInt8) :=
  let text (s : List Char) : Option (List UInt8) :=
    some (padded { style with full := false } (bytes s))
  match letter with
  | 'd' | 'i' => text (signed style d.toInt)
  | 'u' => text (unsigned style d.toInt)
  | 'x' => text (based style 16 "0x" d.toInt)
  | 'X' => text ((based style 16 "0x" d.toInt).map Char.toUpper)
  | 'o' => text (based style 8 "0" d.toInt)
  | 'f' | 'e' | 'E' | 'g' | 'G' => text (real style letter d.toReal)
  | 's' | 'z' => some (padded style (cut style ((argument? d).getD [])))
  | 'c' =>
    let character := match firstCharacters 1 ((argument? d).getD []) with
      | [] => [0]
      | character => character
    some (padded { style with full := true }
      (List.replicate (max 1 (style.precision.getD 1)) character).flatten)
  | 'q' => some (padded style (doubled singleQuote (cut style ((argument? d).getD (bytes
      "(NULL)".toList)))))
  | 'w' => some (padded style (doubled doubleQuote (cut style ((argument? d).getD (bytes
      "(NULL)".toList)))))
  | 'Q' => some (padded style (match argument? d with
    | some content => singleQuote :: doubled singleQuote (cut style content) ++ [singleQuote]
    | none => cut style (bytes "NULL".toList)))
  | _ => none

def greatestWidth : Nat := 1000000

/-- Whether a text is written, of which the precision only cuts something off. -/
def isTextual (letter : Char) : Bool :=
  ['s', 'z', 'q', 'Q', 'w'].contains letter

def style? : (room : Nat) → FormatStyle → List Char → List Datum →
    Option (FormatStyle × Char × List Char × List Datum)
  | 0, _, _, _ | _, _, [], _ => none
  | room + 1, style, c :: rest, arguments =>
    let afterNumber (style : FormatStyle) (marks : List Char) (rest : List Char)
        (arguments : List Datum) : Option (FormatStyle × Char × List Char × List Datum) :=
      match rest with
      | [] => none
      | k :: after =>
        if marks.contains k then style? room style rest arguments
        else some (style, k, after, arguments)
    let given : Int := ((arguments.head?.map Datum.toInt).getD 0).bmod 4294967296
    match c with
    | '-' => style? room { style with toLeft := true } rest arguments
    | '+' | ' ' => style? room { style with plus := [c] } rest arguments
    | '#' => style? room { style with alternate := true } rest arguments
    | '!' => style? room { style with full := true } rest arguments
    | '0' => style? room { style with zeros := true } rest arguments
    | ',' => style? room { style with grouped := true } rest arguments
    | '*' =>
      afterNumber { style with toLeft := style.toLeft || given < 0, width := given.natAbs }
        ['.', 'l'] rest arguments.tail
    | '.' =>
      match rest with
      | '*' :: rest =>
        afterNumber { style with precision := some given.natAbs } ['l'] rest arguments.tail
      | rest =>
        let digits := rest.takeWhile Char.isDigit
        let n := ofDigits 10 (digits.filterMap digitValue?)
        afterNumber { style with precision := some n } ['l'] (rest.drop digits.length) arguments
    | 'l' =>
      match rest with
      | 'l' :: k :: rest | k :: rest => some (style, k, rest, arguments)
      | [] => none
    | c =>
      if c.isDigit then
        let digits := (c :: rest).takeWhile Char.isDigit
        let n := ofDigits 10 (digits.filterMap digitValue?)
        afterNumber { style with width := n } ['.', 'l'] ((c :: rest).drop digits.length) arguments
      else some (style, c, rest, arguments)

/-- The text of a format; there is none if it ends before anything is written. -/
def run? : (room : Nat) → List Char → List Datum → Option (List UInt8)
  | 0, _, _ | _, [], _ => none
  | room + 1, c :: rest, arguments =>
    let followed (content : List UInt8) (rest : List Char) (arguments : List Datum) :
        Option (List UInt8) :=
      some (content ++ (run? room rest arguments).getD [])
    if c ≠ '%' then followed (bytes [c]) rest arguments
    else if rest.isEmpty then some (bytes ['%'])
    else do
      let (style, letter, rest, arguments) ← style? (rest.length + 1) {} rest arguments
      let precision := if isTextual letter then 0 else style.precision.getD 0
      if greatestWidth < max style.width precision then none
      else if letter = '%' then followed (padded style (bytes ['%'])) rest arguments
      else followed (← written? style letter (arguments.headD .null)) rest arguments.tail

def result : List Datum → Datum
  | [] => .null
  | format :: arguments =>
    let s := format.chars.takeWhile (· ≠ '\x00')
    ((run? (s.length + 1) s arguments).map datum).getD .null

/-- Data as they are written in a statement. A real number has as many digits as it takes. -/
def literal : Datum → List UInt8
  | .null => bytes "NULL".toList
  | .int i => bytes (intDigits i)
  | .real x =>
    let short := x.fifteenDigits
    bytes <| if Binary64.read? short = some x then short
      else real { full := true, precision := some 20 } 'e' x
  | .blob content => bytes ('X' :: '\'' :: (content.flatMap upperHexByte ++ ['\'']))
  | d => singleQuote :: doubled singleQuote ((argument? d).getD []) ++ [singleQuote]

end Format

end LookupEnums.Sql
