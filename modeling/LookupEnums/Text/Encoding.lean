/-! # Encodings

Texts as bytes: units of one, two or four bytes, the wider ones in either order of their bytes. Two
units of two bytes make a character beyond the basic plane. -/

namespace LookupEnums.Text

inductive Encoding
  | bytes
  | pairs (lowFirst : Bool)
  | quads (lowFirst : Bool)
  deriving DecidableEq, Repr

namespace Encoding

def joined (lowFirst : Bool) (group : List UInt8) : Nat :=
  (if lowFirst then group.reverse else group).foldl (fun n b => n * 256 + b.toNat) 0

def pairUnits? (lowFirst : Bool) : List UInt8 → Option (List Nat)
  | [] => some []
  | a :: b :: rest => (pairUnits? lowFirst rest).map (joined lowFirst [a, b] :: ·)
  | _ => none

def quadUnits? (lowFirst : Bool) : List UInt8 → Option (List Nat)
  | [] => some []
  | a :: b :: c :: d :: rest => (quadUnits? lowFirst rest).map (joined lowFirst [a, b, c, d] :: ·)
  | _ => none

def character? (n : Nat) : Option Char :=
  if n.isValidChar then some (Char.ofNat n) else none

def ofPairUnits? : List Nat → Option (List Char)
  | [] => some []
  | high :: low :: rest =>
    if 0xd800 ≤ high ∧ high < 0xdc00 ∧ 0xdc00 ≤ low ∧ low < 0xe000 then do
      let c ← character? (0x10000 + (high - 0xd800) * 0x400 + (low - 0xdc00))
      return c :: (← ofPairUnits? rest)
    else do
      let c ← character? high
      return c :: (← ofPairUnits? (low :: rest))
  | [n] => (character? n).map ([·])

def decode? (e : Encoding) (content : List UInt8) : Option String :=
  match e with
  | bytes => String.fromUTF8? ⟨content.toArray⟩
  | pairs lowFirst => ((pairUnits? lowFirst content).bind ofPairUnits?).map String.ofList
  | quads lowFirst =>
    ((quadUnits? lowFirst content).bind (·.mapM character?)).map String.ofList

/-- The encoding of data whose first two characters are plain ones, and the bytes after the mark of
it in front, if there is one. -/
def detect : List UInt8 → Encoding × List UInt8
  | 0x00 :: 0x00 :: 0xfe :: 0xff :: rest => (quads false, rest)
  | 0xff :: 0xfe :: 0x00 :: 0x00 :: rest => (quads true, rest)
  | 0xfe :: 0xff :: rest => (pairs false, rest)
  | 0xff :: 0xfe :: rest => (pairs true, rest)
  | 0xef :: 0xbb :: 0xbf :: rest => (bytes, rest)
  | [0, b] => (pairs false, [0, b])
  | [a, 0] => (pairs true, [a, 0])
  | a :: b :: c :: d :: rest =>
    let all := a :: b :: c :: d :: rest
    if a = 0 then (if b = 0 then quads false else pairs false, all)
    else if b = 0 then (if c = 0 ∧ d = 0 then quads true else pairs true, all)
    else (bytes, all)
  | content => (bytes, content)

end Encoding

end LookupEnums.Text
