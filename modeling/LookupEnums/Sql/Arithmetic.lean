import LookupEnums.Database.Affinity
import LookupEnums.Sql.Expr

/-! # Computing with stored data

Operands become numbers by what they start with, and nothing comes of nothing. Whole numbers that
leave the words of the store become real ones. Conditions have three values, the third being
nothing. -/

namespace LookupEnums

namespace Datum
open Text

def bytesAsText (content : List UInt8) : Option String :=
  String.fromUTF8? ⟨content.toArray⟩

def toNumber : Datum → Datum
  | text s => ((Affinity.leading? s.toList).map (·.1)).getD (int 0)
  | blob content =>
    (((bytesAsText content).bind fun s => Affinity.leading? s.toList).map (·.1)).getD (int 0)
  | garbled _ => int 0
  | d => d

/-- The part of a double before the point, within the words of the store. -/
def truncated : Binary64 → Int
  | .nan => 0
  | .infinite negative => if negative then -Word.limit else Word.limit - 1
  | .finite negative m e =>
    let (num, den) := Binary64.magnitude m e
    Word.clamp (if negative then -(num / den : Nat) else (num / den : Nat))

def leadingInt (s : List Char) : Int :=
  let magnitude (r : List Char) : Int :=
    ofDigits 10 ((r.takeWhile Char.isDigit).filterMap digitValue?)
  Word.clamp <| match s.dropWhile Affinity.isSpace with
    | '-' :: r => -magnitude r
    | '+' :: r => magnitude r
    | r => magnitude r

def toInt : Datum → Int
  | int i => i
  | real x => truncated x
  | text s => leadingInt s.toList
  | blob content => ((bytesAsText content).map fun s => leadingInt s.toList).getD 0
  | null | garbled _ => 0

def toReal : Datum → Binary64
  | real x => x
  | int i => .ofInt i
  | d => match d.toNumber with
    | int i => .ofInt i
    | real x => x
    | _ => .zero

def ofInt? (i : Int) : Option Datum :=
  if Word.fits i then some (int i) else none

def toText : Datum → Datum
  | int i => text (String.ofList (intDigits i))
  | real x => text (String.ofList x.fifteenDigits)
  | blob content => match bytesAsText content with
    | some s => text s
    | none => garbled content
  | d => d

def chars (d : Datum) : List Char :=
  match d.toText with
  | text s => s.toList
  | _ => []

def truth? : Datum → Option Bool
  | null => none
  | d => match d.toNumber with
    | int i => some (i != 0)
    | real x => some !x.isZero
    | _ => some false

def ofTruth : Option Bool → Datum
  | none => null
  | some b => int (if b then 1 else 0)

def holds (d : Datum) : Bool :=
  d.truth? = some true

def both (a b : Option Bool) : Option Bool :=
  match a, b with
  | some false, _ | _, some false => some false
  | some true, some true => some true
  | _, _ => none

def either (a b : Option Bool) : Option Bool :=
  (both (a.map (!·)) (b.map (!·))).map (!·)

def combined (whole : Int → Int → Int) (reals : Binary64 → Binary64 → Binary64) (a b : Datum) :
    Datum :=
  match a.toNumber, b.toNumber with
  | int i, int j => (ofInt? (whole i j)).getD (ofReal (reals (.ofInt i) (.ofInt j)))
  | a, b => ofReal (reals a.toReal b.toReal)

def subtractReals (x y : Binary64) : Binary64 :=
  x.add y.negate

def divideReals : Binary64 → Binary64 → Binary64
  | .finite s m e, .finite t n f =>
    if n = 0 then .nan
    else
      let (num, den) := Binary64.scaled m n 2 (f - e)
      .ofQuotient (s != t) num den
  | .infinite s, .finite t _ _ => .infinite (s != t)
  | .finite s _ _, .infinite t => .finite (s != t) 0 Binary64.lowestExponent
  | _, _ => .nan

def divided (a b : Datum) : Datum :=
  match a.toNumber, b.toNumber with
  | int i, int j =>
    if j = 0 then null
    else (ofInt? (i.tdiv j)).getD (ofReal (divideReals (.ofInt i) (.ofInt j)))
  | a, b => if b.toReal.isZero then null else ofReal (divideReals a.toReal b.toReal)

def remainder (a b : Datum) : Datum :=
  let (i, j) := (a.toInt, b.toInt)
  if j = 0 then null
  else match a.toNumber, b.toNumber with
    | int _, int _ => int (i.tmod j)
    | _, _ => real (.ofInt (i.tmod j))

def shifted (i by' : Int) : Int :=
  if 0 ≤ by' then (if by' < 64 then (i * Int.pow 2 by'.toNat).bmod Word.count else 0)
  else if -64 < by' then i / Int.pow 2 by'.natAbs
  else if i < 0 then -1
  else 0

def joined (a b : Datum) : Datum :=
  text (String.ofList (a.chars ++ b.chars))

def negated (d : Datum) : Datum :=
  match d.toNumber with
  | int i => (ofInt? (-i)).getD (ofReal (Binary64.ofInt i).negate)
  | real x => real x.negate
  | d => d

end Datum

namespace Sql
open Datum

def UnaryOp.apply (op : UnaryOp) (d : Datum) : Datum :=
  if d.isNull then .null
  else match op with
    | minus => d.negated
    | plus => d
    | complement => .int (-1 - d.toInt)
    | not => .ofTruth (d.truth?.map (!·))

def BinaryOp.apply (op : BinaryOp) (order : Ordering) (a b : Datum) : Datum :=
  match op with
  | or => .ofTruth (either a.truth? b.truth?)
  | and => .ofTruth (both a.truth? b.truth?)
  | same => .ofTruth (some (order == .eq))
  | different => .ofTruth (some (order != .eq))
  | op =>
    if a.isNull || b.isNull then .null
    else match op with
      | equal => .ofTruth (some (order == .eq))
      | unequal => .ofTruth (some (order != .eq))
      | less => .ofTruth (some order.isLT)
      | atMost => .ofTruth (some order.isLE)
      | greater => .ofTruth (some order.isGT)
      | atLeast => .ofTruth (some order.isGE)
      | bitAnd => .int (Word.ofBits (Word.bits a.toInt &&& Word.bits b.toInt))
      | bitOr => .int (Word.ofBits (Word.bits a.toInt ||| Word.bits b.toInt))
      | shiftLeft => .int (shifted a.toInt b.toInt)
      | shiftRight => .int (shifted a.toInt (-b.toInt))
      | add => combined (· + ·) Binary64.add a b
      | subtract => combined (· - ·) subtractReals a b
      | multiply => combined (· * ·) Binary64.mul a b
      | divide => divided a b
      | remainder => a.remainder b
      | _ => joined a b

def BinaryOp.isComparison : BinaryOp → Bool
  | equal | unequal | less | atMost | greater | atLeast | same | different => true
  | _ => false

end Sql

end LookupEnums
