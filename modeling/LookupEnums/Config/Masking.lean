import LookupEnums.Text.Cut
import LookupEnums.Text.LowerCase
import LookupEnums.Value.Basic

/-! # Hiding secrets

Leaves below a key that names a secret become three stars, as do passwords inside database
addresses of the form `scheme://user:password@`. Keys, the shape of the configuration and nulls
stay. -/

namespace LookupEnums
open Text

namespace Masking

def sensitiveWords : List String :=
  ["secret", "token", "password", "key", "credential"]

def isSensitive (key : String) : Bool :=
  let low := lowered key.toList
  sensitiveWords.any fun w => occursIn w.toList low

def stars : List Char := ['*', '*', '*']

def isLowerLetter (c : Char) : Bool :=
  'a' ≤ c && c ≤ 'z'

def isSchemeChar (c : Char) : Bool :=
  isLowerLetter c || c.isDigit || c == '+' || c == '.' || c == '-'

def isUserChar (c : Char) : Bool :=
  c != ':' && c != '/' && c != '@'

def schemeMark : List Char := "://".toList

/-- The lengths of what stands before the password and of the password, in an address at the front
of a text. Each part is as long as its characters go, and an `@` follows the password. -/
def address? (s : List Char) : Option (Nat × Nat) :=
  match s with
  | [] => none
  | c :: r =>
    let scheme := r.takeWhile isSchemeChar
    let afterScheme := r.drop scheme.length
    if !isLowerLetter c || !schemeMark.isPrefixOf afterScheme then none
    else
      let rest := afterScheme.drop 3
      let user := rest.takeWhile isUserChar
      match rest.drop user.length with
      | ':' :: tail =>
        let password := tail.takeWhile (· ≠ '@')
        if user.isEmpty || password.isEmpty || password.length = tail.length then none
        else some (scheme.length + user.length + 5, password.length)
      | _ => none

/-- Writes stars for the passwords of a text: `keep` characters are still to be kept before one and
`hide` to be dropped. -/
def hideFrom : (keep hide : Nat) → List Char → List Char
  | _, _, [] => []
  | keep + 1, hide, c :: r =>
    c :: (if keep = 0 ∧ 0 < hide then stars else []) ++ hideFrom keep hide r
  | 0, hide + 1, _ :: r => hideFrom 0 hide r
  | 0, 0, c :: r =>
    match address? (c :: r) with
    | some (before, password) => c :: hideFrom (before - 1) password r
    | none => c :: hideFrom 0 0 r

def hidePasswords (s : String) : String :=
  String.ofList (hideFrom 0 0 s.toList)

inductive KeyError
  | noLetterCase
  | bytes
  deriving DecidableEq, Repr

/-- Whether leaves directly below a key are secret. -/
def hidesLeaves : Value → Except KeyError Bool
  | .text key => .ok (isSensitive key)
  | .bytes (.view _) _ => .error .noLetterCase
  | .bytes _ _ => .error .bytes
  | _ => .error .noLetterCase

def leaf (key v : Value) : Except KeyError Value := do
  if (← hidesLeaves key) && !v.isNull then return .text (String.ofList stars)
  else match v with
    | .text s => return .text (hidePasswords s)
    | v => return v

mutual

/-- A value below a key: the entries of a dictionary go by their own keys, the items of a list by
the key of the list. -/
def value (key : Value) : Value → Except KeyError Value
  | .dict entries => (entriesOf entries).map .dict
  | .list items => (itemsOf key items).map .list
  | v => leaf key v

def itemsOf (key : Value) : List Value → Except KeyError (List Value)
  | [] => .ok []
  | v :: rest => do
    let v ← value key v
    let rest ← itemsOf key rest
    return v :: rest

def entriesOf : List (Value × Value) → Except KeyError (List (Value × Value))
  | [] => .ok []
  | (k, v) :: rest => do
    let v ← value k v
    let rest ← entriesOf rest
    return (k, v) :: rest

end

end Masking

end LookupEnums
