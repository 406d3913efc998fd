import LookupEnums.Json.Basic
import LookupEnums.Number.Shortest
import LookupEnums.Text.Digits
import LookupEnums.Value.Basic

/-! # Writing JSON

Two layouts: on one line without blanks, and one item a line with two blanks for each level.
Characters beyond ASCII are written as they are. Null, truth values, numbers other than decimals,
texts, lists and dictionaries have a JSON form.

As keys values become texts; of keys that become the same text the last value counts, at the first
place.
-/

namespace LookupEnums
open Text

namespace Json

def escapeChar (c : Char) : List Char :=
  if c = '"' then ['\\', '"']
  else if c = '\\' then ['\\', '\\']
  else if c = '\n' then ['\\', 'n']
  else if c = '\r' then ['\\', 'r']
  else if c = '\t' then ['\\', 't']
  else if c = '\x08' then ['\\', 'b']
  else if c = '\x0c' then ['\\', 'f']
  else if c.toNat < 0x20 then '\\' :: 'u' :: paddedHex 4 c.toNat
  else [c]

def quotedText (s : String) : List Char :=
  '"' :: s.toList.flatMap escapeChar ++ ['"']

def floatText : Binary64 → List Char
  | .nan => "NaN".toList
  | .infinite negative => (if negative then "-Infinity" else "Infinity").toList
  | x => x.shown

def scalarText : Json → List Char
  | null => "null".toList
  | bool b => (if b then "true" else "false").toList
  | int i => intDigits i
  | float x => floatText x
  | str s => quotedText s
  | arr _ => "[]".toList
  | obj _ => ['{', '}']

mutual

def compactChars : Json → List Char
  | arr items => '[' :: compactItems items ++ [']']
  | obj fields => '{' :: compactFields fields ++ ['}']
  | j => scalarText j

def compactItems : List Json → List Char
  | [] => []
  | [j] => compactChars j
  | j :: rest => compactChars j ++ ',' :: compactItems rest

def compactFields : List (String × Json) → List Char
  | [] => []
  | [(k, j)] => quotedText k ++ ':' :: compactChars j
  | (k, j) :: rest => quotedText k ++ ':' :: compactChars j ++ ',' :: compactFields rest

end

def newLine (level : Nat) : List Char :=
  '\n' :: List.replicate (2 * level) ' '

mutual

def indentedChars (level : Nat) : Json → List Char
  | arr (j :: rest) => '[' :: indentedItems (level + 1) (j :: rest) ++ newLine level ++ [']']
  | obj (f :: rest) => '{' :: indentedFields (level + 1) (f :: rest) ++ newLine level ++ ['}']
  | j => scalarText j

def indentedItems (level : Nat) : List Json → List Char
  | [] => []
  | j :: rest =>
    newLine level ++ indentedChars level j ++ (if rest.isEmpty then [] else [','])
      ++ indentedItems level rest

def indentedFields (level : Nat) : List (String × Json) → List Char
  | [] => []
  | (k, j) :: rest =>
    newLine level ++ quotedText k ++ ':' :: ' ' :: indentedChars level j
      ++ (if rest.isEmpty then [] else [',']) ++ indentedFields level rest

end

def compact (j : Json) : String :=
  String.ofList (compactChars j)

def indented (j : Json) : String :=
  String.ofList (indentedChars 0 j)

def keyText? : Value → Option String
  | .text s => some s
  | .null => some "null"
  | .bool b => some (if b then "true" else "false")
  | .int i => some (String.ofList (intDigits i))
  | .float x _ => some (String.ofList (floatText x))
  | _ => none

def setField (key : String) (j : Json) : List (String × Json) → List (String × Json)
  | [] => [(key, j)]
  | (k, old) :: rest => if k = key then (k, j) :: rest else (k, old) :: setField key j rest

mutual

def ofValue? : Value → Option Json
  | .null => some null
  | .bool b => some (bool b)
  | .int i => some (int i)
  | .float x _ => some (float x)
  | .text s => some (str s)
  | .list items => (ofItems? items).map arr
  | .dict entries => (ofEntries? [] entries).map obj
  | _ => none

def ofItems? : List Value → Option (List Json)
  | [] => some []
  | v :: rest => do
    let j ← ofValue? v
    let js ← ofItems? rest
    return j :: js

def ofEntries? (fields : List (String × Json)) : List (Value × Value) → Option (List (String × Json))
  | [] => some fields
  | (k, v) :: rest => do
    let key ← keyText? k
    let j ← ofValue? v
    ofEntries? (setField key j fields) rest

end

end Json

end LookupEnums
