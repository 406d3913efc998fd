/-! # Cutting a text at a separator

The first place where a separator stands, all the pieces between its places from left to right
without overlap, and the replacement of each place by another text. The separator is not empty. -/

namespace LookupEnums.Text

/-- The text before the first place of `sep` and the text after it. -/
def cut? (sep : List Char) : List Char → Option (List Char × List Char)
  | [] => none
  | c :: r =>
    if sep.isPrefixOf (c :: r) then some ([], (c :: r).drop sep.length)
    else (cut? sep r).map fun (before, after) => (c :: before, after)

def cutOrAll (sep s : List Char) : List Char × List Char :=
  (cut? sep s).getD (s, [])

/-- The text before the last place of `c` and the text after it; without one, all is after. -/
def cutLast (c : Char) (s : List Char) : List Char × List Char :=
  let back := s.reverse
  match back.dropWhile (· ≠ c) with
  | [] => ([], s)
  | _ :: before => (before.reverse, (back.takeWhile (· ≠ c)).reverse)

def occursIn (sep s : List Char) : Bool :=
  (cut? sep s).isSome

/-- The pieces between the places of `sep`, where `skip` characters of a place are still to be
passed over. -/
def piecesFrom (sep : List Char) : Nat → List Char → List (List Char)
  | _, [] => [[]]
  | skip + 1, _ :: r => piecesFrom sep skip r
  | 0, c :: r =>
    if sep.isPrefixOf (c :: r) then [] :: piecesFrom sep (sep.length - 1) r
    else match piecesFrom sep 0 r with
      | [] => [[c]]
      | piece :: rest => (c :: piece) :: rest

def pieces (sep s : List Char) : List (List Char) :=
  piecesFrom sep 0 s

def joinWith (sep : List Char) (parts : List (List Char)) : List Char :=
  sep.intercalate parts

def replaceAll (old new s : List Char) : List Char :=
  joinWith new (pieces old s)

end LookupEnums.Text
