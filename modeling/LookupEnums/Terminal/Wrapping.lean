import LookupEnums.Text.Blank
import LookupEnums.Text.Cut
import LookupEnums.Text.Width

/-! # Fitting text into lines

Text is broken between words where the next word does not fit. A word longer than a line is either
folded over several lines or cut off with an ellipsis. Tabs go to every eighth column. -/

namespace LookupEnums
open Text

namespace Wrapping

inductive Overflow
  | fold
  | ellipsis
  deriving DecidableEq, Repr

/-- The bell, the backspace, the vertical tab, the form feed and the carriage return are not
shown. -/
def isHidden (c : Char) : Bool :=
  let n := c.toNat
  n == 7 || n == 8 || n == 11 || n == 12 || n == 13

def withoutHidden (s : List Char) : List Char :=
  s.filter (!isHidden ·)

def expandTabs (column : Nat) : List Char → List Char
  | [] => []
  | '\t' :: r =>
    let next := (column / 8 + 1) * 8
    List.replicate (next - column) ' ' ++ expandTabs next r
  | c :: r => c :: expandTabs (column + width c) r

/-- The words with the blanks after them, the first one also with the blanks before it; `inWord` and
`afterWord` say where in a word the text before ended. -/
def wordsFrom (inWord afterWord : Bool) : List Char → List (List Char)
  | [] => []
  | c :: r =>
    let blank := isBlank c
    let rest := wordsFrom (!blank) (blank && (inWord || afterWord)) r
    let startsNext := match r with
      | d :: _ => blank && (inWord || afterWord) && !isBlank d
      | [] => false
    match rest with
    | [] => [[c]]
    | w :: ws => if startsNext then [c] :: w :: ws else (c :: w) :: ws

def words (s : List Char) : List (List Char) :=
  wordsFrom false false s

def partsFrom (limit used : Nat) : List Char → List (List Char)
  | [] => [[]]
  | c :: r =>
    if used + width c > limit then
      match partsFrom limit (width c) r with
      | p :: ps => [] :: (c :: p) :: ps
      | [] => [[], [c]]
    else match partsFrom limit (used + width c) r with
      | p :: ps => (c :: p) :: ps
      | [] => [[c]]

structure Filling where
  full : List (List Char) := []
  line : List Char := []
  used : Nat := 0

namespace Filling

def startLine (f : Filling) : Filling :=
  if f.line.isEmpty then f else ⟨f.full ++ [f.line], [], 0⟩

def add (f : Filling) (w : List Char) : Filling :=
  { f with line := f.line ++ w, used := f.used + totalWidth w }

def addParts (f : Filling) : List (List Char) → Filling
  | [] => f
  | [p] => { f.startLine with line := p, used := totalWidth p }
  | p :: ps => addParts { f.startLine with line := p } ps

def addWord (overflow : Overflow) (limit : Nat) (f : Filling) (w : List Char) : Filling :=
  let needed := totalWidth (stripEnd w)
  if f.used + needed ≤ limit then f.add w
  else if limit < needed then
    match overflow with
    | .fold => f.addParts (partsFrom limit 0 w)
    | .ellipsis => { f.startLine with line := w, used := totalWidth w }
  else f.startLine.add w

def lines (f : Filling) : List (List Char) :=
  f.full ++ [f.line]

end Filling

def trimEnd (limit : Nat) (s : List Char) : List Char :=
  let blanks := s.length - (stripEnd s).length
  s.take (s.length - min blanks (s.length - limit))

def padded (limit : Nat) (s : List Char) : List Char :=
  s ++ List.replicate (limit - totalWidth s) ' '

/-- The front of a text that is `limit` wide, found by halving between two places; half of a wide
character is shown as a blank. The place decides which characters without a width stay. -/
def frontBetween (limit : Nat) (s : List Char) : (fuel low high : Nat) → List Char
  | 0, low, _ => s.take low
  | fuel + 1, low, high =>
    let middle := (low + high) / 2
    let front := s.take (middle + 1)
    let w := totalWidth front
    if w = limit + 1 && (front.getLast?.map width) = some 2 then front.dropLast ++ [' ']
    else if w = limit then front
    else if limit < w then frontBetween limit s fuel low middle
    else frontBetween limit s fuel middle high

def front (limit : Nat) (s : List Char) : List Char :=
  if limit = 0 then [] else frontBetween limit s s.length 0 s.length

def cutOff (overflow : Overflow) (limit : Nat) (s : List Char) : List Char :=
  if totalWidth s ≤ limit then s
  else match overflow with
    | .fold => front limit s
    | .ellipsis => front (limit - 1) s ++ ['…']

def wrapLine (overflow : Overflow) (limit : Nat) (s : List Char) : List (List Char) :=
  let filled := (words (expandTabs 0 s)).foldl (Filling.addWord overflow limit) {}
  filled.lines.map fun l => cutOff overflow limit (trimEnd limit l)

def wrap (overflow : Overflow) (limit : Nat) (s : List Char) : List (List Char) :=
  (pieces ['\n'] s).flatMap (wrapLine overflow limit)

end Wrapping

end LookupEnums
