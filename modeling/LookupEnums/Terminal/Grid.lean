import LookupEnums.Number.Binary64
import LookupEnums.Terminal.Markup
import LookupEnums.Terminal.Wrapping

/-! # Grids

Rows of cells in a drawn frame, with a heavy frame around the titles if there are any. A column is
as wide as its widest cell, unless the terminal is too narrow: then the widest columns give way
first. Cells keep to the left, with one blank on both sides, and a cell of several lines makes its
row as high. -/

namespace LookupEnums
open Text

structure Grid where
  titles : Option (List (List Char))
  rows : List (List (List Char))

namespace Grid

structure Rule where
  start : Char
  filling : Char
  crossing : Char
  finish : Char

def heavyTop : Rule := ⟨'┏', '━', '┳', '┓'⟩
def heavyBottom : Rule := ⟨'┡', '━', '╇', '┩'⟩
def lightTop : Rule := ⟨'┌', '─', '┬', '┐'⟩
def lightBottom : Rule := ⟨'└', '─', '┴', '┘'⟩

def Rule.draw (r : Rule) (widths : List Nat) : List Char :=
  r.start :: joinWith [r.crossing] (widths.map fun w => List.replicate (w + 2) r.filling)
    ++ [r.finish]

def askedWidth (s : List Char) : Nat :=
  ((lines s).map totalWidth).foldl max 0

def askedWidths (rows : List (List (List Char))) : List Nat :=
  match rows with
  | [] => []
  | first :: rest =>
    rest.foldl (fun widths row => (widths.zip row).map fun (w, cell) => max w (askedWidth cell))
      (first.map askedWidth)

/-- Takes `excess` away from the columns that are `widest` wide, in equal shares of `most` at most;
`sharing` of them are still to come. -/
def takeAway (widest most : Nat) : (excess sharing : Nat) → List Nat → List Nat
  | _, _, [] => []
  | excess, sharing, w :: rest =>
    if w = widest then
      let share := min most (Binary64.roundQuotient excess sharing)
      (w - share) :: takeAway widest most (excess - share) (sharing - 1) rest
    else w :: takeAway widest most excess sharing rest

/-- Brings the widest columns down to the next width, as long as the columns are wider than `limit`
together. `fuel` bounds the number of times. -/
def narrow (limit : Nat) : (fuel : Nat) → List Nat → List Nat
  | 0, widths => widths
  | fuel + 1, widths =>
    let excess := widths.foldl (· + ·) 0 - limit
    let widest := widths.foldl max 0
    let next := (widths.filter (· ≠ widest)).foldl max 0
    if excess = 0 || widest = 0 then widths
    else
      let most := min excess (widest - next)
      narrow limit fuel (takeAway widest most excess (widths.count widest) widths)

/-- The widths of the columns of a grid in a terminal of a width, without the blanks around them. A
frame has a bar before each column and one at its end. -/
def columnWidths (width : Nat) (rows : List (List (List Char))) : List Nat :=
  let asked := (askedWidths rows).map (· + 2)
  let limit := width - (asked.length + 1)
  let asked := asked.map (min limit)
  (narrow limit (asked.foldl (· + ·) 0) asked).map (· - 2)

def drawLine (bar : Char) (cells : List (Nat × List Char)) : List Char :=
  bar :: joinWith [bar] (cells.map fun (w, s) => ' ' :: Wrapping.padded w s ++ [' ']) ++ [bar]

def drawRow (bar : Char) (widths : List Nat) (row : List (List Char)) : List (List Char) :=
  let cells := (widths.zip row).map fun (w, s) =>
    (w, if w = 0 then [[]] else Wrapping.wrap .ellipsis w s)
  let height := (cells.map fun c => c.2.length).foldl max 1
  (List.range height).map fun (n : Nat) => drawLine bar (cells.map fun (w, l) => (w, l.getD n []))

def shownCell? (s : List Char) : Option (List Char) :=
  (Markup.shown? s).map Wrapping.withoutHidden

def draw? (width : Nat) (g : Grid) : Option (List (List Char)) := do
  let rows ← g.rows.mapM fun row => row.mapM shownCell?
  match g.titles with
  | none =>
    let widths := columnWidths width rows
    return lightTop.draw widths :: rows.flatMap (drawRow '│' widths) ++ [lightBottom.draw widths]
  | some titles =>
    let titles ← titles.mapM shownCell?
    let widths := columnWidths width (titles :: rows)
    return heavyTop.draw widths :: drawRow '┃' widths titles ++ heavyBottom.draw widths
      :: rows.flatMap (drawRow '│' widths) ++ [lightBottom.draw widths]

end Grid

end LookupEnums
