/-! # Blanks, stripping and lines

Which characters count as blank, what a text is without the blanks at its ends, and how a text
falls into lines. -/

namespace LookupEnums.Text

/-- Blanks: the tab to the carriage return, the four separators before the space, the space, the
next-line control and every Unicode space. -/
def isBlank (c : Char) : Bool :=
  let n := c.toNat
  (0x09 ≤ n && n ≤ 0x0d) || (0x1c ≤ n && n ≤ 0x20) || n == 0x85 || n == 0xa0 || n == 0x1680
    || (0x2000 ≤ n && n ≤ 0x200a) || n == 0x2028 || n == 0x2029 || n == 0x202f || n == 0x205f
    || n == 0x3000

def stripStart (s : List Char) : List Char :=
  s.dropWhile isBlank

def stripEnd (s : List Char) : List Char :=
  (s.reverse.dropWhile isBlank).reverse

def strip (s : List Char) : List Char :=
  stripEnd (stripStart s)

def isAllBlank (s : List Char) : Bool :=
  s.all isBlank

def isLineEnd (c : Char) : Bool :=
  let n := c.toNat
  (0x0a ≤ n && n ≤ 0x0d) || (0x1c ≤ n && n ≤ 0x1e) || n == 0x85 || n == 0x2028 || n == 0x2029

/-- The lines of a text without their ends. A carriage return and the line feed after it are one
end, and a last line without an end counts only if it holds something. -/
def lines : List Char → List (List Char)
  | [] => []
  | '\r' :: '\n' :: r => [] :: lines r
  | c :: r =>
    if isLineEnd c then [] :: lines r
    else match lines r with
      | [] => [[c]]
      | l :: ls => (c :: l) :: ls

/-- Every line end written as a single line feed. -/
def unifyLineEnds : List Char → List Char
  | [] => []
  | '\r' :: '\n' :: r => '\n' :: unifyLineEnds r
  | '\r' :: r => '\n' :: unifyLineEnds r
  | c :: r => c :: unifyLineEnds r

end LookupEnums.Text
