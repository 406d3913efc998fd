/-! # Tables of code point ranges

Membership in a list of closed ranges in increasing order; the search stops at the first range
that lies beyond the code point. -/

namespace LookupEnums.Text

def inRanges : List (Nat × Nat) → Nat → Bool
  | [], _ => false
  | (first, last) :: rest, n => if n < first then false else n ≤ last || inRanges rest n

end LookupEnums.Text
