/-! # Lower case where ASCII letters arise

Lower-casing as far as comparisons with ASCII words need it: the capital letters of ASCII, and the
two other characters whose lower case holds an ASCII letter, the Kelvin sign and the capital `I`
with a dot. Every other character stays. -/

namespace LookupEnums.Text

def lower (c : Char) : List Char :=
  if c.toNat = 0x212a then ['k']
  else if c.toNat = 0x130 then ['i', Char.ofNat 0x307]
  else [c.toLower]

def lowered (s : List Char) : List Char :=
  s.flatMap lower

end LookupEnums.Text
