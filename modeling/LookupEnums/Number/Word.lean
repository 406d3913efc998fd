/-! # Words

Whole numbers of sixty-four bits, the highest of which is the sign. -/

namespace LookupEnums.Word

def limit : Int := Int.pow 2 63

def count : Nat := Nat.pow 2 64

def fits (i : Int) : Bool :=
  -limit ≤ i && i < limit

def clamp (i : Int) : Int :=
  max (-limit) (min (limit - 1) i)

def ofBits (n : Nat) : Int :=
  (n : Int).bmod count

def bits (i : Int) : Nat :=
  (i % count).toNat

end LookupEnums.Word
