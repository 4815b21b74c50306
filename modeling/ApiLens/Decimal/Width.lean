/-!
Whole numbers that fit a number of bits.
-/

namespace ApiLens

/-- Whether a whole number fits some bits without a sign. -/
def fitsUnsigned (bits : Nat) (i : Int) : Bool := 0 ≤ i && i < Int.ofNat (Nat.pow 2 bits)

/-- Whether a whole number fits some bits, one of which is the sign. -/
def fitsSigned (bits : Nat) (i : Int) : Bool :=
  -Int.ofNat (Nat.pow 2 (bits - 1)) ≤ i && i < Int.ofNat (Nat.pow 2 (bits - 1))

end ApiLens
