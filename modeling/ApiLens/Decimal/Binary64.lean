/-!
Finite binary64 numbers as exact values `± mantissa * 2 ^ exponent`.

A number is kept in its canonical form (a 53-bit mantissa, or the least exponent), so two values are
equal exactly when their fields are. `ofRatio` rounds a ratio to the nearest number, ties to even.
-/

namespace ApiLens

structure Binary64 where
  negative : Bool
  mantissa : Nat
  exponent : Int
deriving DecidableEq

namespace Binary64

def leastExponent : Int := -1074

def greatestExponent : Int := 971

/-- A mantissa is below this bound, and an ordinary one is at least half of it. -/
def mantissaBound : Nat := Nat.pow 2 53

def zero (negative : Bool) : Binary64 := ⟨negative, 0, leastExponent⟩

def isZero (x : Binary64) : Bool := x.mantissa == 0

def neg (x : Binary64) : Binary64 := { x with negative := !x.negative }

/-- The quotient of `num` and `den`, rounded to a whole number, a half going to the even neighbour. -/
def roundDiv (num den : Nat) : Nat :=
  let q := num / den
  let twice := 2 * (num % den)
  if twice < den then q
  else if den < twice then q + 1
  else q + q % 2

/-- The quotient of `num` and `den * 2 ^ exponent`, as numerator and denominator. -/
def shift (num den : Nat) (exponent : Int) : Nat × Nat :=
  match exponent with
  | .ofNat e   => (num, den * Nat.pow 2 e)
  | .negSucc e => (num * Nat.pow 2 (e + 1), den)

/-- The exponent at which `num / den` has a 53-bit mantissa, but never below the least one. -/
def exponentFor (num den : Nat) : Int :=
  let guess : Int := (num.log2 : Int) - (den.log2 : Int) - 52
  let (n, d) := shift num den guess
  max leastExponent (if n / d < mantissaBound / 2 then guess - 1 else guess)

/-- The nearest number to `num / den`; `none` when that lies beyond the greatest finite number. -/
def ofRatio (negative : Bool) (num den : Nat) : Option Binary64 :=
  if num = 0 then some (zero negative)
  else
    let e := exponentFor num den
    let (n, d) := shift num den e
    let m := roundDiv n d
    let (m, e) := if m = mantissaBound then (mantissaBound / 2, e + 1) else (m, e)
    if greatestExponent < e then none else some ⟨negative, m, e⟩

/-- The magnitude as numerator and denominator. -/
def ratio (x : Binary64) : Nat × Nat :=
  match x.exponent with
  | .ofNat e   => (x.mantissa * Nat.pow 2 e, 1)
  | .negSucc e => (x.mantissa, Nat.pow 2 (e + 1))

def ofNat? (n : Nat) : Option Binary64 := ofRatio false n 1

def mul? (x y : Binary64) : Option Binary64 :=
  ofRatio (x.negative != y.negative) (x.ratio.1 * y.ratio.1) (x.ratio.2 * y.ratio.2)

/-- The quotient, for a divisor that is not zero. -/
def div? (x y : Binary64) : Option Binary64 :=
  ofRatio (x.negative != y.negative) (x.ratio.1 * y.ratio.2) (x.ratio.2 * y.ratio.1)

/-- The nearest number to `10 ^ e`. -/
def tenTo? (e : Nat) : Option Binary64 := ofNat? (Nat.pow 10 e)

/-- The nearest number to `± significand * 10 ^ exponent`. -/
def ofDecimal? (negative : Bool) (significand : Nat) : Int → Option Binary64
  | .ofNat e   => ofRatio negative (significand * Nat.pow 10 e) 1
  | .negSucc e => ofRatio negative significand (Nat.pow 10 (e + 1))

end Binary64
end ApiLens
