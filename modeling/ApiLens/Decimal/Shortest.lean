import ApiLens.Decimal.Binary64

/-!
The shortest decimal that reads back as a given binary64 number, and its two written forms.

`Binary64.shortest` finds the fewest digits whose value rounds to the number, and of those the digits
nearest to it. `Binary64.positional` never uses an exponent; `Binary64.compact` uses one outside of
`1e-5 .. 1e16`, with its sign, and always shows a fraction otherwise.
-/

namespace ApiLens

/-- A positive decimal `digits * 10 ^ exponent`. -/
structure Decimal where
  digits : Nat
  exponent : Int
deriving DecidableEq

namespace Decimal

/-- Trailing zeros moved from the digits into the exponent. -/
def normalize (fuel : Nat) (d : Decimal) : Decimal :=
  match fuel with
  | 0 => d
  | fuel + 1 =>
    if d.digits % 10 = 0 ∧ d.digits ≠ 0 then normalize fuel ⟨d.digits / 10, d.exponent + 1⟩ else d

def text (d : Decimal) : String := toString d.digits

/-- Where the decimal point stands, counted from before the first digit. -/
def point (d : Decimal) : Int := (d.text.length : Int) + d.exponent

end Decimal

namespace Binary64

/-- The half-open or closed interval of reals that round to a number, in units of a quarter of the
last place: the ends belong to it when the mantissa is even. -/
structure Cell where
  low : Nat
  high : Nat
  unit : Int
  closed : Bool

def cell (x : Binary64) : Cell where
  low := 4 * x.mantissa - (if x.mantissa = mantissaBound / 2 ∧ leastExponent < x.exponent then 1 else 2)
  high := 4 * x.mantissa + 2
  unit := x.exponent - 2
  closed := x.mantissa % 2 = 0

/-- `a * 2 ^ e` and `b * 10 ^ k` over a common denominator. -/
def align (a : Nat) (e : Int) (b : Nat) (k : Int) : Nat × Nat :=
  let twos := match e with
    | .ofNat e   => (Nat.pow 2 e, 1)
    | .negSucc e => (1, Nat.pow 2 (e + 1))
  let tens := match k with
    | .ofNat k   => (Nat.pow 10 k, 1)
    | .negSucc k => (1, Nat.pow 10 (k + 1))
  (a * twos.1 * tens.2, b * tens.1 * twos.2)

def Cell.contains (c : Cell) (d : Decimal) : Bool :=
  let (low, x) := align c.low c.unit d.digits d.exponent
  let (high, y) := align c.high c.unit d.digits d.exponent
  if c.closed then low ≤ x && y ≤ high else low < x && y < high

/-- The whole part of `x / 10 ^ k`. -/
def wholeAt (x : Binary64) (k : Int) : Nat :=
  let (n, d) := x.ratio
  match k with
  | .ofNat k   => n / (d * Nat.pow 10 k)
  | .negSucc k => n * Nat.pow 10 (k + 1) / d

/-- Whether `a` is at most as far from `x` as `b`, for `a ≤ x ≤ b` on one grid. -/
def nearerBelow (x : Binary64) (a b : Decimal) : Bool :=
  let (twice, sum) := align (2 * x.mantissa) x.exponent (a.digits + b.digits) a.exponent
  twice < sum || (twice == sum && a.digits % 2 == 0)

/-- The power of ten at the first digit of `num / den`. -/
def magnitude (num den : Nat) : Int :=
  if den ≤ num then (toString (num / den)).length - 1
  else - below 400 1
where
  below : Nat → Nat → Int
    | 0, j => j
    | fuel + 1, j => if den ≤ num * Nat.pow 10 j then j else below fuel (j + 1)

/-- The best decimal with at most `count` digits, if one rounds to `x`. -/
def withDigits (x : Binary64) (count : Nat) : Option Decimal :=
  let k := magnitude x.ratio.1 x.ratio.2 + 1 - count
  let below : Decimal := ⟨x.wholeAt k, k⟩
  let above : Decimal := ⟨x.wholeAt k + 1, k⟩
  match x.cell.contains below, x.cell.contains above with
  | true, true   => some (if x.nearerBelow below above then below else above)
  | true, false  => some below
  | false, true  => some above
  | false, false => none

/-- The shortest decimal for a number other than zero; seventeen digits always suffice. -/
def shortest (x : Binary64) : Decimal :=
  let found := (List.range 17).findSome? fun i => x.withDigits (i + 1)
  (found.getD ⟨0, 0⟩).normalize 20

def zeros (n : Nat) : String := String.ofList (List.replicate n '0')

def sign (x : Binary64) : String := if x.negative then "-" else ""

/-- All digits before the point, with no fraction when it would be zero. -/
def positional (x : Binary64) : String :=
  if x.isZero then x.sign ++ "0"
  else
    let d := x.shortest
    let digits := d.text
    let body :=
      if 0 ≤ d.exponent then digits ++ zeros d.exponent.toNat
      else if d.point ≤ 0 then "0." ++ zeros (-d.point).toNat ++ digits
      else
        let n := d.point.toNat
        String.ofList (digits.toList.take n) ++ "." ++ String.ofList (digits.toList.drop n)
    x.sign ++ body

/-- `positional`, with a fraction in any case. -/
def positionalWithPoint (x : Binary64) : String :=
  let text := x.positional
  if text.toList.contains '.' then text else text ++ ".0"

def compact (x : Binary64) : String :=
  if x.isZero then x.sign ++ "0.0"
  else
    let d := x.shortest
    if -5 < d.point ∧ d.point ≤ 16 then x.positionalWithPoint
    else
      let digits := d.text.toList
      let fraction := digits.drop 1
      let mark := if fraction.isEmpty then "" else "."
      x.sign ++ String.ofList (digits.take 1) ++ mark ++ String.ofList fraction
        ++ "e" ++ (if 0 < d.point then "+" else "") ++ toString (d.point - 1)

end Binary64
end ApiLens
