import ApiLens.Text.Scanner

/-!
Punycode: text in ASCII letters and digits. What is ASCII comes first, and digits of changing bases tell which
other characters go in between, in ascending order.
-/

namespace ApiLens.Punycode

def digit (n : Nat) : Char :=
  if n < 26 then Char.ofNat ('a'.toNat + n) else Char.ofNat ('0'.toNat + n - 26)

def digitValue? (c : Char) : Option Nat :=
  if c.isDigit then some (c.toNat - '0'.toNat + 26)
  else if c.isAlpha then some (c.toLower.toNat - 'a'.toNat)
  else none

def adapt (delta points : Nat) (first : Bool) : Nat :=
  let delta := if first then delta / 700 else delta / 2
  shrink 20 (delta + delta / points) 0
where
  shrink : Nat → Nat → Nat → Nat
    | 0, _, k => k
    | fuel + 1, delta, k =>
      if 455 < delta then shrink fuel (delta / 35) (k + 36) else k + 36 * delta / (delta + 38)

def threshold (k bias : Nat) : Nat :=
  if k ≤ bias then 1 else if bias + 26 ≤ k then 26 else k - bias

/-- A number in digits whose base changes from place to place. -/
def digits (bias : Nat) : (fuel k n : Nat) → List Char
  | 0, _, _ => []
  | fuel + 1, k, n =>
    let t := threshold k bias
    if n < t then [digit n]
    else digit (t + (n - t) % (36 - t)) :: digits bias fuel (k + 36) ((n - t) / (36 - t))

structure Progress where
  written : List Char
  delta : Nat
  bias : Nat
  done : Nat

/-- One character, in the round for the code point `m`. -/
def step (basics m : Nat) (p : Progress) (c : Char) : Progress :=
  if c.toNat < m then { p with delta := p.delta + 1 }
  else if c.toNat = m then
    { written := p.written ++ digits p.bias 64 36 p.delta
      delta := 0
      bias := adapt p.delta (p.done + 1) (p.done == basics)
      done := p.done + 1 }
  else p

/-- One round for each of the other code points, in ascending order. -/
def rounds (input : List Char) (basics : Nat) : List Nat → Nat → Progress → Progress
  | [], _, p => p
  | m :: rest, n, p =>
    let p := { p with delta := p.delta + (m - n) * (p.done + 1) }
    let p := input.foldl (step basics m) p
    rounds input basics rest (m + 1) { p with delta := p.delta + 1 }

def encode (input : List Char) : List Char :=
  let basic := input.filter (·.toNat < 128)
  let others := ((input.filter (128 ≤ ·.toNat)).map Char.toNat).mergeSort.eraseDups
  let start : Progress := ⟨[], 0, 72, basic.length⟩
  basic ++ (if basic.isEmpty then [] else ['-']) ++ (rounds input basic.length others 128 start).written

/-- Reads a number: its value, and what follows it. -/
def number? (bias : Nat) : (weight k : Nat) → List Char → Option (Nat × List Char)
  | _, _, [] => none
  | weight, k, c :: rest => do
    let d ← digitValue? c
    let t := threshold k bias
    if d < t then return (d * weight, rest)
    let (n, rest) ← number? bias (weight * (36 - t)) (k + 36) rest
    return (d * weight + n, rest)

/-- Puts the characters in that the digits tell of. `n` is the code point and `i` the place reached. -/
def insertions? : (fuel : Nat) → (text : List Char) → (n i bias : Nat) → List Char → Option (List Char)
  | _, text, _, _, _, [] => some text
  | 0, _, _, _, _, _ => none
  | fuel + 1, text, n, i, bias, code => do
    let (delta, code) ← number? bias 1 36 code
    let places := text.length + 1
    let bias := adapt delta places (i == 0)
    let n := n + (i + delta) / places
    let i := (i + delta) % places
    let c ← charAt? n
    insertions? fuel (text.insertIdx i c) n (i + 1) bias code

/-- The text of a code, if it is one. The last hyphen ends what is ASCII, unless the code begins with it. -/
def decode? (code : List Char) : Option (List Char) :=
  match (code.reverse.dropWhile (· != '-')).drop 1 |>.reverse with
  | [] => insertions? code.length [] 128 0 72 code
  | basic => insertions? code.length basic 128 0 72 (code.drop (basic.length + 1))

end ApiLens.Punycode
