/-!
Reading a text from its start: a scanner takes some characters off and may fail.
-/

namespace ApiLens

abbrev Scanner := StateT (List Char) Option

namespace Scanner

def fail : Scanner α := fun _ => none

def rest : Scanner (List Char) := get

def peek : Scanner (Option Char) := do return (← rest).head?

def next : Scanner Char := fun
  | [] => none
  | c :: cs => some (c, cs)

def expect (c : Char) : Scanner Unit := fun
  | [] => none
  | d :: cs => if d = c then some ((), cs) else none

/-- Takes a word off if the text goes on with it. -/
def accept (word : String) : Scanner Bool := fun cs =>
  if word.toList.isPrefixOf cs then some (true, cs.drop word.length) else some (false, cs)

def takeWhile (p : Char → Bool) : Scanner (List Char) := fun cs =>
  some (cs.takeWhile p, cs.dropWhile p)

def skipWhile (p : Char → Bool) : Scanner Unit := fun cs => some ((), cs.dropWhile p)

def take (n : Nat) : Scanner (List Char) := fun cs =>
  if cs.length < n then none else some (cs.take n, cs.drop n)

def ofOption : Option α → Scanner α
  | some a => pure a
  | none => fail

/-- More steps than can be taken in the text that is left, if each takes a character. -/
def bound : Scanner Nat := do return (← rest).length + 1

/-- Items between commas up to a closing mark, before which another comma may stand. `skip` passes over what may
stand around them. -/
def separated (skip : Scanner Unit) (close : Char) (item : Scanner α) : Nat → Scanner (List α)
  | 0 => fail
  | fuel + 1 => do
    skip
    if ← accept close.toString then return []
    let a ← item
    skip
    if ← accept "," then return a :: (← separated skip close item fuel)
    expect close
    return [a]

/-- The result on a whole text, all of which must be taken. -/
def onAll (s : Scanner α) (text : String) : Option α :=
  match s text.toList with
  | some (a, []) => some a
  | _ => none

end Scanner

def digitIn? (base : Nat) (c : Char) : Option Nat :=
  let value :=
    if c.isDigit then c.toNat - '0'.toNat
    else if 'a' ≤ c ∧ c ≤ 'z' then c.toNat - 'a'.toNat + 10
    else if 'A' ≤ c ∧ c ≤ 'Z' then c.toNat - 'A'.toNat + 10
    else 36
  if value < base then some value else none

/-- The number that some digits write; there must be at least one. -/
def natIn? (base : Nat) (cs : List Char) : Option Nat :=
  if cs.isEmpty then none
  else cs.foldlM (fun n c => (digitIn? base c).map (n * base + ·)) 0

/-- The character of a code point; surrogates have none. -/
def charAt? (n : Nat) : Option Char :=
  if n < 0xD800 ∨ (0xDFFF < n ∧ n < 0x110000) then some (Char.ofNat n) else none

end ApiLens
