import ApiLens.Text.DomainTable

/-!
Text in composed form: a letter and the marks after it are one character where there is one, and the marks that
are left stand in their order.
-/

namespace ApiLens.Composed

/-- The place of a mark among those after one letter; letters have place zero. -/
def order (c : Char) : Nat := DomainTable.order.value c

namespace Syllable

/-- Syllables lie by initial, vowel and final, of which the first is none. -/
def first : Nat := 0xAC00
def initials : Nat := 0x1100
def vowels : Nat := 0x1161
def finals : Nat := 0x11A7
def initialCount : Nat := 19
def vowelCount : Nat := 21
def finalCount : Nat := 28

def parts? (c : Nat) : Option (Nat × Nat) :=
  let i := c - first
  if c < first ∨ initialCount * vowelCount * finalCount ≤ i then none
  else if i % finalCount = 0 then
    some (initials + i / (vowelCount * finalCount), vowels + i / finalCount % vowelCount)
  else some (c - i % finalCount, finals + i % finalCount)

def compose? (a b : Nat) : Option Nat :=
  let initial := a - initials
  let vowel := b - vowels
  let open? := a - first
  if initials ≤ a ∧ initial < initialCount ∧ vowels ≤ b ∧ vowel < vowelCount then
    some (first + (initial * vowelCount + vowel) * finalCount)
  else if first ≤ a ∧ open? < initialCount * vowelCount * finalCount ∧ open? % finalCount = 0
      ∧ finals < b ∧ b < finals + finalCount then
    some (a + (b - finals))
  else none

end Syllable

/-- The two characters that a character is composed of. -/
def parts? (c : Char) : Option (Char × Char) :=
  match Syllable.parts? c.toNat with
  | some (a, b) => some (Char.ofNat a, Char.ofNat b)
  | none =>
    match DomainTable.composition.find? c.toNat with
    | some (.points [a, b]) => some (Char.ofNat a, Char.ofNat b)
    | _ => none

def compose? (a b : Char) : Option Char :=
  match Syllable.compose? a.toNat b.toNat with
  | some c => some (Char.ofNat c)
  | none =>
    (List.find? (·.image = .points [a.toNat, b.toNat]) DomainTable.composition).map
      fun r => Char.ofNat r.first

/-- A character and the marks that it holds. Only what comes first can be divided again. -/
def decompose : (depth : Nat) → Char → List Char
  | 0, c => [c]
  | depth + 1, c =>
    match parts? c with
    | some (a, b) => decompose depth a ++ [b]
    | none => [c]

/-- Puts a mark behind those that come before it. -/
def insertMark (m : Char) : List Char → List Char
  | [] => [m]
  | c :: rest => if order c ≤ order m then c :: insertMark m rest else m :: c :: rest

/-- Puts marks in order. `marks` holds those since the last letter. -/
def arrange (marks : List Char) : List Char → List Char
  | [] => marks
  | c :: rest =>
    if order c = 0 then marks ++ c :: arrange [] rest else arrange (insertMark c marks) rest

/-- Composes the marks after a letter with it. `marks` holds those that stay, the last one first. -/
def composeAfter (letter : Char) (marks : List Char) : List Char → List Char
  | [] => letter :: marks.reverse
  | c :: rest =>
    let isBlocked := marks.head?.any fun m => order c = 0 || order c ≤ order m
    match if isBlocked then none else compose? letter c with
    | some composed => composeAfter composed marks rest
    | none =>
      if order c = 0 then letter :: (marks.reverse ++ composeAfter c [] rest)
      else composeAfter letter (c :: marks) rest

/-- Marks before the first letter stay. -/
def composeAll : List Char → List Char
  | [] => []
  | c :: rest => if order c = 0 then composeAfter c [] rest else c :: composeAll rest

/-- The composed form of a text. -/
def normalize (cs : List Char) : List Char :=
  composeAll (arrange [] (cs.flatMap (decompose 4)))

end ApiLens.Composed
