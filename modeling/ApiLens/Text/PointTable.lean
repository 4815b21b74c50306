import ApiLens.Text.Pieces
import ApiLens.Text.Scanner

/-!
Tables that say something about code points, written down as runs.

An entry stands for code points at equal distances. It begins with how far its first one lies behind the first one
of the entry before it, and all numbers are in base 36. The number of its code points, after `*`, and their distance,
after `/`, follow unless they are one. What the table has for them comes last: a code point that lies so far away
after `+` or `-`, code points between dots after `:`, or nothing after `!`.
-/

namespace ApiLens

inductive Image
  | shift (offset : Int)
  | points (points : List Nat)
  | nothing
deriving DecidableEq, Repr

structure Run where
  first : Nat
  count : Nat
  step : Nat
  image : Image
deriving Repr

abbrev PointTable := List Run

namespace Image

def number (cs : List Char) : Nat := (natIn? 36 cs).getD 0

def read : List Char → Image
  | '+' :: cs => shift (number cs)
  | '-' :: cs => shift (-(number cs : Int))
  | [':'] => points []
  | ':' :: cs => points ((splitAt '.' cs).map number)
  | _ => nothing

/-- What the image of a code point consists of. -/
def of (c : Nat) : Image → Option (List Nat)
  | shift offset => some [(c + offset).toNat]
  | points ps => some ps
  | nothing => none

end Image

namespace Run

def covers (r : Run) (c : Nat) : Bool :=
  r.first ≤ c && (c - r.first) % r.step == 0 && (c - r.first) / r.step < r.count

/-- Reads a number that stands behind a mark; without the mark it is one. -/
def readMarked (mark : Char) : List Char → Nat × List Char
  | [] => (1, [])
  | c :: cs =>
    if c = mark then (Image.number (cs.takeWhile Char.isAlphanum), cs.dropWhile Char.isAlphanum)
    else (1, c :: cs)

def read (before : Nat) (cs : List Char) : Run :=
  let gap := Image.number (cs.takeWhile Char.isAlphanum)
  let (count, cs) := readMarked '*' (cs.dropWhile Char.isAlphanum)
  let (step, cs) := readMarked '/' cs
  ⟨before + gap, count, step, Image.read cs⟩

end Run

namespace PointTable

def readEntries (before : Nat) : List (List Char) → PointTable
  | [] => []
  | cs :: rest =>
    let r := Run.read before cs
    r :: readEntries r.first rest

/-- Reads the lines of a table. -/
def read (lines : List String) : PointTable :=
  readEntries 0 (lines.flatMap fun line => splitAt ' ' line.toList)

def find? (table : PointTable) (c : Nat) : Option Image :=
  (List.find? (·.covers c) table).map Run.image

/-- The number that a table has for a code point, zero where it has none. -/
def value (table : PointTable) (c : Char) : Nat :=
  match table.find? c.toNat with
  | some (.points [n]) => n
  | _ => 0

end PointTable
end ApiLens
