import ApiLens.Text.Composed
import ApiLens.Uri.Punycode

/-!
Domain names in ASCII.

The characters of a name are mapped, so that spellings that look alike become one, and composed. Then each label is
looked at, and what is not ASCII is written in punycode behind `xn--`. A label that comes in this form must be one
that writing gives.
-/

namespace ApiLens.DomainName

def isAscii (c : Char) : Bool := c.toNat < 128

/-- Characters that no domain name of a URI holds. -/
def isForbidden (c : Char) : Bool :=
  c.toNat ≤ 0x20 || c.toNat == 0x7f
    || ['#', '/', ':', '<', '>', '?', '@', '[', '\\', ']', '^', '|', '%'].contains c

/-- What a character becomes, unless names cannot have it. -/
def mapped? (c : Char) : Option (List Char) :=
  if isAscii c then some [c.toLower]
  else
    match DomainTable.mapping.find? c.toNat with
    | none => some [c]
    | some image => (image.of c.toNat).map (·.map Char.ofNat)

section Marks

def isNonspacing (c : Char) : Bool := DomainTable.marks.value c == 1

def isMark (c : Char) : Bool := DomainTable.marks.value c != 0

end Marks

section Joiners

def nonJoiner : Char := '\u200c'

def joiner : Char := '\u200d'

inductive Joining
  | none
  | both
  | left
  | right
  | transparent
deriving DecidableEq

def joining (c : Char) : Joining :=
  if isNonspacing c then .transparent
  else
    match DomainTable.joining.value c with
    | 1 => .both
    | 2 => .left
    | 3 => .right
    | 4 => .transparent
    | _ => .none

/-- Whether the nearest letter joins on a side. -/
def joins (side : Joining) (cs : List Char) : Bool :=
  match cs.dropWhile (joining · = .transparent) with
  | c :: _ => joining c = .both || joining c = side
  | [] => false

/-- The sign that takes the vowel off a letter has this place among marks. -/
def isVirama (c : Char) : Bool := Composed.order c == 9

/-- A joiner needs a virama before it; a non-joiner may also part letters that would join. `before` holds the
characters before these, the last one first. -/
def joinersFit (before : List Char) : List Char → Bool
  | [] => true
  | c :: after =>
    let fits :=
      if c = joiner then before.head?.any isVirama
      else if c = nonJoiner then
        before.head?.any isVirama || (joins .left before && joins .right after)
      else true
    fits && joinersFit (c :: before) after

end Joiners

section Directions

inductive Direction
  | toRight
  | toLeft
  | arabicNumber
  | europeanNumber
  | neutral
  | mark
  | none
deriving DecidableEq

/-- Marks without a width that run to the right all the same. -/
def rightwardMarks : List Char :=
  ['\u0cbf', '\u0cc6', Char.ofNat 0x11a07, Char.ofNat 0x11a08, Char.ofNat 0x11c3f]

def direction (c : Char) : Direction :=
  if isNonspacing c then if rightwardMarks.contains c then .toRight else .mark
  else
    match DomainTable.directions.value c with
    | 0 => .toRight
    | 1 => .toLeft
    | 2 => .arabicNumber
    | 3 => .europeanNumber
    | 4 => .neutral
    | _ => .none

/-- Whether a name has anything that runs to the left. -/
def isLeftward (c : Char) : Bool := direction c = .toLeft || direction c = .arabicNumber

/-- A label runs one way, as its first letter does. Marks at its end do not count, and numbers of two kinds do not
stand in one that runs to the left. -/
def runsOneWay (label : List Char) : Bool :=
  let directions := label.map direction
  match directions, directions.reverse.dropWhile (· = .mark) with
  | .toRight :: _, last :: _ =>
    (last = .toRight || last = .europeanNumber)
      && directions.all ([.toRight, .europeanNumber, .neutral, .mark].contains ·)
  | .toLeft :: _, last :: _ =>
    [.toLeft, .europeanNumber, .arabicNumber].contains last
      && directions.all fun d => d != .toRight && d != .none
      && !(directions.contains .europeanNumber && directions.contains .arabicNumber)
  | [], _ => true
  | _, _ => false

end Directions

/-- A label as it is read and as it is written. -/
structure Label where
  text : List Char
  ascii : List Char

namespace Label

def mark : List Char := ['x', 'n', '-', '-']

/-- A label does not start with a mark, and its joiners stand where they may. -/
def isProper (text : List Char) : Bool := !text.head?.any isMark && joinersFit [] text

/-- Whether mapping and composing leave a text as it is. -/
def isSettled (text : List Char) : Bool :=
  text.all (fun c => mapped? c = some [c]) && Composed.normalize text = text

/-- A label behind the mark: its code is not too long and does not end in a hyphen. -/
def ofCode? (code : List Char) : Option Label := do
  guard (code.length ≤ 2000 && code.getLast? != some '-' && code.all isAscii)
  let text ← Punycode.decode? code
  guard (isSettled text && isProper text && !text.all isAscii)
  return ⟨text, mark ++ code⟩

def ofText? (text : List Char) : Option Label :=
  if mark.isPrefixOf text then ofCode? (text.drop mark.length)
  else if text.all isAscii then some ⟨text, text⟩
  else if text.length ≤ 1000 && isProper text then some ⟨text, mark ++ Punycode.encode text⟩
  else none

end Label

/-- The name in ASCII. -/
def ascii? (name : List Char) : Option (List Char) := do
  let text := Composed.normalize (← name.mapM mapped?).flatten
  guard (!text.any isForbidden)
  let labels ← (splitAt '.' text).mapM Label.ofText?
  guard (!(labels.any (·.text.any isLeftward)) || labels.all (runsOneWay ·.text))
  return List.intercalate ['.'] (labels.map Label.ascii)

end ApiLens.DomainName
