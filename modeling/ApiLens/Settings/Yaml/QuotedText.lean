import ApiLens.Settings.Yaml.Cursor
import ApiLens.Text.Scanner

/-!
Texts between quotes. A line end in one reads as a blank, and of several all but one stay; between double
quotes a backslash starts an escape.
-/

namespace ApiLens.Yaml

/-- Line ends between two parts of a text. -/
structure Fold where
  /-- Whether there was one that counts as a blank. -/
  isOpen : Bool := false
  /-- Line ends after it, which stay. -/
  kept : Nat := 0

/-- What stands between the two parts. -/
def Fold.text (f : Fold) : List Char :=
  if f.isOpen && f.kept == 0 then [' '] else List.replicate f.kept '\n'

namespace QuotedText

def escapes : List (Char × Char) :=
  [('0', '\x00'), ('a', '\x07'), ('b', '\x08'), ('t', '\t'), ('\t', '\t'), ('n', '\n'), ('v', '\x0b'),
    ('f', '\x0c'), ('r', '\r'), ('e', '\x1b'), (' ', ' '), ('"', '"'), ('/', '/'), ('\\', '\\'),
    ('N', '\u0085'), ('_', '\u00a0'), ('L', '\u2028'), ('P', '\u2029')]

/-- How many digits a code point has after each mark. -/
def codes : List (Char × Nat) := [('x', 2), ('u', 4), ('U', 8)]

/-- An escape, from its backslash on. -/
def escape (c : Cursor) : Option (Char × Cursor) :=
  match escapes.lookup (c.charAt 1), codes.lookup (c.charAt 1) with
  | some d, _ => some (d, c.skip 2)
  | none, some n => do
    let digits := (c.rest.drop 2).take n
    guard (digits.length = n)
    return (← charAt? (← natIn? 16 digits), c.skip (2 + n))
  | none, none => none

/-- A part without blanks. `seen` holds the text before it, backwards. The flag tells whether the part ends with
an escaped line end. -/
def part (isSingle : Bool) : Nat → (seen : List Char) → Cursor → Option (List Char × Bool × Cursor)
  | 0, _, _ => none
  | fuel + 1, seen, c =>
    let d := c.head
    if isGap d then some (seen, false, c)
    else if isSingle then
      if d == '\'' then
        if c.charAt 1 == '\'' then part isSingle fuel ('\'' :: seen) (c.skip 2)
        else some (seen, false, c)
      else part isSingle fuel (d :: seen) (c.skip 1)
    else if d == '"' then some (seen, false, c)
    else if d == '\\' then
      if isBreak (c.charAt 1) then some (seen, true, (c.skip 1).skipBreak)
      else do
        let (e, c) ← escape c
        part isSingle fuel (e :: seen) c
    else part isSingle fuel (d :: seen) (c.skip 1)

/-- Blanks and line ends between two parts. After a line end, blanks do not count, but a tab must not stand for
depth. The result holds the blanks, backwards, and the line ends, if there were any. -/
def between (indent : Int) : Nat → (blanks : List Char) → Option Fold → Cursor →
    Option (List Char × Option Fold × Cursor)
  | 0, _, _, _ => none
  | fuel + 1, blanks, fold, c =>
    if isBlank c.head then
      match fold with
      | some _ =>
        if c.head == '\t' && c.column < indent then none
        else between indent fuel blanks fold (c.skipBlanks 1)
      | none => between indent fuel (c.head :: blanks) none (c.skipBlanks 1)
    else if isBreak c.head then
      match fold with
      | some f => between indent fuel blanks (some { f with kept := f.kept + 1 }) c.skipBreak
      | none => between indent fuel [] (some { isOpen := true }) c.skipBreak
    else some (blanks, fold, c)

def parts (isSingle : Bool) (indent : Int) : Nat → (seen : List Char) → Cursor →
    Option (List Char × Cursor)
  | 0, _, _ => none
  | fuel + 1, seen, c => do
    guard (!c.isDocumentMark && c.head != endMark && indent ≤ c.column)
    let (seen, isEscaped, c) ← part isSingle (c.rest.length + 1) seen c
    if c.head == (if isSingle then '\'' else '"') then return (seen, c.skip 1)
    let start : Option Fold := if isEscaped then some {} else none
    let (blanks, fold, c) ← between indent (c.rest.length + 1) [] start c
    let seen := match fold with
      | some f => f.text.reverse ++ seen
      | none => blanks ++ seen
    parts isSingle indent fuel seen c

/-- A text from its first quote on. What follows it may end the line, or go on as the form around it allows. -/
def read (indent : Int) (inFlow : Bool) (c : Cursor) : Option (String × Cursor) := do
  let (text, after) ← parts (c.head == '\'') indent (c.rest.length + 1) [] (c.skip 1)
  let (_, after) ← after.toLineEnd true
  let d := after.head
  guard (isBreakOrEnd d || (inFlow && [',', ']', '\x7d', ':'].contains d)
    || (!inFlow && d == ':' && c.line == after.line))
  return (String.ofList text.reverse, after)

end QuotedText
end ApiLens.Yaml
