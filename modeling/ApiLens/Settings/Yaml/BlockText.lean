import ApiLens.Settings.Yaml.Cursor

/-!
Texts in lines of their own. A literal one keeps its line ends, and a folded one makes blanks of those between lines
that are not deeper than the text. A header tells what becomes of the line ends after it, and may tell how deep it is.
-/

namespace ApiLens.Yaml.BlockText

/-- What becomes of the line ends after the text: the first one stays, or all, or none. -/
inductive Chomping
  | clip
  | keep
  | strip
deriving DecidableEq

def chomping? (c : Char) : Option Chomping :=
  if c == '+' then some .keep else if c == '-' then some .strip else none

/-- How much deeper the text is than what is around it. -/
def depth? (c : Char) : Option Nat :=
  if c.isDigit then some (c.toNat - '0'.toNat) else none

structure Header where
  chomping : Chomping := .clip
  depth : Option Nat := none

/-- Reads a header: its two parts may stand in either order. -/
def header (c : Cursor) : Option (Header × Cursor) := do
  let (h, c) : Header × Cursor := match chomping? c.head, depth? c.head with
    | some chomping, _ =>
      match depth? (c.charAt 1) with
      | some depth => (⟨chomping, some depth⟩, c.skip 2)
      | none => (⟨chomping, none⟩, c.skip 1)
    | none, some depth =>
      match chomping? (c.charAt 1) with
      | some chomping => (⟨chomping, some depth⟩, c.skip 2)
      | none => (⟨.clip, some depth⟩, c.skip 1)
    | none, none => ({}, c)
  guard (h.depth != some 0)
  let (_, c) ← c.toLineEnd true
  guard (!c.isMidLine)
  return (h, c)

/-- Passes over spaces up to a depth, and over lines that hold nothing else, which are counted. -/
def skipIndent (indent : Nat) : Nat → (breaks : Nat) → Cursor → Nat × Cursor
  | 0, breaks, c => (breaks, c)
  | fuel + 1, breaks, c =>
    let spaces := (c.word (· == ' ')).length
    let c := c.skipBlanks (min spaces (indent - c.column))
    if isBreak c.head then skipIndent indent fuel (breaks + 1) c.skipBreak else (breaks, c)

/-- Passes over spaces and lines that hold nothing else. The deepest place that is reached counts. -/
def skipFirst : Nat → (deepest breaks : Nat) → Cursor → Nat × Nat × Cursor
  | 0, deepest, breaks, c => (deepest, breaks, c)
  | fuel + 1, deepest, breaks, c =>
    let c := c.skipBlanks (c.word (· == ' ')).length
    let deepest := max deepest c.column
    if isBreak c.head then skipFirst fuel deepest (breaks + 1) c.skipBreak else (deepest, breaks, c)

def breaks (n : Nat) : List Char := List.replicate n '\n'

/-- A text as far as it is read. -/
structure Progress where
  /-- The text, backwards. -/
  seen : List Char := []
  /-- Whether a line end came after it. -/
  isBroken : Bool := false
  /-- Line ends of empty lines after that. -/
  empty : Nat := 0
  /-- Whether the last line starts with a blank. -/
  isDeep : Bool := false

/-- What stands before the next line: a line end folds between lines that start with no blank. -/
def Progress.joint (p : Progress) (isFolded : Bool) (deep : Bool) : List Char :=
  if isFolded && p.isBroken && !p.isDeep && !deep then
    if p.empty == 0 then [' '] else breaks p.empty
  else breaks ((if p.isBroken then 1 else 0) + p.empty)

def lines (isFolded : Bool) (indent : Nat) : Nat → Progress → Cursor → Progress × Cursor
  | 0, p, c => (p, c)
  | fuel + 1, p, c =>
    if c.column != indent || c.head == endMark || c.isDocumentMark then (p, c)
    else
      let deep := isBlank c.head
      let (line, after) := c.takeWord (!isBreakOrEnd ·)
      let seen := line.reverse ++ (p.joint isFolded deep ++ p.seen)
      if after.head == endMark then (⟨seen, false, 0, deep⟩, after)
      else
        let (empty, next) := skipIndent indent after.rest.length 0 after.skipBreak
        lines isFolded indent fuel ⟨seen, true, empty, deep⟩ next

/-- What stands at the end of the text. A last line that does not end gets a line end. -/
def Progress.tail (p : Progress) (chomping : Chomping) (atEnd : Bool) : List Char :=
  match chomping with
  | .strip => []
  | .clip => breaks ((if p.isBroken then 1 else 0) + (if atEnd then 1 else 0))
  | .keep => breaks ((if p.isBroken then 1 else 0) + (if atEnd then 1 else 0) + p.empty)

/-- A text that ends before it has a line. -/
def empty (chomping : Chomping) (isBroken : Bool) (count : Nat) : String :=
  if chomping = .strip || !isBroken then ""
  else if chomping = .keep && count != 0 then String.ofList (breaks count)
  else "\n"

/-- A text from its mark on, in something that is `around` deep. -/
def read (around : Int) (c : Cursor) : Option (String × Cursor) := do
  let isFolded := c.head == '>'
  let start := c.line
  let (h, c) ← header (c.skip 1)
  let c := if isBreak c.head then c.skipBreak else c
  guard (c.head != '\t')
  let (indent, count, c) := match h.depth with
    | some depth =>
      let indent := if 0 ≤ around then around.toNat + depth else depth
      let (count, c) := skipIndent indent (c.rest.length + 1) 0 c
      (indent, count, c)
    | none =>
      let (deepest, count, c) := skipFirst (c.rest.length + 1) 0 0 c
      let indent := max deepest (around + 1).toNat
      (if 0 < around then max indent 1 else indent, count, c)
  if c.head == endMark then return (empty h.chomping (c.line != start) count, c)
  guard (!(c.column < indent && around < c.column))
  let (p, c) := lines isFolded indent (c.rest.length + 1) { empty := count } c
  let atEnd := c.head == endMark && max indent 1 ≤ c.column
  return (String.ofList (p.seen.reverse ++ p.tail h.chomping atEnd), c)

end ApiLens.Yaml.BlockText
