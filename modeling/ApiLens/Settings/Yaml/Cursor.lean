/-!
A place in a YAML text, and the blanks, comments and line ends that may be passed over there.

The text ends at its first NUL character, if it has one.
-/

namespace ApiLens.Yaml

section Characters

def isBlank (c : Char) : Bool := c == ' ' || c == '\t'

def isBreak (c : Char) : Bool := c == '\n' || c == '\r'

/-- The end of the text reads as this character. -/
def endMark : Char := '\x00'

def isBreakOrEnd (c : Char) : Bool := isBreak c || c == endMark

/-- Whether a word ends before a character. -/
def isGap (c : Char) : Bool := isBlank c || isBreakOrEnd c

/-- Characters that give flow collections their form. -/
def isFlowMark (c : Char) : Bool := [',', '[', ']', '\x7b', '\x7d'].contains c

def isWordChar (c : Char) : Bool := c.isAlphanum || c == '_' || c == '-'

end Characters

structure Cursor where
  rest : List Char
  index : Nat := 0
  line : Nat := 0
  column : Nat := 0
  /-- Whether only blanks stand before it on its line. -/
  isLeading : Bool := true

namespace Cursor

def charAt (c : Cursor) (n : Nat) : Char := (c.rest.drop n).head?.getD endMark

def head (c : Cursor) : Char := c.charAt 0

/-- Passes over blanks. -/
def skipBlanks (c : Cursor) (n : Nat) : Cursor :=
  { c with rest := c.rest.drop n, index := c.index + n, column := c.column + n }

/-- Passes over characters that are no blanks. -/
def skip (c : Cursor) (n : Nat) : Cursor := { c.skipBlanks n with isLeading := false }

def skipBreak (c : Cursor) : Cursor :=
  match c.rest with
  | '\r' :: '\n' :: rest => ⟨rest, c.index + 2, c.line + 1, 0, true⟩
  | _ :: rest => ⟨rest, c.index + 1, c.line + 1, 0, true⟩
  | [] => c

def word (c : Cursor) (p : Char → Bool) : List Char := c.rest.takeWhile p

/-- Takes the longest word of some characters. -/
def takeWord (c : Cursor) (p : Char → Bool) : List Char × Cursor :=
  (c.word p, c.skip (c.word p).length)

/-- Passes over a comment. -/
def skipLine (c : Cursor) : Cursor := c.skip (c.word (!isBreakOrEnd ·)).length

/-- Whether a line that starts or ends a document begins here. -/
def isDocumentMark (c : Cursor) : Bool :=
  c.column == 0 && [['-', '-', '-'], ['.', '.', '.']].contains (c.rest.take 3) && isGap (c.charAt 3)

/-- Blanks that were passed over. -/
structure Blanks where
  hasTab : Bool
  hasSpace : Bool

/-- Passes over blanks and a comment, which must not stand right behind something else. -/
def toLineEnd (c : Cursor) (tabs : Bool) : Option (Blanks × Cursor) :=
  let run := c.word fun d => d == ' ' || (tabs && d == '\t')
  let after := c.skipBlanks run.length
  let blanks : Blanks := ⟨run.contains '\t', run.contains ' '⟩
  if after.head == '#' then if run.isEmpty then none else some (blanks, after.skipLine)
  else some (blanks, after)

/-- Whether a line goes on with something else than a comment. -/
def isMidLine (c : Cursor) : Bool := !isBreakOrEnd c.head

/-- Passes over spaces, comments and line ends, of which there must be a space or a line end. The flags tell
whether there was one so far and whether there was a line end. -/
def skipSpace : Nat → (any line : Bool) → Cursor → Option (Bool × Cursor)
  | 0, _, _, _ => none
  | fuel + 1, any, line, c =>
    if c.head == ' ' then skipSpace fuel true line (c.skipBlanks 1)
    else if isBreak c.head then skipSpace fuel true true c.skipBreak
    else if c.head == '#' then skipSpace fuel any line c.skipLine
    else if any then some (line, c)
    else none

end Cursor
end ApiLens.Yaml
