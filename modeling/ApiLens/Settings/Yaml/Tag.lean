import ApiLens.Settings.Yaml.Cursor
import ApiLens.Text.Scanner
import ApiLens.Uri.Percent

/-!
Anchors, tags and directives as they are written.
-/

namespace ApiLens.Yaml

/-- The two parts of a tag: a handle, which stands for a start that is written elsewhere, and the rest. -/
structure Tag where
  handle : String
  suffix : String

namespace Tag

def isUriChar (c : Char) : Bool :=
  (isWordChar c && c != '_') || "#;/?:@&=+$,_.!~*'()[]%".toList.contains c

def isTagChar (c : Char) : Bool := isUriChar c && !isFlowMark c && c != '!'

/-- How many bytes a character has that starts with one. -/
def width? (byte : Nat) : Option Nat :=
  if byte < 0x80 then some 1
  else if byte / 32 == 6 then some 2
  else if byte / 16 == 14 then some 3
  else if byte / 8 == 30 then some 4
  else none

/-- A byte behind a percent sign. -/
def byte (c : Cursor) : Option (Nat × Cursor) := do
  guard (c.head == '%')
  let high ← Percent.hexValue? (c.charAt 1)
  let low ← Percent.hexValue? (c.charAt 2)
  return (16 * high + low, c.skip 3)

def moreBytes : Nat → (code : Nat) → Cursor → Option (Nat × Cursor)
  | 0, code, c => some (code, c)
  | count + 1, code, c => do
    let (b, c) ← byte c
    guard (b / 64 == 2)
    moreBytes count (256 * code + b) c

/-- A character behind percent signs. Its bytes are read as the digits of its number. -/
def escaped (c : Cursor) : Option (Char × Cursor) := do
  let (b, c) ← byte c
  let (code, c) ← moreBytes ((← width? b) - 1) b c
  return (← charAt? code, c)

/-- Takes characters of a kind, escaped or not. -/
def takeChars (p : Char → Bool) : Nat → (seen : List Char) → Cursor → Option (List Char × Cursor)
  | 0, _, _ => none
  | fuel + 1, seen, c =>
    if !p c.head then some (seen.reverse, c)
    else if c.head == '%' then do
      let (d, c) ← escaped c
      takeChars p fuel (d :: seen) c
    else takeChars p fuel (c.head :: seen) (c.skip 1)

def chars (p : Char → Bool) (c : Cursor) : Option (List Char × Cursor) :=
  takeChars p (c.rest.length + 1) [] c

/-- A word between exclamation marks, of which the last may be missing. -/
def readHandle (c : Cursor) : Option (List Char × Cursor) := do
  guard (c.head == '!')
  let (word, c) := (c.skip 1).takeWord isWordChar
  if c.head == '!' then return ('!' :: word ++ ['!'], c.skip 1) else return ('!' :: word, c)

/-- Whether a handle has both its marks, so that a directive can give it a meaning. -/
def isHandle (cs : List Char) : Bool := 2 ≤ cs.length && cs.getLast? == some '!'

/-- A tag in full, between angle brackets. -/
def verbatim (c : Cursor) : Option (Tag × Cursor) := do
  let (suffix, c) ← chars isUriChar (c.skip 2)
  guard (c.head == '>')
  return (⟨"", String.ofList suffix⟩, c.skip 1)

def short (c : Cursor) : Option (Tag × Cursor) := do
  let (h, c) ← readHandle c
  let (rest, c) ← chars isTagChar c
  if isHandle h then
    guard (!rest.isEmpty)
    return (⟨String.ofList h, String.ofList rest⟩, c)
  let suffix := h.drop 1 ++ rest
  if suffix.isEmpty then return (⟨"", "!"⟩, c) else return (⟨"!", String.ofList suffix⟩, c)

def read (inFlow : Bool) (c : Cursor) : Option (Tag × Cursor) := do
  let (tag, c) ← if c.charAt 1 == '<' then verbatim c else short c
  guard (isGap c.head || (inFlow && isFlowMark c.head))
  return (tag, c)

/-- The start that a directive gives a handle. -/
def start (c : Cursor) : Option (List Char × Cursor) := do
  guard (c.head == '!' || isTagChar c.head)
  if c.head == '%' then
    let (d, c) ← escaped c
    let (rest, c) ← chars isUriChar c
    return (d :: rest, c)
  else
    let (rest, after) ← chars isUriChar (c.skip 1)
    return (c.head :: rest, after)

end Tag

/-- The name of an anchor or alias, which ends before a blank or a mark of a flow collection. -/
def anchorName (c : Cursor) : Option (String × Cursor) :=
  let isNameChar (d : Char) : Bool := !isGap d && !isFlowMark d && d != '\ufeff'
  let (name, c) := (c.skip 1).takeWord isNameChar
  if name.isEmpty then none else some (String.ofList name, c)

/-- A line with a percent sign at its start. -/
inductive Directive
  | version
  | tag (handle start : String)

namespace Directive

def skipBlanks (c : Cursor) : Cursor := c.skipBlanks (c.word isBlank).length

/-- A number of the version, of nine digits at most. -/
def number (c : Cursor) : Option Cursor :=
  let (digits, c) := c.takeWord Char.isDigit
  if digits.isEmpty || 9 < digits.length then none else some c

def version? (c : Cursor) : Option (Directive × Cursor) := do
  let c ← number (skipBlanks c)
  guard (c.head == '.')
  return (version, ← number (c.skip 1))

def tag? (c : Cursor) : Option (Directive × Cursor) := do
  let (h, c) ← Tag.readHandle (skipBlanks c)
  guard (h == ['!'] || Tag.isHandle h)
  let (start, c) ← Tag.start (skipBlanks c)
  guard (isGap c.head)
  return (tag (String.ofList h) (String.ofList start), c)

/-- Reads a directive. One with another name counts as one for a tag without a name. -/
def read (c : Cursor) : Option (Directive × Cursor) := do
  let (name, c) := (c.skip 1).takeWord isWordChar
  guard (!name.isEmpty && isGap c.head)
  let (d, c) ← match String.ofList name with
    | "YAML" => version? c
    | "TAG" => tag? c
    | _ => some (tag "" "", c.skipLine)
  let (_, c) ← c.toLineEnd true
  guard (!c.isMidLine)
  return (d, if isBreak c.head then c.skipBreak else c)

end Directive
end ApiLens.Yaml
