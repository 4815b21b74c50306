import ApiLens.Settings.Yaml.QuotedText

/-!
Texts without quotes. One ends before a colon that a blank follows, before a comment, and in a flow collection before
the marks of that; outside of flow collections it may go on on deeper lines only.
-/

namespace ApiLens.Yaml.PlainText

/-- Whether the character here may belong to the text. -/
def goesOn (inFlow : Bool) (c : Cursor) : Bool :=
  let d := c.head
  if isGap d then false
  else if d == ':' then !(isGap (c.charAt 1) || (inFlow && isFlowMark (c.charAt 1)))
  else !(inFlow && isFlowMark d)

/-- A part without blanks. `seen` holds the text before it, backwards. -/
def part (inFlow : Bool) : Nat → (seen : List Char) → Cursor → List Char × Cursor
  | 0, seen, c => (seen, c)
  | fuel + 1, seen, c =>
    if goesOn inFlow c then part inFlow fuel (c.head :: seen) (c.skip 1) else (seen, c)

/-- Blanks and line ends after a part. A tab must not stand for depth. -/
def between (indent : Int) : Nat → (blanks : List Char) → Option Fold → Cursor →
    Option (List Char × Option Fold × Cursor)
  | 0, _, _, _ => none
  | fuel + 1, blanks, fold, c =>
    if isBlank c.head then
      if !c.isLeading then between indent fuel (c.head :: blanks) fold (c.skipBlanks 1)
      else if c.head == '\t' && c.column < indent then do
        let (_, c) ← c.toLineEnd true
        guard (!c.isMidLine)
        between indent fuel blanks fold c
      else between indent fuel blanks fold (c.skipBlanks 1)
    else if isBreak c.head then
      let fold : Fold := match fold with
        | some f => if c.isLeading then { f with kept := f.kept + 1 } else { f with isOpen := true }
        | none => if c.isLeading then { kept := 1 } else { isOpen := true }
      between indent fuel (if c.isLeading then blanks else []) (some fold) c.skipBreak
    else some (blanks, fold, c)

/-- The parts of a text. `pending` is what stands before the next one if there is one. -/
def parts (indent : Int) (inFlow : Bool) : Nat → (seen pending : List Char) → Cursor →
    Option (List Char × Cursor)
  | 0, _, _, _ => none
  | fuel + 1, seen, pending, c =>
    if c.isDocumentMark || c.head == '#' then some (seen, c)
    else if inFlow && c.head == '-' && isFlowMark (c.charAt 1) then none
    else do
      let (seen, c) :=
        if goesOn inFlow c then part inFlow (c.rest.length + 1) (pending ++ seen) c else (seen, c)
      if !(isBlank c.head || isBreak c.head) then return (seen, c)
      let (blanks, fold, c) ← between indent (c.rest.length + 1) [] none c
      if !inFlow && c.column < indent then return (seen, c)
      let pending := match fold with
        | some f => f.text.reverse
        | none => blanks
      parts indent inFlow fuel seen pending c

/-- A text that is deeper than `indent`. -/
def read (indent : Int) (inFlow : Bool) (c : Cursor) : Option (String × Cursor) := do
  if inFlow && c.column < indent + 1 then none
  let (text, c) ← parts (indent + 1) inFlow (c.rest.length + 1) [] [] c
  return (String.ofList text.reverse, c)

end ApiLens.Yaml.PlainText
