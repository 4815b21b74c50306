import ApiLens.Settings.Yaml.BlockText
import ApiLens.Settings.Yaml.PlainText
import ApiLens.Settings.Yaml.Tag

/-!
YAML as tokens: texts, anchors and tags, and the marks that give collections and documents their form.

Block collections are marked by depth alone, so tokens for their starts and ends are put in where the depth of the
text changes. A key is known by the colon after it only, so its token is put in once the colon comes.
-/

namespace ApiLens.Yaml

inductive Token
  | streamEnd
  | directive (d : Directive)
  | documentStart
  | documentEnd
  | blockListStart
  | blockTableStart
  | blockEnd
  | flowListStart
  | flowListEnd
  | flowTableStart
  | flowTableEnd
  | blockItem
  | flowItem
  | key
  | value
  | alias (name : String)
  | anchor (name : String)
  | tag (tag : Tag)
  /-- Only a plain text can stand for something else than itself. -/
  | text (isPlain : Bool) (text : String)

/-- A place where a key may have started. -/
structure KeyStart where
  isPossible : Bool := false
  /-- Whether nothing else than a key can have started there. -/
  isRequired : Bool := false
  /-- The number of the token that starts there. -/
  token : Nat := 0
  index : Nat := 0
  line : Nat := 0
  column : Nat := 0

/-- A depth that was left for a greater one. -/
structure Level where
  indent : Int
  /-- Whether a block collection starts at the greater one. -/
  isBlock : Bool

structure Tokens where
  cursor : Cursor
  done : Array Token := #[]
  /-- Whether a key may start here. -/
  keyAllowed : Bool := true
  /-- One for each flow collection that is open, and one for all around them, innermost first. -/
  keyStarts : List KeyStart := [{}]
  indent : Int := -1
  /-- Innermost first. -/
  levels : List Level := []
  flowDepth : Nat := 0
  /-- Where a colon may stand right behind a key. -/
  adjacentAt : Option Nat := none
  tableStarted : Bool := false
  /-- For each flow list that is open, whether a key without braces stands in it, innermost first. -/
  pairs : List Bool := []

namespace Tokens

variable (t : Tokens)

def inFlow : Bool := t.flowDepth != 0

def push (token : Token) : Tokens := { t with done := t.done.push token }

/-- Puts a token in before one that has come already. -/
def insert (i : Nat) (token : Token) : Tokens :=
  { t with done := (t.done.take i).push token ++ t.done.drop i }

def moveTo (c : Cursor) : Tokens := { t with cursor := c }

section Keys

def keyStart : KeyStart := t.keyStarts.head?.getD {}

def setKeyStart (k : KeyStart) : Tokens := { t with keyStarts := k :: t.keyStarts.drop 1 }

/-- Notes that a key may start here. It must be one where a block collection goes on. -/
def saveKey : Tokens :=
  if t.keyAllowed then
    let isRequired := !t.inFlow && t.indent == t.cursor.column && t.levels.head?.any (·.isBlock)
    t.setKeyStart
      ⟨true, isRequired, t.done.size, t.cursor.index, t.cursor.line, t.cursor.column⟩
  else t

/-- Notes that there was no key. -/
def dropKey : Option Tokens :=
  let k := t.keyStart
  if k.isPossible && k.isRequired then none else some (t.setKeyStart { k with isPossible := false })

/-- Outside of flow collections a key stands on one line, and is not too long. -/
def isStale (k : KeyStart) : Bool :=
  k.isPossible && !t.inFlow && (k.line < t.cursor.line || k.index + 1024 < t.cursor.index)

def dropStaleKeys : Option Tokens :=
  if t.keyStarts.any fun k => t.isStale k && k.isRequired then none
  else some { t with
    keyStarts := t.keyStarts.map fun k => if t.isStale k then { k with isPossible := false } else k }

end Keys

section Depth

/-- Goes deeper for a block collection. Its token comes in before the key that starts it, if there is one. -/
def deepen (column : Int) (before : Option Nat) (token : Token) : Tokens :=
  if t.inFlow then t
  else
    let t := match t.levels with
      | ⟨indent, false⟩ :: rest =>
        if t.indent ≤ column then { t with indent, levels := rest } else t
      | _ => t
    if t.indent < column then
      let t := { t with levels := ⟨t.indent, true⟩ :: t.levels, indent := column }
      match before with
      | some i => t.insert i token
      | none => t.push token
    else t

/-- Goes one column deeper, for what is inside of a block collection. -/
def deepenByOne : Tokens :=
  if !t.inFlow && t.levels.head?.any (·.isBlock) then
    { t with levels := ⟨t.indent, false⟩ :: t.levels, indent := t.indent + 1 }
  else t

/-- Leaves depths greater than a column, and the block collections at them. -/
def leave (column : Int) : Tokens :=
  if t.inFlow then t else go t t.levels
where
  go (t : Tokens) : List Level → Tokens
    | [] => t
    | level :: rest =>
      if column < t.indent then
        let t := { t with indent := level.indent, levels := rest }
        go (if level.isBlock then t.push .blockEnd else t) rest
      else t

/-- Leaves depths that belong to no block collection. -/
def leaveInner : Tokens := go t t.levels
where
  go (t : Tokens) : List Level → Tokens
    | ⟨indent, false⟩ :: rest => go { t with indent, levels := rest } rest
    | _ => t

end Depth

section Between

/-- Passes over blanks, comments and line ends. A tab must not stand for depth, and after a line end a key may
start. -/
def skipToToken : Nat → Tokens → Option Tokens
  | 0, _ => none
  | fuel + 1, t =>
    let c := t.cursor
    if c.head == '\t' && !t.levels.isEmpty && c.isLeading && c.column < t.indent then do
      let (_, c) ← c.toLineEnd true
      guard (!c.isMidLine)
      skipToToken fuel (t.moveTo c)
    else if isBlank c.head then skipToToken fuel (t.moveTo (c.skipBlanks 1))
    else if isBreak c.head then
      skipToToken fuel { t with cursor := c.skipBreak, keyAllowed := t.keyAllowed || !t.inFlow }
    else if c.head == '#' then skipToToken fuel (t.moveTo c.skipLine)
    else some t

def skipped : Option Tokens := skipToToken (t.cursor.rest.length + 1) t

def toLineEnd : Option Tokens := do
  let (_, c) ← t.cursor.toLineEnd true
  return t.moveTo c

end Between

section Marks

/-- A mark of so many characters that stands for a document. -/
def documentMark (token : Token) : Option Tokens := do
  let t ← (t.leave (-1)).dropKey
  return { t with cursor := t.cursor.skip 3, keyAllowed := false }.push token

/-- Ends a key without braces in a flow list. -/
def endPair : Tokens :=
  match t.pairs with
  | true :: rest => { t with tableStarted := false, pairs := false :: rest }.push .flowTableEnd
  | _ => t

def flowStart (token : Token) (isTable : Bool) : Option Tokens := do
  let t := t.saveKey.deepenByOne
  guard (t.flowDepth < 255)
  let t := { t with
    keyStarts := {} :: t.keyStarts
    flowDepth := t.flowDepth + 1
    keyAllowed := true
    cursor := t.cursor.skip 1
    tableStarted := t.tableStarted || isTable
    pairs := if isTable then t.pairs else false :: t.pairs }
  return (← t.toLineEnd).push token

def flowEnd (token : Token) (isTable : Bool) : Option Tokens := do
  let t ← t.dropKey
  let t := if t.inFlow then
      { t with flowDepth := t.flowDepth - 1, keyStarts := t.keyStarts.drop 1 }
    else t
  let t := { t with keyAllowed := false }
  let t := if isTable then t else
    let t := t.endPair
    { t with pairs := t.pairs.drop 1 }
  let t ← (t.moveTo (t.cursor.skip 1)).toLineEnd
  let t := if t.inFlow then { t with adjacentAt := some t.cursor.index } else t
  return t.push token

def flowItem : Option Tokens := do
  let t ← t.dropKey
  let t := { t with keyAllowed := true }.endPair
  return (← (t.moveTo (t.cursor.skip 1)).toLineEnd).push .flowItem

/-- A tab before the mark of an item inside of an item is refused. -/
def blockItem : Option Tokens := do
  guard (!t.inFlow && t.keyAllowed)
  let t := (t.moveTo (t.cursor.skip 1)).deepen t.cursor.column none .blockListStart
  let (blanks, c) ← t.cursor.toLineEnd true
  guard (!(blanks.hasTab && c.head == '-' && isGap (c.charAt 1)))
  let t := t.moveTo c
  let t := if isBreak c.head || isFlowMark c.head then t.deepenByOne else t
  let t ← t.dropKey
  return { t with keyAllowed := true }.push .blockItem

/-- A key that a question mark starts. -/
def openKey : Option Tokens := do
  guard (t.inFlow || t.keyAllowed)
  let t := if t.inFlow then { t with tableStarted := true }
    else t.deepen t.cursor.column none .blockTableStart
  let t ← t.dropKey
  let c := t.cursor.skip 1
  let (_, c) ← c.skipSpace (c.rest.length + 1) false false
  guard (c.head != '\t')
  return { t with cursor := c, keyAllowed := !t.inFlow }.push .key

/-- The colon after a key. In a flow list, a key without braces is a table of its own and stands on the line of its
colon. -/
def value : Option Tokens := do
  let k := t.keyStart
  let start := t.cursor
  let isPair := !t.pairs.isEmpty && !t.tableStarted
  let t := if isPair then { t with pairs := true :: t.pairs.drop 1 } else t
  let c := start.skip 1
  let (blanks, c) ← if c.head == '\t' then c.toLineEnd true else some (⟨false, false⟩, c)
  guard (!(blanks.hasTab && !blanks.hasSpace && isWordChar c.head))
  let t := t.moveTo c
  if k.isPossible then
    guard (!(isPair && k.line < start.line))
    let t := t.insert k.token .key
    let t := if isPair then t.insert k.token .flowTableStart else t
    let t := (t.deepen k.column (some k.token) .blockTableStart).deepenByOne
    return { t.setKeyStart { k with isPossible := false } with keyAllowed := false }.push .value
  else
    let t := if isPair then t.push .flowTableStart else t
    guard (t.inFlow || t.keyAllowed)
    let t := (t.deepen start.column none .blockTableStart).deepenByOne
    return { t with keyAllowed := !t.inFlow }.push .value

end Marks

section Texts

def nameToken (isAlias : Bool) : Option Tokens := do
  let t := { t.saveKey with keyAllowed := false }
  let (name, c) ← anchorName t.cursor
  return (t.moveTo c).push (if isAlias then .alias name else .anchor name)

def tagToken : Option Tokens := do
  let t := { t.saveKey with keyAllowed := false }
  let (tag, c) ← Tag.read t.inFlow t.cursor
  return (t.moveTo c).push (.tag tag)

def blockText : Option Tokens := do
  let t := { t.saveKey with keyAllowed := true }.leaveInner
  let (text, c) ← BlockText.read t.indent t.cursor
  return (t.moveTo c).push (.text false text)

/-- A colon may stand right behind a quoted text. -/
def quotedText : Option Tokens := do
  let t := { t.saveKey with keyAllowed := false }
  let (text, c) ← QuotedText.read t.indent t.inFlow t.cursor
  let t ← (t.moveTo c).skipped
  return { t with adjacentAt := some t.cursor.index }.push (.text false text)

/-- After a plain text that goes on to the start of a line a key may start. -/
def plainText : Option Tokens := do
  let t := { t.saveKey with keyAllowed := false }.leaveInner
  let (text, c) ← PlainText.read t.indent t.inFlow t.cursor
  return { t with cursor := c, keyAllowed := c.isLeading }.push (.text true text)

def directive : Option Tokens := do
  let t ← (t.leave (-1)).dropKey
  let (d, c) ← Directive.read t.cursor
  return { t with cursor := c, keyAllowed := false }.push (.directive d)

end Texts

/-- At the end all collections end, and no key may be open that has to be one. -/
def finish : Option Tokens := do
  guard (!(t.keyStarts.any fun k => k.isPossible && k.isRequired))
  return (t.leave (-1)).push .streamEnd

/-- A colon belongs to a table if a blank follows it. In a flow collection it may also stand before a mark, or right
behind a key that has its own end. -/
def isValueMark : Bool :=
  let c := t.cursor
  isGap (c.charAt 1) || (t.inFlow && (isFlowMark (c.charAt 1) || t.adjacentAt == some c.index))

/-- The token that starts here. -/
def token : Option Tokens :=
  let c := t.cursor
  match c.head with
  | '[' => t.flowStart .flowListStart false
  | '\x7b' => t.flowStart .flowTableStart true
  | ']' => t.flowEnd .flowListEnd false
  | '\x7d' => t.flowEnd .flowTableEnd true
  | ',' => t.flowItem
  | '-' => if isGap (c.charAt 1) then t.blockItem else t.plainText
  | '?' => if isGap (c.charAt 1) then t.openKey else t.plainText
  | ':' => if t.isValueMark then t.value else t.plainText
  | '*' => t.nameToken true
  | '&' => t.nameToken false
  | '!' => t.tagToken
  | '|' => if t.inFlow then t.plainText else t.blockText
  | '>' => if t.inFlow then t.plainText else t.blockText
  | '\'' => t.quotedText
  | '"' => t.quotedText
  | '%' => none
  | '@' => none
  | '\x60' => none
  | _ => t.plainText

/-- Reads one token, and the ends of collections before it. -/
def step : Option Tokens := do
  let t ← (← t.skipped).dropStaleKeys
  let c := t.cursor
  let t := t.leave c.column
  if c.head == endMark then t.finish
  else if c.column == 0 && c.head == '%' then t.directive
  else if c.isDocumentMark then
    if c.head == '-' then t.documentMark .documentStart
    else do
      let t ← (← t.documentMark .documentEnd).toLineEnd
      guard (!t.cursor.isMidLine)
      return t
  else do
    guard (t.indent ≤ c.column)
    t.token

def run : Nat → Tokens → Option Tokens
  | 0, _ => none
  | fuel + 1, t =>
    match t.done.back? with
    | some .streamEnd => some t
    | _ => (step t).bind (run fuel)

/-- The tokens of a text. -/
def ofText (text : List Char) : Option (List Token) :=
  (run (text.length + 3) { cursor := ⟨text, 0, 0, 0, true⟩ }).map (·.done.toList)

end Tokens
end ApiLens.Yaml
