import ApiLens.Settings.Datum

/-!
The words of RON: blanks and comments, names, texts and numbers.
-/

namespace ApiLens.Ron

open Scanner

section Blanks

def isBlank (c : Char) : Bool := [' ', '\t', '\n', '\r'].contains c

/-- The text after the end of a block comment; such comments nest. -/
def afterBlock : (depth : Nat) → List Char → Option (List Char)
  | _, [] => none
  | depth, '/' :: '*' :: cs => afterBlock (depth + 1) cs
  | 0, '*' :: '/' :: cs => some cs
  | depth + 1, '*' :: '/' :: cs => afterBlock depth cs
  | depth, _ :: cs => afterBlock depth cs

def skipSome : Nat → Scanner Unit
  | 0 => pure ()
  | fuel + 1 => do
    skipWhile isBlank
    if ← accept "//" then
      skipWhile (· != '\n')
      skipSome fuel
    else if ← accept "/*" then
      set (← ofOption (afterBlock 0 (← rest)))
      skipSome fuel

/-- Passes over blanks and comments. -/
def skip : Scanner Unit := do skipSome (← bound)

/-- What stands between commas up to a closing mark. -/
def listed (close : Char) (item : Scanner α) : Scanner (List α) := do
  separated skip close item (← bound)

end Blanks

section Names

def isNameStart (c : Char) : Bool := c.isAlpha || c == '_'

def isNamePart (c : Char) : Bool := c.isAlphanum || c == '_'

def isRawPart (c : Char) : Bool := isNamePart c || ['.', '+', '-'].contains c

/-- A name. A raw one, which a mark starts, may hold more characters; another one must not run into these. -/
def name : Scanner String := fun cs =>
  match cs with
  | 'r' :: '"' :: _ => none
  | 'r' :: '#' :: cs =>
    let word := cs.takeWhile isRawPart
    if word.isEmpty then none else some (String.ofList word, cs.dropWhile isRawPart)
  | cs =>
    let word := cs.takeWhile isNamePart
    let after := cs.dropWhile isNamePart
    if !cs.head?.any isNameStart || after.head?.any isRawPart then none
    else some (String.ofList word, after)

/-- Takes a word off if the text goes on with it and it ends there. -/
def acceptWord (word : String) : Scanner Bool := fun cs =>
  let after := cs.drop word.length
  if word.toList.isPrefixOf cs && !after.head?.any isNamePart then some (true, after)
  else some (false, cs)

end Names

section Texts

/-- A code point between braces, of six digits at most. -/
def codePoint : Scanner Char := do
  expect '\x7b'
  let digits ← takeWhile fun c => (digitIn? 16 c).isSome
  expect '\x7d'
  if 6 < digits.length then fail
  ofOption ((natIn? 16 digits).bind charAt?)

/-- The character that an escape stands for, after its backslash. -/
def escaped : Scanner Char := do
  match ← next with
  | '\'' => return '\''
  | '"' => return '"'
  | '\\' => return '\\'
  | 'n' => return '\n'
  | 'r' => return '\r'
  | 't' => return '\t'
  | '0' => return '\x00'
  | 'x' => ofOption ((natIn? 16 (← take 2)).bind charAt?)
  | 'u' => codePoint
  | _ => fail

def textBody (seen : List Char) : Nat → Scanner String
  | 0 => fail
  | fuel + 1 => do
    match ← next with
    | '"' => return String.ofList seen.reverse
    | '\\' => textBody ((← escaped) :: seen) fuel
    | c => textBody (c :: seen) fuel

/-- A raw text ends at a quote with as many hashes as it started with. -/
def rawBody (hashes : List Char) (seen : List Char) : Nat → Scanner String
  | 0 => fail
  | fuel + 1 => do
    let c ← next
    if c = '"' then
      if ← accept (String.ofList hashes) then return String.ofList seen.reverse
    rawBody hashes (c :: seen) fuel

def text : Scanner String := do
  if ← accept "\"" then textBody [] (← bound)
  else
    expect 'r'
    let hashes ← takeWhile (· == '#')
    expect '"'
    rawBody hashes [] (← bound)

/-- A single character, which is no quote unless it is escaped. -/
def character : Scanner Char := do
  expect '\''
  let c ← next
  if c = '\'' then fail
  let c ← if c = '\\' then escaped else pure c
  expect '\''
  return c

end Texts

section Numbers

def isIntPart (c : Char) : Bool := (digitIn? 16 c).isSome || c == '_'

def isRealPart (c : Char) : Bool := c.isDigit || ['.', 'e', 'E', '+', '-', '_'].contains c

def splitSign : List Char → Option Bool × List Char
  | '-' :: cs => (some true, cs)
  | '+' :: cs => (some false, cs)
  | cs => (none, cs)

def splitBase : List Char → Nat × List Char
  | '0' :: 'x' :: cs => (16, cs)
  | '0' :: 'b' :: cs => (2, cs)
  | '0' :: 'o' :: cs => (8, cs)
  | cs => (10, cs)

/-- A whole number. One with a sign fits 64 bits with it, and another one 64 bits without; of those the larger half
counts as numbers with a point. -/
def int : Scanner Datum := fun cs => do
  let (sign, cs) := splitSign cs
  let (base, cs) := splitBase cs
  let digits := cs.takeWhile isIntPart
  if digits.head? = some '_' then none
  let n ← natIn? base (digits.filter (· != '_'))
  let i : Int := if sign = some true then -n else n
  let rest := cs.dropWhile isIntPart
  if fitsSigned 64 i then return (.int i, rest)
  if sign.isSome || !fitsUnsigned 64 i then none
  return (.real (.finite (← Binary64.ofNat? n)), rest)

/-- Words for numbers without digits. -/
def specialReals : List (String × Real) :=
  [("+inf", .infinite false), ("-inf", .infinite true), ("+NaN", .nan), ("-NaN", .nan)]

/-- A number with a point, without underscores. -/
def real : Scanner Datum := do
  for (word, x) in specialReals do
    if ← acceptWord word then return .real x
  return .real (← ofOption (Real.ofText? (← takeWhile isRealPart)))

/-- Whether a number has a point or a signed exponent, as far as its length tells. What looks whole but is not is read
as the other kind. -/
def isReal (cs : List Char) : Bool :=
  let body := (splitSign cs).2
  (body.takeWhile isIntPart).length < (body.takeWhile isRealPart).length

def number : Scanner Datum := fun cs =>
  if isReal cs then real cs else int cs <|> real cs

end Numbers

end ApiLens.Ron
