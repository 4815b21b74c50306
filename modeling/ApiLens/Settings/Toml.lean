import ApiLens.Settings.Datum

/-!
Settings files in TOML.

`Toml.parse` reads the statements of a text and builds the table that they describe. A key is given
once: tables may be opened once by a header, and dotted keys only extend tables that dotted keys made.
-/

namespace ApiLens.Toml

open Scanner

section Lexemes

def isBlank (c : Char) : Bool := c == ' ' || c == '\t'

def isControl (c : Char) : Bool := (c < ' ' && c != '\t') || c == '\x7f'

def isBare (c : Char) : Bool := c.isAlphanum || c == '_' || c == '-'

def skipBlank : Scanner Unit := skipWhile isBlank

/-- A line end, if there is one. -/
def newline : Scanner Bool := do
  if ← accept "\r\n" then return true
  accept "\n"

def comment : Scanner Unit := do
  if ← accept "#" then
    let text ← takeWhile fun c => c != '\n' && c != '\r'
    if text.any isControl then fail

/-- What ends a line after a statement: blanks, a comment, and the line end or the end of the text. -/
def endOfLine : Scanner Unit := do
  skipBlank
  comment
  if ← newline then return
  if (← peek).isSome then fail

/-- Blanks, comments and line ends. -/
def skipLines : Nat → Scanner Unit
  | 0 => pure ()
  | fuel + 1 => do
    skipBlank
    comment
    if ← newline then skipLines fuel

def codePoint (digits : Nat) : Scanner Char := do
  ofOption ((natIn? 16 (← take digits)).bind charAt?)

def escaped : Scanner Char := do
  match ← next with
  | 'b' => return '\x08'
  | 't' => return '\t'
  | 'n' => return '\n'
  | 'f' => return '\x0c'
  | 'r' => return '\r'
  | '"' => return '"'
  | '\\' => return '\\'
  | 'u' => codePoint 4
  | 'U' => codePoint 8
  | _ => fail

/-- A string on one line, after its opening quote. -/
def basicBody (seen : List Char) : Nat → Scanner String
  | 0 => fail
  | fuel + 1 => do
    match ← next with
    | '"' => return String.ofList seen.reverse
    | '\\' => basicBody ((← escaped) :: seen) fuel
    | c => if isControl c then fail else basicBody (c :: seen) fuel

def literalBody : Scanner String := do
  let text ← takeWhile (· != '\'')
  if text.any isControl then fail
  expect '\''
  return String.ofList text

/-- Three quotes close a long string; up to two more before them belong to it. -/
def closes (quote : Char) : Scanner (Option (List Char)) := do
  let quotes := ((← rest).takeWhile (· == quote)).length
  if quotes < 3 then return none
  if 5 < quotes then fail
  let text ← take quotes
  return some (text.drop 3)

/-- Blanks and line ends. -/
def skipFold : Nat → Scanner Unit
  | 0 => pure ()
  | fuel + 1 => do
    skipBlank
    if ← newline then skipFold fuel

def longBody (isLiteral : Bool) (seen : List Char) : Nat → Scanner String
  | 0 => fail
  | fuel + 1 => do
    let quote := if isLiteral then '\'' else '"'
    if let some more ← closes quote then
      return String.ofList (seen.reverse ++ more)
    if ← newline then longBody isLiteral ('\n' :: seen) fuel
    else if !isLiteral && (← peek) == some '\\' then
      let _ ← next
      let isFolded := match (← rest).dropWhile isBlank with
        | '\n' :: _ => true
        | '\r' :: '\n' :: _ => true
        | _ => false
      if isFolded then
        skipFold (← bound)
        longBody isLiteral seen fuel
      else longBody isLiteral ((← escaped) :: seen) fuel
    else
      let c ← next
      if isControl c then fail else longBody isLiteral (c :: seen) fuel

/-- A string of any of the four kinds. -/
def text : Scanner String := do
  if ← accept "\"\"\"" then
    let _ ← newline
    longBody false [] (← bound)
  else if ← accept "'''" then
    let _ ← newline
    longBody true [] (← bound)
  else if ← accept "\"" then basicBody [] (← bound)
  else if ← accept "'" then literalBody
  else fail

def simpleKey : Scanner String := do
  match ← peek with
  | some '"' =>
    expect '"'
    basicBody [] (← bound)
  | some '\'' =>
    expect '\''
    literalBody
  | _ =>
    let name ← takeWhile isBare
    if name.isEmpty then fail
    return String.ofList name

/-- Values stand in others, and tables in others, fewer times than this. -/
def maxDepth : Nat := 80

def keyParts : Nat → Scanner (List String)
  | 0 => fail
  | fuel + 1 => do
    skipBlank
    let key ← simpleKey
    skipBlank
    if ← accept "." then return key :: (← keyParts fuel)
    return [key]

/-- A key of one or more parts between dots. -/
def dottedKey : Scanner (List String) := do
  let parts ← keyParts (← bound)
  if parts.length < maxDepth then return parts else fail

end Lexemes

section Atoms

/-- Digits without their underscores, each of which must stand between two digits. -/
def plainDigits? (isDigit : Char → Bool) (cs : List Char) : Option (List Char) :=
  let parts := splitOn cs
  if parts.all fun part => !part.isEmpty && part.all isDigit then some parts.flatten else none
where
  splitOn : List Char → List (List Char)
    | [] => [[]]
    | '_' :: cs => [] :: splitOn cs
    | c :: cs =>
      match splitOn cs with
      | [] => [[c]]
      | part :: parts => (c :: part) :: parts

def radixInt? (base : Nat) (cs : List Char) : Option Datum := do
  let digits ← plainDigits? (fun c => (digitIn? base c).isSome) cs
  let n ← natIn? base digits
  if fitsSigned 64 n then return .int n else none

/-- A sign in front of a number. -/
def splitSign : List Char → Option Bool × List Char
  | '-' :: cs => (some true, cs)
  | '+' :: cs => (some false, cs)
  | cs => (none, cs)

/-- The whole part of a decimal number has no leading zero. -/
def wholePart? (cs : List Char) : Option (List Char) := do
  let digits ← plainDigits? Char.isDigit cs
  if 1 < digits.length ∧ digits.head? = some '0' then none else return digits

def isExponentMark (c : Char) : Bool := c == 'e' || c == 'E'

def number? (token : List Char) : Option Datum := do
  let (sign, cs) := splitSign token
  let negative := sign.getD false
  match cs with
  | ['i', 'n', 'f'] => return .real (.infinite negative)
  | ['n', 'a', 'n'] => return .real .nan
  | '0' :: 'x' :: digits => if sign.isNone then radixInt? 16 digits else none
  | '0' :: 'o' :: digits => if sign.isNone then radixInt? 8 digits else none
  | '0' :: 'b' :: digits => if sign.isNone then radixInt? 2 digits else none
  | cs =>
    let whole ← wholePart? (cs.takeWhile fun c => c.isDigit || c == '_')
    let after := cs.dropWhile fun c => c.isDigit || c == '_'
    if after.isEmpty then
      let n ← natIn? 10 whole
      let i : Int := if negative then -n else n
      if fitsSigned 64 i then return .int i else none
    else
      let (fraction, after) ← match after with
        | '.' :: cs => do
          let fraction ← plainDigits? Char.isDigit (cs.takeWhile (!isExponentMark ·))
          some ('.' :: fraction, cs.dropWhile (!isExponentMark ·))
        | cs => some ([], cs)
      let exponent ← match after with
        | [] => some []
        | mark :: cs =>
          if isExponentMark mark then
            let (sign, cs) := splitSign cs
            do
              let digits ← plainDigits? Char.isDigit cs
              some ('e' :: (if sign = some true then '-' :: digits else digits))
          else none
      let x ← Real.ofText? ((if negative then ['-'] else []) ++ whole ++ fraction ++ exponent)
      if x = .infinite false then none else return .real x

def isLeapYear (y : Nat) : Bool := y % 4 == 0 && (y % 100 != 0 || y % 400 == 0)

def daysIn (year month : Nat) : Nat :=
  if month = 2 then (if isLeapYear year then 29 else 28)
  else if [4, 6, 9, 11].contains month then 30
  else 31

def date? (cs : List Char) : Option (List Char) :=
  match cs with
  | [a, b, c, d, '-', e, f, '-', g, h] => do
    let year ← natIn? 10 [a, b, c, d]
    let month ← natIn? 10 [e, f]
    let day ← natIn? 10 [g, h]
    if 1 ≤ month ∧ month ≤ 12 ∧ 1 ≤ day ∧ day ≤ daysIn year month then return cs else none
  | _ => none

def hoursAndMinutes? (cs : List Char) : Option Bool :=
  match cs with
  | [a, b, ':', c, d] => do
    let hour ← natIn? 10 [a, b]
    let minute ← natIn? 10 [c, d]
    if hour ≤ 23 ∧ minute ≤ 59 then return hour = 0 ∧ minute = 0 else none
  | _ => none

/-- A time of day; a fraction keeps nine digits at most and no zeros at its end. -/
def time? (cs : List Char) : Option (List Char) := do
  let _ ← hoursAndMinutes? (cs.take 5)
  match cs.drop 5 with
  | ':' :: a :: b :: fraction =>
    let second ← natIn? 10 [a, b]
    if 60 < second then none
    match fraction with
    | [] => return cs
    | '.' :: digits =>
      let _ ← natIn? 10 digits
      let kept := ((digits.take 9).reverse.dropWhile (· == '0')).reverse
      return cs.take 8 ++ (if kept.isEmpty then [] else '.' :: kept)
    | _ => none
  | _ => none

/-- A time with an optional offset. -/
def zonedTime? (cs : List Char) : Option (List Char) := do
  let isZone (c : Char) : Bool := ['Z', 'z', '+', '-'].contains c
  let time ← time? (cs.takeWhile (!isZone ·))
  match cs.dropWhile (!isZone ·) with
  | [] => return time
  | ['Z'] => return time ++ ['Z']
  | ['z'] => return time ++ ['Z']
  | sign :: offset =>
    let isZero ← hoursAndMinutes? offset
    return time ++ ((if isZero then '+' else sign) :: offset)

/-- Dates and times stand for their text, with `T` between the two. -/
def moment? (token : List Char) : Option Datum :=
  let written := match date? (token.take 10), token.drop 10 with
    | some date, [] => some date
    | some date, mark :: time =>
      if ['T', 't', ' '].contains mark then (zonedTime? time).map fun time => date ++ 'T' :: time
      else none
    | none, _ => time? token
  written.map fun cs => .text (String.ofList cs)

def isTokenChar (c : Char) : Bool := c.isAlphanum || ['_', '+', '-', '.', ':'].contains c

/-- A value that is not quoted. After a date a blank may stand for the `T`. -/
def atom : Scanner Datum := do
  let first ← takeWhile isTokenChar
  let isTimeNext := match ← rest with
    | ' ' :: a :: b :: ':' :: _ => a.isDigit && b.isDigit
    | _ => false
  let token ← if (date? first).isSome && isTimeNext then do
      let _ ← next
      pure (first ++ ' ' :: (← takeWhile isTokenChar))
    else pure first
  match String.ofList token with
  | "true" => return .bool true
  | "false" => return .bool false
  | _ => ofOption (number? token <|> moment? token)

end Atoms

section Tables

/-- How a table came to be: named on the way to another one, by dotted keys, or by its own header. -/
inductive Origin
  | implied
  | dotted
  | opened
deriving DecidableEq

inductive Item
  | leaf (value : Datum)
  | table (origin : Origin) (entries : List (String × Item))
  | tables (all : List (List (String × Item)))

abbrev Entries := List (String × Item)

def replace (key : String) (item : Item) (entries : Entries) : Entries :=
  entries.map fun (k, i) => if k = key then (k, item) else (k, i)

mutual

def Item.datum : Item → Datum
  | .leaf value => value
  | .table _ entries => .table (datums entries)
  | .tables all => .list (tableDatums all)

def datums : List (String × Item) → List (String × Datum)
  | [] => []
  | (key, item) :: rest => (key, item.datum) :: datums rest

def tableDatums : List (List (String × Item)) → List Datum
  | [] => []
  | entries :: rest => .table (datums entries) :: tableDatums rest

end

/-- Gives a dotted key its value. -/
def assign (value : Datum) : List String → Entries → Option Entries
  | [], _ => none
  | [key], entries =>
    if (entries.lookup key).isSome then none else some (entries ++ [(key, .leaf value)])
  | key :: more, entries =>
    match entries.lookup key with
    | none => do return entries ++ [(key, .table .dotted (← assign value more []))]
    | some (.table origin inner) =>
      if origin = .opened ∨ (more.length = 1 ∧ origin ≠ .dotted) then none
      else do return replace key (.table origin (← assign value more inner)) entries
    | some (.tables all) =>
      match all.getLast? with
      | some last =>
        if more.length = 1 then none
        else do return replace key (.tables (all.dropLast ++ [← assign value more last])) entries
      | none => none
    | some (.leaf _) => none

/-- Changes what a header names. On the way, missing tables are made, and of a list of tables the
last one is meant. -/
def alter (change : Option Item → Option Item) : List String → Entries → Option Entries
  | [], _ => none
  | [key], entries => do
    let old := entries.lookup key
    let item ← change old
    return if old.isSome then replace key item entries else entries ++ [(key, item)]
  | key :: more, entries =>
    match entries.lookup key with
    | none => do return entries ++ [(key, .table .implied (← alter change more []))]
    | some (.table origin inner) => do
      return replace key (.table origin (← alter change more inner)) entries
    | some (.tables all) =>
      match all.getLast? with
      | some last => do
        return replace key (.tables (all.dropLast ++ [← alter change more last])) entries
      | none => none
    | some (.leaf _) => none

def openTable : Option Item → Option Item
  | none => some (.table .opened [])
  | some (.table .implied entries) => some (.table .opened entries)
  | some _ => none

def openNext : Option Item → Option Item
  | none => some (.tables [[]])
  | some (.tables all) => some (.tables (all ++ [[]]))
  | some _ => none

/-- Gives a key its value in the table that a header has opened. -/
def assignIn (key : List String) (value : Datum) : Option Item → Option Item
  | some (.table origin entries) => (assign value key entries).map (.table origin ·)
  | some (.tables all) =>
    match all.getLast? with
    | some last => (assign value key last).map fun entries => .tables (all.dropLast ++ [entries])
    | none => none
  | _ => none

end Tables

/-- The entries of a table on one line, after its opening brace. -/
def inlineEntries (value : Scanner Datum) (seen : Entries) : Nat → Scanner Entries
  | 0 => fail
  | fuel + 1 => do
    let key ← dottedKey
    expect '='
    skipBlank
    let v ← value
    skipBlank
    let entries ← ofOption (assign v key seen)
    if ← accept "," then inlineEntries value entries fuel
    else
      expect '\x7d'
      return entries

/-- A value, in which values may stand if they can be read. Blanks, comments and line ends may stand between the items
of a list. -/
def valueWith (inner? : Option (Scanner Datum)) : Scanner Datum := do
  match ← peek with
  | some '"' => return .text (← text)
  | some '\'' => return .text (← text)
  | some '[' =>
    let inner ← ofOption inner?
    expect '['
    return .list (← separated (do skipLines (← bound)) ']' inner (← bound))
  | some '\x7b' =>
    let inner ← ofOption inner?
    expect '\x7b'
    skipBlank
    if ← accept "\x7d" then return .table []
    return .table (datums (← inlineEntries inner [] (← bound)))
  | _ => atom

/-- A value with room for so many collections in one another. -/
def value : Nat → Scanner Datum
  | 0 => fun cs => valueWith none cs
  | room + 1 => fun cs => valueWith (some (value room)) cs

/-- The statements of a text. `header` is the path of the last header. -/
def statements (header : List String) (entries : Entries) : Nat → Scanner Entries
  | 0 => fail
  | fuel + 1 => do
    skipLines (← bound)
    match ← peek with
    | none => return entries
    | some '[' =>
      let isList ← accept "[["
      if !isList then expect '['
      let key ← dottedKey
      expect ']'
      if isList then expect ']'
      endOfLine
      let entries ← ofOption (alter (if isList then openNext else openTable) key entries)
      statements key entries fuel
    | some _ =>
      let key ← dottedKey
      expect '='
      skipBlank
      let v ← value (maxDepth - 1)
      endOfLine
      let entries ← ofOption (match header with
        | [] => assign v key entries
        | header => alter (assignIn key v) header entries)
      statements header entries fuel

/-- The table that a text describes. A byte order mark at its start does not count. -/
def parse (text : String) : Option Datum :=
  let text := if text.toList.head? = some '\ufeff' then String.ofList (text.toList.drop 1) else text
  ((statements [] [] (text.length + 1)).onAll text).map fun entries => .table (datums entries)

end ApiLens.Toml
