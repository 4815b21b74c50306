import ApiLens.Settings.Datum
import ApiLens.Text.Blank
import ApiLens.Text.NameTable

/-!
Settings files in JSON5: JSON with comments, trailing commas, bare keys, single quotes and more ways to
write a number.
-/

namespace ApiLens.Json5

open Scanner

section Blanks

def isLineEnd (c : Char) : Bool := ['\n', '\r', '\u2028', '\u2029'].contains c

def isBlank (c : Char) : Bool := ['\t', '\x0b', '\x0c', '\ufeff'].contains c || isSpace c || isLineEnd c

/-- The text after the end of a block comment. -/
def afterBlock : List Char → Option (List Char)
  | [] => none
  | '*' :: '/' :: cs => some cs
  | _ :: cs => afterBlock cs

def skipSome : Nat → Scanner Unit
  | 0 => pure ()
  | fuel + 1 => do
    skipWhile isBlank
    if ← accept "//" then
      skipWhile (!isLineEnd ·)
      skipSome fuel
    else if ← accept "/*" then
      set (← ofOption (afterBlock (← rest)))
      skipSome fuel

/-- Passes over blanks and comments. -/
def skip : Scanner Unit := do skipSome (← bound)

/-- What stands between commas up to a closing mark. -/
def listed (close : Char) (item : Scanner α) : Scanner (List α) := do
  separated skip close item (← bound)

end Blanks

section Texts

/-- A number of so many digits. -/
def code (digits : Nat) : Scanner Nat := do ofOption (natIn? 16 (← take digits))

/-- A code unit behind `\u`. The first of two that make one character must be followed by the other. -/
def unicode : Scanner Char := do
  let unit ← code 4
  if 0xD800 ≤ unit ∧ unit < 0xDC00 then
    expect '\\'
    expect 'u'
    let second ← code 4
    if second < 0xDC00 ∨ 0xDFFF < second then fail
    ofOption (charAt? (0x10000 + (unit - 0xD800) * 0x400 + (second - 0xDC00)))
  else ofOption (charAt? unit)

/-- What an escape stands for, after its backslash. A line end stands for nothing. -/
def escaped : Scanner (List Char) := do
  match ← next with
  | 'b' => return ['\x08']
  | 'f' => return ['\x0c']
  | 'n' => return ['\n']
  | 'r' => return ['\r']
  | 't' => return ['\t']
  | 'v' => return ['\x0b']
  | '0' => return ['\x00']
  | '\r' =>
    let _ ← accept "\n"
    return []
  | 'x' => return [← ofOption (charAt? (← code 2))]
  | 'u' => return [← unicode]
  | c => if isLineEnd c then return [] else if c.isDigit then fail else return [c]

def textBody (quote : Char) (seen : List Char) : Nat → Scanner String
  | 0 => fail
  | fuel + 1 => do
    let c ← next
    if c = quote then return String.ofList seen.reverse
    else if c = '\\' then textBody quote ((← escaped).reverse ++ seen) fuel
    else if isLineEnd c then fail
    else textBody quote (c :: seen) fuel

/-- A text between two quotes of either kind. -/
def text : Scanner String := do
  let quote ← next
  if quote != '"' && quote != '\'' then fail
  textBody quote [] (← bound)

end Texts

section Names

def isNameStart (c : Char) : Bool :=
  if c.toNat < 0x80 then c.isAlpha || c == '_' || c == '$' else NameTable.kinds.value c == 1

def isNamePart (c : Char) : Bool :=
  isNameStart c || c.isDigit || ['^', '\x60', '\u200c', '\u200d'].contains c || NameTable.kinds.value c == 2

/-- The rest of a name. Its characters may be written as escapes, and then they may be any. -/
def nameBody (seen : List Char) : Nat → Scanner String
  | 0 => fail
  | fuel + 1 => do
    match ← peek with
    | some '\\' =>
      expect '\\'
      expect 'u'
      nameBody ((← unicode) :: seen) fuel
    | some c =>
      if (if seen.isEmpty then isNameStart c else isNamePart c) then nameBody ((← next) :: seen) fuel
      else if seen.isEmpty then fail
      else return String.ofList seen.reverse
    | none => if seen.isEmpty then fail else return String.ofList seen.reverse

def name : Scanner String := do nameBody [] (← bound)

def key : Scanner String := do
  match ← peek with
  | some '"' => text
  | some '\'' => text
  | _ => name

end Names

section Numbers

def sign : Scanner (List Char) := do
  if ← accept "+" then return ['+']
  if ← accept "-" then return ['-']
  return []

def digits : Scanner (List Char) := takeWhile Char.isDigit

/-- A fraction and an exponent, as far as they are there. -/
def tail (hasWhole : Bool) : Scanner (List Char) := do
  let fraction ← if ← accept "." then pure ('.' :: (← digits)) else pure []
  if !hasWhole && fraction.length < 2 then fail
  let mark ← peek
  if mark == some 'e' || mark == some 'E' then
    let _ ← next
    let sign ← sign
    let power ← digits
    if power.isEmpty then fail
    return fraction ++ 'e' :: sign ++ power
  else return fraction

/-- A decimal number. It is whole if it has neither point nor exponent, and a whole one fits a signed 64-bit
integer. A number must not be so large that it counts as infinite. -/
def decimal (sign : List Char) : Scanner Datum := do
  let whole ← if ← accept "0" then pure ['0'] else digits
  let tail ← tail (!whole.isEmpty)
  if tail.isEmpty then
    let n ← ofOption (natIn? 10 whole)
    let i : Int := if sign == ['-'] then -n else n
    if fitsSigned 64 i then return .int i else fail
  else
    match Real.ofText? (sign ++ whole ++ tail) with
    | some (.finite x) => return .real (.finite x)
    | _ => fail

/-- A number. With base 16 it fits 32 bits, and has no sign; the words for numbers without digits have no plus. -/
def number : Scanner Datum := do
  let sign ← sign
  if (← accept "0x") || (← accept "0X") then
    let n ← ofOption (natIn? 16 (← takeWhile fun c => (digitIn? 16 c).isSome))
    if sign.isEmpty && fitsUnsigned 32 n then return .int n else fail
  if ← accept "Infinity" then
    if sign == ['+'] then fail else return .real (.infinite (sign == ['-']))
  if ← accept "NaN" then
    if sign == ['+'] then fail else return .real .nan
  decimal sign

end Numbers

def value : Nat → Scanner Datum
  | 0 => fail
  | fuel + 1 => do
    skip
    if ← accept "null" then return .nothing
    if ← accept "true" then return .bool true
    if ← accept "false" then return .bool false
    match ← peek with
    | some '"' => return .text (← text)
    | some '\'' => return .text (← text)
    | some '[' =>
      expect '['
      return .list (← listed ']' (value fuel))
    | some '\x7b' =>
      expect '\x7b'
      let entries ← listed '\x7d' do
        let key ← key
        skip
        expect ':'
        return (key, ← value fuel)
      return .table (entries.foldl (fun es (key, v) => Datum.put key v es) [])
    | _ => number

def parse (text : String) : Option Datum :=
  let whole : Scanner Datum := do
    let v ← value (text.length + 1)
    skip
    return v
  whole.onAll text

end ApiLens.Json5
