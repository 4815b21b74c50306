import ApiLens.Settings.Datum
import ApiLens.Text.Blank

/-!
Settings files in INI form: `key = value` lines, under `[section]` lines or before the first of them.
All values are texts.
-/

namespace ApiLens.Ini

open Scanner

section Texts

def isLineEnd (c : Char) : Bool := c == '\n' || c == '\r'

/-- Four digits of a code point, before the first of which there may be a plus in place of a zero. -/
def codePoint : Scanner Char := do
  let digits := match ← take 4 with
    | '+' :: digits => digits
    | digits => digits
  ofOption ((natIn? 16 digits).bind charAt?)

/-- What an escape stands for, after its backslash. A line feed stands for nothing. -/
def escaped : Scanner (List Char) := do
  match ← next with
  | '0' => return ['\x00']
  | 'a' => return ['\x07']
  | 'b' => return ['\x08']
  | 't' => return ['\t']
  | 'r' => return ['\r']
  | 'n' => return ['\n']
  | '\n' => return []
  | 'x' => return [← codePoint]
  | c => return [c]

/-- Text up to an end, which is left in place. -/
def textUntil (isEnd : Char → Bool) (mayRunOut : Bool) (seen : List Char) : Nat → Scanner (List Char)
  | 0 => fail
  | fuel + 1 => do
    match ← peek with
    | none => if mayRunOut then return seen.reverse else fail
    | some c =>
      if isEnd c then return seen.reverse
      else
        let _ ← next
        if c = '\\' then textUntil isEnd mayRunOut ((← escaped).reverse ++ seen) fuel
        else textUntil isEnd mayRunOut (c :: seen) fuel

/-- Text up to an end, which must come and is passed over. -/
def textBefore (isEnd : Char → Bool) : Scanner (List Char) := do
  let text ← textUntil isEnd false [] (← bound)
  let _ ← next
  return text

/-- Quoted texts that follow one another, and the rest of the line. Blanks count between quotes and behind them, but
not at the end. -/
def valueParts (front : List Char) : Nat → Scanner (List Char)
  | 0 => fail
  | fuel + 1 => do
    if ← accept "\"" then valueParts (front ++ (← textBefore (· == '"'))) fuel
    else if ← accept "'" then valueParts (front ++ (← textBefore (· == '\''))) fuel
    else
      let line ← textUntil isLineEnd true [] (← bound)
      return front ++ trimEnd line

/-- A value up to the end of its line. -/
def value : Scanner String := do
  skipWhile fun c => isWhite c && !isLineEnd c
  let isQuoted := (← peek).any fun c => c == '"' || c == '\''
  let text ← valueParts [] (← bound)
  return String.ofList (if isQuoted then text else text.dropWhile isWhite)

end Texts

/-- The entries before the first section, and those of each section from its line on. -/
structure Entries where
  top : List (String × Datum) := []
  /-- The last one comes first. -/
  sections : List (String × List (String × Datum)) := []

namespace Entries

def add (entries : Entries) (key : String) (value : Datum) : Entries :=
  match entries.sections with
  | [] => { entries with top := Datum.put key value entries.top }
  | (name, inner) :: rest => { entries with sections := (name, Datum.put key value inner) :: rest }

/-- A section takes the place of what had its name before. -/
def datum (entries : Entries) : Datum :=
  .table (entries.sections.foldr (fun (name, inner) es => Datum.put name (.table inner) es) entries.top)

end Entries

/-- Reads what is left. A comment takes a whole line, of which it must be the first character. -/
def lines (entries : Entries) (atStart : Bool) : Nat → Scanner Entries
  | 0 => fail
  | fuel + 1 => do
    let blanks ← takeWhile isWhite
    let isFirst := match blanks.getLast? with
      | some c => c == '\n'
      | none => atStart
    match ← peek with
    | none => return entries
    | some c =>
      if c = ';' ∨ c = '#' then
        if !isFirst then fail
        skipWhile (· != '\n')
        lines entries false fuel
      else if c = '[' then
        let _ ← next
        let name := String.ofList (trim (← textBefore (· == ']')))
        lines { entries with sections := (name, []) :: entries.sections } false fuel
      else
        let key := trim (← textBefore fun c => c == '=' || c == ':')
        if key.isEmpty then fail
        lines (entries.add (String.ofList key) (.text (← value))) false fuel

def parse (text : String) : Option Datum :=
  ((lines {} true (text.length + 1)).onAll text).map Entries.datum

end ApiLens.Ini
