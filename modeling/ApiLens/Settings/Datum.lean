import ApiLens.Json.Basic
import ApiLens.Text.Quoted
import ApiLens.Text.Scanner

/-!
Values of settings files, whatever their format, and what each can stand for: a switch or a text.
-/

namespace ApiLens

/-- Numbers with a point, with the three that have no digits. -/
inductive Real
  | finite (x : Binary64)
  | infinite (negative : Bool)
  | nan
deriving DecidableEq

namespace Real

def text : Real → String
  | finite x => x.positional
  | infinite true => "-inf"
  | infinite false => "inf"
  | nan => "NaN"

def isZero : Real → Bool
  | finite x => x.isZero
  | _ => false

/-- Digits, an optional fraction and an optional exponent, with a digit on one side of the point. -/
def ofText? (cs : List Char) : Option Real := do
  let (negative, cs) := match cs with
    | '-' :: cs => (true, cs)
    | '+' :: cs => (false, cs)
    | cs => (false, cs)
  let lower := cs.map Char.toLower
  if lower = "inf".toList ∨ lower = "infinity".toList then return infinite negative
  if lower = "nan".toList then return nan
  let whole := cs.takeWhile Char.isDigit
  let (fraction, cs) := match cs.dropWhile Char.isDigit with
    | '.' :: cs => (cs.takeWhile Char.isDigit, cs.dropWhile Char.isDigit)
    | cs => ([], cs)
  if whole.isEmpty ∧ fraction.isEmpty then none
  let exponent ← match cs with
    | [] => some 0
    | mark :: cs =>
      if mark = 'e' ∨ mark = 'E' then
        match cs with
        | '-' :: cs => (natIn? 10 cs).map fun n => -(n : Int)
        | '+' :: cs => (natIn? 10 cs).map Int.ofNat
        | cs => (natIn? 10 cs).map Int.ofNat
      else none
  let digits ← natIn? 10 (whole ++ fraction)
  if digits = 0 then return finite (.zero negative)
  let power := exponent - fraction.length
  -- Beyond these powers of ten every value is infinite or zero.
  if 400 < power then return infinite negative
  if power < -400 - (whole.length + fraction.length) then return finite (.zero negative)
  match Binary64.ofDecimal? negative digits power with
  | some x => return finite x
  | none => return infinite negative

end Real

inductive Datum
  | nothing
  | bool (b : Bool)
  | int (i : Int)
  | real (x : Real)
  | text (s : String)
  | list (items : List Datum)
  | table (entries : List (String × Datum))

namespace Datum

/-- The entries of a table after a key is given a value, which comes last. -/
def put (key : String) (value : Datum) (entries : List (String × Datum)) : List (String × Datum) :=
  entries.filter (·.1 != key) ++ [(key, value)]

/-- A JSON number is whole if it fits a signed 64-bit integer. -/
def ofNumber : Number → Datum
  | .int i =>
    if fitsSigned 64 i then int i
    else ((Binary64.ofNat? i.toNat).map fun x => real (.finite x)).getD nothing
  | .float x => real (.finite x)

mutual

def ofJson : Json → Datum
  | .null => nothing
  | .bool b => bool b
  | .num n => ofNumber n
  | .str s => text s
  | .arr items => list (ofItems items)
  | .obj fields => table (ofFields fields)

def ofItems : List Json → List Datum
  | [] => []
  | v :: rest => ofJson v :: ofItems rest

def ofFields : List (String × Json) → List (String × Datum)
  | [] => []
  | (k, v) :: rest => (k, ofJson v) :: ofFields rest

end

/-- Words that switch something on or off, in lower case. -/
def onWords : List String := ["1", "true", "on", "yes"]

def offWords : List String := ["0", "false", "off", "no"]

def isOn? (word : String) : Option Bool :=
  if onWords.contains word then some true
  else if offWords.contains word then some false
  else none

/-- What a value is called when it is not what it should be. -/
def described : Datum → String
  | nothing => "unit value"
  | bool b => "boolean " ++ toString b
  | int i => "integer " ++ toString i
  | real x => "floating point " ++ x.text
  | text s => "string " ++ quoted (lowercase s)
  | list _ => "sequence"
  | table _ => "map"

def switch? : Datum → Option Bool
  | bool b => some b
  | int i => some (i != 0)
  | real x => some (!x.isZero)
  | text s => isOn? (lowercase s)
  | nothing | list _ | table _ => none

def text? : Datum → Option String
  | bool b => some (toString b)
  | int i => some (toString i)
  | real x => some x.text
  | text s => some s
  | nothing | list _ | table _ => none

end Datum
end ApiLens
