import ApiLens.Settings.Ron.Lexeme

/-!
Settings files in RON: records in parentheses, maps in braces, lists in brackets.
-/

namespace ApiLens.Ron

open Scanner

section Options

def optionNames : List String := ["unwrap_newtypes", "implicit_some", "unwrap_variant_newtypes"]

/-- Options that are switched on at the start of a text. -/
def optionList : Scanner (List String) := do
  for word in ["#", "!", "[", "enable", "("] do
    if !(← accept word) then fail
    skip
  let names ← listed ')' name
  skip
  expect ']'
  skip
  if names.isEmpty || !names.all optionNames.contains then fail
  return names

def options : Nat → Scanner (List String)
  | 0 => fail
  | fuel + 1 => do
    if (← peek) != some '#' then return []
    return (← optionList) ++ (← options fuel)

end Options

/-- How the values that stand in others are read. -/
structure Inside where
  /-- Whether there may be any. -/
  isAllowed : Bool
  /-- Whether a value that may be missing needs no parentheses. -/
  isBare : Bool
  /-- A value that may be missing. -/
  optional : Scanner Datum
  /-- An item of a list, or the key or value of an entry. -/
  part : Scanner Datum

namespace Inside

/-- Whether parentheses hold entries, and not items. -/
def holdsEntries (cs : List Char) : Option Bool := do
  let (_, cs) ← skip cs
  match name cs with
  | none => return false
  | some (_, cs) =>
    let (_, cs) ← skip cs
    return (← cs.head?) == ':'

variable (v : Inside)

def listed (close : Char) (item : Scanner α) : Scanner (List α) :=
  if v.isAllowed then Ron.listed close item else fail

def colonAndValue : Scanner Datum := do
  skip
  expect ':'
  skip
  v.part

/-- What may follow a name, or stand alone: parentheses around items or entries. -/
def group : Scanner Datum := do
  if !(← accept "(") then return .nothing
  if ← ofOption (holdsEntries (← rest)) then
    let entries ← v.listed ')' do return (← name, ← v.colonAndValue)
    return .table (entries.foldl (fun es (key, value) => Datum.put key value es) [])
  else return .list (← v.listed ')' v.part)

/-- The entries of a map, whose keys must be texts. Among those with the same key, one whose key is a single
character counts less. -/
def map : Scanner Datum := do
  expect '\x7b'
  let entries ← v.listed '\x7d' do
    let isCharacter := (← peek) == some '\''
    let .text key ← v.part | fail
    return (isCharacter, key, ← v.colonAndValue)
  let sorted := entries.filter (·.1) ++ entries.filter (!·.1)
  return .table (sorted.foldl (fun es (_, key, value) => Datum.put key value es) [])

/-- A value in parentheses that may be missing. -/
def present : Scanner Datum := do
  skip
  if ← accept "(" then
    skip
    let found ← v.optional
    skip
    if ← accept "," then skip
    expect ')'
    return found
  else if v.isBare then v.optional
  else fail

/-- A value. A name that means nothing else is the name of what follows it. -/
def value : Scanner Datum := do
  if ← acceptWord "true" then return .bool true
  if ← acceptWord "false" then return .bool false
  if ← acceptWord "Some" then return ← v.present
  if ← acceptWord "None" then return .nothing
  if ← accept "()" then return .nothing
  if ← acceptWord "inf" then return .real (.infinite false)
  if ← acceptWord "-inf" then return .real (.infinite true)
  if ← acceptWord "NaN" then return .real .nan
  if let some (_, after) := name (← rest) then
    set after
    skip
    return ← v.group
  match ← peek with
  | some '(' => v.group
  | some '[' =>
    expect '['
    return .list (← v.listed ']' v.part)
  | some '\x7b' => v.map
  | some '"' => return .text (← text)
  | some 'r' => return .text (← text)
  | some '\'' => return .text (← character).toString
  | _ => number

end Inside

/-- A value around which so much room is left: a collection takes up one place, and each value in it another one. -/
def value (isBare : Bool) : Nat → Scanner Datum
  | 0 => fun cs => Inside.value ⟨false, isBare, fail, fail⟩ cs
  | 1 => fun cs => Inside.value ⟨true, isBare, value isBare 0, fail⟩ cs
  | room + 2 => fun cs => Inside.value ⟨true, isBare, value isBare (room + 1), value isBare room⟩ cs

/-- The room for values in others. -/
def room : Nat := 128

def parse (text : String) : Option Datum :=
  let whole : Scanner Datum := do
    skip
    let names ← options (← bound)
    let v ← value (names.contains "implicit_some") room
    skip
    return v
  whole.onAll text

end ApiLens.Ron
