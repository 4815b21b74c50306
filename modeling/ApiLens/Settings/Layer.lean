import ApiLens.Settings.Basic
import ApiLens.Settings.Datum

/-!
Settings in layers: the defaults below, then the entries of one file after the other.

A later value takes the place of an earlier one, but a table is merged into what it finds: an empty one
changes nothing. Each of the three settings is then read from its own entry.
-/

namespace ApiLens

/-- A value and the file that it was written in. -/
structure Sourced where
  value : Datum
  origin : Option String := none

abbrev Layers := List (String × Sourced)

/-- One step of a key into the value under its first name. -/
inductive KeyStep
  | child (name : String)
  | index (i : Int)

structure KeyPath where
  name : String
  steps : List KeyStep

namespace KeyPath

def isNameChar (c : Char) : Bool := c.isAlphanum || [' ', '_', '-'].contains c

/-- A signed 64-bit integer up to a closing bracket, with spaces and tabs around it, and what comes behind. -/
def index? (cs : List Char) : Option (Int × List Char) := do
  let isBlank (c : Char) : Bool := c == ' ' || c == '\t'
  let (negative, cs) := match cs.dropWhile isBlank with
    | '-' :: cs => (true, cs)
    | cs => (false, cs)
  let n ← natIn? 10 (cs.takeWhile Char.isDigit)
  let i : Int := if negative then -n else n
  guard (fitsSigned 64 i)
  match (cs.dropWhile Char.isDigit).dropWhile isBlank with
  | ']' :: rest => some (i, rest)
  | _ => none

def steps? : Nat → List Char → Option (List KeyStep)
  | _, [] => some []
  | 0, _ => none
  | fuel + 1, '.' :: cs =>
    let name := cs.takeWhile isNameChar
    if name.isEmpty then none
    else do return .child (String.ofList name) :: (← steps? fuel (cs.dropWhile isNameChar))
  | fuel + 1, '[' :: cs => do
    let (i, rest) ← index? cs
    return .index i :: (← steps? fuel rest)
  | _, _ => none

/-- A key that is no path names one entry as it stands. -/
def ofKey (key : String) : KeyPath :=
  let cs := key.toList
  let name := cs.takeWhile isNameChar
  let path? := if name.isEmpty then none else steps? cs.length (cs.dropWhile isNameChar)
  match path? with
  | some steps => ⟨lowercase (String.ofList name), steps⟩
  | none => ⟨lowercase key, []⟩

end KeyPath

namespace Sourced

def isTable (s : Sourced) : Bool :=
  match s.value with
  | .table _ => true
  | _ => false

def isList (s : Sourced) : Bool :=
  match s.value with
  | .list _ => true
  | _ => false

/-- The entry after a value has been written to it. -/
def write (old : Option Sourced) (value : Datum) (origin : String) : Sourced :=
  match value, old with
  | .table [], some old => old
  | .table [], none => ⟨.table [], none⟩
  | .table entries, some ⟨.table former, source⟩ => ⟨.table (former ++ entries), source⟩
  | .table entries, _ => ⟨.table entries, none⟩
  | value, _ => ⟨value, some origin⟩

/-- The entry after a value has been written somewhere inside of it. -/
def writeInside (old : Option Sourced) (step : KeyStep) (value : Datum) : Sourced :=
  match step with
  | .child name =>
    match old with
    | some ⟨.table former, source⟩ => ⟨.table (former ++ [(name, value)]), source⟩
    | _ => ⟨.table [(name, value)], none⟩
  | .index _ =>
    match old with
    | some ⟨.list former, source⟩ => ⟨.list (former ++ [value]), source⟩
    | _ => ⟨.list [value], none⟩

end Sourced

namespace Layers

def put (name : String) (s : Sourced) : Layers → Layers
  | [] => [(name, s)]
  | (k, old) :: rest => if k = name then (k, s) :: rest else (k, old) :: put name s rest

def write (origin : String) (layers : Layers) (key : String) (value : Datum) : Layers :=
  let path := KeyPath.ofKey key
  let old := layers.lookup path.name
  match path.steps with
  | [] => layers.put path.name (Sourced.write old value origin)
  | step :: _ => layers.put path.name (Sourced.writeInside old step value)

/-- Adds the entries of a file in the order in which it has them. They come out of a map that has no
fixed order, so where two of them lead to one name it is open which one comes last. -/
def add (layers : Layers) (origin : String) (entries : List (String × Datum)) : Layers :=
  entries.foldl (fun layers (key, value) => write origin layers key value) layers

/-- The layer below all files. -/
def defaults : Layers :=
  let s : Settings := {}
  [("enable_code_lens", ⟨.bool s.enableCodeLens, none⟩),
    ("show_docs_command", ⟨.text s.showDocsCommand, none⟩),
    ("inner_functions_require_public", ⟨.bool s.innerFunctionsRequirePublic, none⟩)]

end Layers

inductive SettingsError
  /-- The path of the workspace is no text. -/
  | rootNotText
  /-- A file cannot be parsed, or does not hold a table. -/
  | unreadable (file : String)
  | wrongType (found : Sourced) (expected key : String)
  | missing (key : String)

namespace SettingsError

def message : SettingsError → String
  | rootNotText => "Can't convert root_dir to str"
  | unreadable file => "Build err: " ++ file
  | wrongType found expected key =>
    "invalid type: " ++ found.value.described ++ ", expected " ++ expected ++ " for key " ++ ticked key
      ++ (found.origin.map fun file => " in " ++ file).getD ""
  | missing key => "missing field " ++ ticked key

end SettingsError

namespace Settings

/-- Reads one setting from its entry. -/
def field (layers : Layers) (key expected : String) (read : Datum → Option α) :
    Except SettingsError α :=
  match layers.lookup key with
  | none => .error (.missing key)
  | some found =>
    match read found.value with
    | some a => .ok a
    | none => .error (.wrongType found expected key)

def ofLayers (layers : Layers) : Except SettingsError Settings := do
  return {
    enableCodeLens := ← field layers "enable_code_lens" "a boolean" Datum.switch?
    showDocsCommand := ← field layers "show_docs_command" "a string" Datum.text?
    innerFunctionsRequirePublic :=
      ← field layers "inner_functions_require_public" "a boolean" Datum.switch? }

end Settings
end ApiLens
