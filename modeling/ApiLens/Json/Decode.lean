import ApiLens.Json.Basic
import ApiLens.Text.Quoted
import ApiLens.Uri.Parse

/-!
Decoding JSON values into typed data.

A record is an object or the list of its fields in declared order. Fields are taken up in the order
in which they stand, the first that does not fit decides, and only then are missing ones looked for, in
declared order. Unknown fields do not count.
-/

namespace ApiLens

/-- The backtick quotes names in messages. -/
def ticked (name : String) : String := "\x60" ++ name ++ "\x60"

namespace Json

/-- What a value is called in messages. -/
def described : Json → String
  | null => "null"
  | bool b => "boolean " ++ ticked (if b then "true" else "false")
  | num (.int i) => "integer " ++ ticked (toString i)
  | num (.float x) => "floating point " ++ ticked x.compact
  | str s => "string " ++ quoted s
  | arr _ => "sequence"
  | obj _ => "map"

end Json

inductive DecodeError
  | missingField (name : String)
  | invalidType (found : Json) (expected : String)
  | invalidValue (found : Json) (expected : String)
  | invalidLength (length : Nat) (expected : String)
  | unknownVariant (name : String) (expected : List String)
  | noVariant (name : String)
  | notAUri (cause : UriError) (text : String)

namespace DecodeError

def alternatives : List String → String
  | [a] => a
  | [a, b] => a ++ " or " ++ b
  | names => "one of " ++ ", ".intercalate names

def message : DecodeError → String
  | missingField name => "missing field " ++ ticked name
  | invalidType found expected => "invalid type: " ++ found.described ++ ", expected " ++ expected
  | invalidValue found expected => "invalid value: " ++ found.described ++ ", expected " ++ expected
  | invalidLength length expected =>
    "invalid length " ++ toString length ++ ", expected " ++ expected
  | unknownVariant name expected =>
    "unknown variant " ++ ticked name ++ ", expected " ++ alternatives (expected.map ticked)
  | noVariant name => "data did not match any variant of untagged enum " ++ name
  | notAUri cause text => cause.message ++ ": " ++ quoted text

end DecodeError

abbrev Decoder (α : Type) := Json → Except DecodeError α

namespace Decoder

def text : Decoder String
  | .str s => .ok s
  | v => .error (.invalidType v "a string")

def path : Decoder Path
  | .str s => .ok (.ofString s)
  | v => .error (.invalidType v "path string")

def bool : Decoder Bool
  | .bool b => .ok b
  | v => .error (.invalidType v "a boolean")

def word : Decoder UInt32
  | .num (.int i) =>
    match (Json.num (.int i)).word? with
    | some n => .ok n
    | none => .error (.invalidValue (.num (.int i)) "u32")
  | v => .error (.invalidType v "u32")

def any : Decoder Json := .ok

/-- Anything, `null` standing for nothing. -/
def option (d : Decoder α) : Decoder (Option α)
  | .null => .ok none
  | v => (d v).map some

def list (d : Decoder α) : Decoder (List α)
  | .arr items => items.mapM d
  | v => .error (.invalidType v "a sequence")

def uri : Decoder Uri
  | .str s =>
    match Uri.parse s with
    | .ok u => .ok u
    | .error cause => .error (.notAUri cause s)
  | v => .error (.invalidType v "a string representing an URL")

/-- One of some names, written as a text or as the only key of an object that holds `null`. -/
def name (variants : List (String × α)) : Decoder α
  | .str s => pick s
  | .obj [(key, content)] => do
    let a ← pick key
    match content with
    | .null => .ok a
    | v => .error (.invalidType v "unit")
  | .obj fields => .error (.invalidValue (.obj fields) "map with a single key")
  | v => .error (.invalidType v "string or map")
where
  pick (s : String) : Except DecodeError α :=
    match variants.lookup s with
    | some a => .ok a
    | none => .error (.unknownVariant s (variants.map Prod.fst))

end Decoder

/-- The name of a record and its fields in declared order. -/
structure RecordShape where
  name : String
  fields : List String

namespace RecordShape

variable (shape : RecordShape)

def title : String := "struct " ++ shape.name

/-- The error for a field that is not there: a list is then too short, and ends before the field. -/
def missing : Json → String → DecodeError
  | .arr _, field =>
    .invalidLength (shape.fields.idxOf field)
      (shape.title ++ " with " ++ toString shape.fields.length ++ " elements")
  | _, field => .missingField field

/-- The named fields of a value that may be a record. -/
def entries : Json → Except DecodeError Json.Fields
  | .obj fields => .ok fields
  | .arr items => .ok (shape.fields.zip items)
  | v => .error (.invalidType v shape.title)

/-- A list must not be longer than the record. -/
def checkLength : Json → Except DecodeError Unit
  | .arr items =>
    if shape.fields.length < items.length then
      .error (.invalidLength items.length "fewer elements in array")
    else .ok ()
  | _ => .ok ()

/-- Reads a record: `step` takes up one field, `finish` fills in what is missing. -/
def read (start : β) (step : β → String → Json → Except DecodeError β)
    (finish : (String → DecodeError) → β → Except DecodeError α) : Decoder α := fun v => do
  let fields ← shape.entries v
  let parts ← fields.foldlM (fun b (key, content) => step b key content) start
  let a ← finish (shape.missing v) parts
  shape.checkLength v
  return a

end RecordShape

/-- A required part of a record. -/
def required (missing : String → DecodeError) (field : String) : Option α → Except DecodeError α
  | some a => .ok a
  | none => .error (missing field)

/-- A part that an object may leave out. A list has no way to leave it out. -/
def optional (missing : String → DecodeError) (field : String) :
    Option (Option α) → Except DecodeError (Option α)
  | some a => .ok a
  | none =>
    match missing field with
    | .missingField _ => .ok none
    | cause => .error cause

/-- A record of one field. -/
def Decoder.single (record field : String) (d : Decoder α) : Decoder α :=
  RecordShape.read ⟨record, [field]⟩ none
    (fun part key v => if key = field then some <$> d v else .ok part)
    fun missing => required missing field

end ApiLens
