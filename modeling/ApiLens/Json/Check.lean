import ApiLens.Json.Decode

/-!
Looking at JSON values of which nothing is kept.

A check is a decoder without a result. Records are described by their fields, and a record may be spread over
the object of another one, beside its own fields.
-/

namespace ApiLens

abbrev Check := Decoder Unit

namespace Check

/-- What decodes fits. -/
def of (d : Decoder α) : Check := fun v => do
  let _ ← d v

def any : Check := fun _ => .ok ()
def text : Check := of .text
def flag : Check := of .bool
def word : Check := of .word
def uri : Check := of .uri

def option (c : Check) : Check := of (.option c)
def list (c : Check) : Check := of (.list c)

/-- A whole number of 32 bits with a sign. -/
def int : Check
  | .num (.int i) =>
    if fitsSigned 32 i then .ok () else .error (.invalidValue (.num (.int i)) "i32")
  | v => .error (.invalidType v "i32")

def float : Check
  | .num _ => .ok ()
  | v => .error (.invalidType v "f32")

/-- One of some names. -/
def name (variants : List String) : Check := of (.name (variants.map (·, ())))

/-- An object with any names. -/
def dictionary (expected : String) (key : String → Except DecodeError Unit) (c : Check) : Check
  | .obj entries => entries.forM fun (k, v) => do
    key k
    c v
  | v => .error (.invalidType v expected)

/-- What fits one of some alternatives, named together. -/
def oneOf (together : String) (alternatives : List Check) : Check := fun v =>
  if alternatives.any fun c => (c v).toBool then .ok () else .error (.noVariant together)

/-- Where a field may be left out. -/
inductive Presence
  | required
  /-- It may be left out of an object. -/
  | optional
  /-- It may be left out of an object and of a list. -/
  | defaulted
deriving DecidableEq

structure Field where
  name : String
  check : Check
  presence : Presence

namespace Field

def must (name : String) (c : Check) : Field := ⟨name, c, .required⟩
def may (name : String) (c : Check) : Field := ⟨name, option c, .optional⟩
def defaulted (name : String) (c : Check) : Field := ⟨name, c, .defaulted⟩

end Field

/-- Whether the entries of an object fit some fields: first those that are there, then what is missing. -/
def entriesFit (fields : List Field) (entries : Json.Fields) : Except DecodeError Unit := do
  entries.forM fun (key, v) =>
    match fields.find? (·.name == key) with
    | some f => f.check v
    | none => .ok ()
  match fields.find? fun f => f.presence = .required && (Json.Fields.get? entries f.name).isNone with
  | some f => throw (.missingField f.name)
  | none => return ()

/-- Whether a list fits some fields. The first one that it has no item for tells its length. -/
def itemsFit (title : String) (fields : List Field) (items : List Json) : Except DecodeError Unit := do
  (fields.zip items).forM fun (f, v) => f.check v
  match (fields.zipIdx.drop items.length).find? fun (f, _) => f.presence != .defaulted with
  | some (_, i) =>
    throw (.invalidLength i (title ++ " with " ++ toString fields.length ++ " elements"))
  | none => return ()

/-- What a list that is too long should have been. -/
inductive Surplus
  | inArray
  /-- Inside of what is spread over another record. -/
  | inSequence

def Surplus.expected (length : Nat) : Surplus → String
  | inArray => "fewer elements in array"
  | inSequence =>
    if length = 1 then "1 element in sequence" else toString length ++ " elements in sequence"

def recordWith (surplus : Surplus) (name : String) (fields : List Field) : Check
  | .obj entries => entriesFit fields entries
  | .arr items => do
    itemsFit title fields items
    if fields.length < items.length then
      throw (.invalidLength items.length (surplus.expected fields.length))
  | v => .error (.invalidType v title)
where
  title : String := "struct " ++ name

def record (name : String) (fields : List Field) : Check := recordWith .inArray name fields

/-- A record over whose object others are spread: they come after its own fields. -/
def spread (name : String) (own : List Field) (others : List (Json.Fields → Except DecodeError Unit)) :
    Check
  | .obj entries => do
    entriesFit own entries
    let rest := entries.filter fun (key, _) => !own.any (·.name == key)
    others.forM (· rest)
  | v => .error (.invalidType v ("struct " ++ name))

end Check
end ApiLens
