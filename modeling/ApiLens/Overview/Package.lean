import ApiLens.Json.Decode

/-!
What the language server reports of a project: packages, their modules, and the functions and services
of these.
-/

namespace ApiLens

structure Place where
  startLine : UInt32
  startColumn : UInt32
deriving DecidableEq, Repr

/-- A function of a module, or a resource of a service. -/
structure Callable where
  name : String
  filePath : String
  place : Place
deriving DecidableEq, Repr

structure Service where
  name : String
  filePath : String
  place : Place
  resources : List Callable := []
deriving DecidableEq, Repr

structure Module where
  name : Option String := none
  isDefault : Bool := false
  functions : List Callable := []
  services : List Service := []
deriving DecidableEq, Repr

structure Package where
  name : String := ""
  modules : List Module := []
deriving DecidableEq, Repr

namespace Place

def toJson (p : Place) : Json :=
  .obj [("startLine", .ofWord p.startLine), ("startColumn", .ofWord p.startColumn)]

def shape : RecordShape := ⟨"SourcePosition", ["startLine", "startColumn"]⟩

structure Parts where
  startLine : Option UInt32 := none
  startColumn : Option UInt32 := none

def step (p : Parts) (key : String) (v : Json) : Except DecodeError Parts :=
  match key with
  | "startLine" => do return { p with startLine := some (← Decoder.word v) }
  | "startColumn" => do return { p with startColumn := some (← Decoder.word v) }
  | _ => .ok p

def finish (missing : String → DecodeError) (p : Parts) : Except DecodeError Place := do
  return ⟨← required missing "startLine" p.startLine, ← required missing "startColumn" p.startColumn⟩

def decode : Decoder Place := shape.read {} step finish

end Place

namespace Callable

def toJson (c : Callable) : Json :=
  .obj [("name", .str c.name), ("filePath", .str c.filePath), ("position", c.place.toJson)]

def shape : RecordShape := ⟨"FunctionOrResource", ["name", "filePath", "position"]⟩

structure Parts where
  name : Option String := none
  filePath : Option String := none
  place : Option Place := none

def step (p : Parts) (key : String) (v : Json) : Except DecodeError Parts :=
  match key with
  | "name" => do return { p with name := some (← Decoder.text v) }
  | "filePath" => do return { p with filePath := some (← Decoder.text v) }
  | "position" => do return { p with place := some (← Place.decode v) }
  | _ => .ok p

def finish (missing : String → DecodeError) (p : Parts) : Except DecodeError Callable := do
  return {
    name := ← required missing "name" p.name
    filePath := ← required missing "filePath" p.filePath
    place := ← required missing "position" p.place }

def decode : Decoder Callable := shape.read {} step finish

end Callable

namespace Service

def toJson (s : Service) : Json :=
  .obj [("name", .str s.name), ("filePath", .str s.filePath), ("position", s.place.toJson),
    ("resources", .arr (s.resources.map Callable.toJson))]

def shape : RecordShape := ⟨"Service", ["name", "filePath", "position", "resources"]⟩

structure Parts where
  name : Option String := none
  filePath : Option String := none
  place : Option Place := none
  resources : List Callable := []

def step (p : Parts) (key : String) (v : Json) : Except DecodeError Parts :=
  match key with
  | "name" => do return { p with name := some (← Decoder.text v) }
  | "filePath" => do return { p with filePath := some (← Decoder.text v) }
  | "position" => do return { p with place := some (← Place.decode v) }
  | "resources" => do return { p with resources := ← Decoder.list Callable.decode v }
  | _ => .ok p

def finish (missing : String → DecodeError) (p : Parts) : Except DecodeError Service := do
  return {
    name := ← required missing "name" p.name
    filePath := ← required missing "filePath" p.filePath
    place := ← required missing "position" p.place
    resources := p.resources }

def decode : Decoder Service := shape.read {} step finish

end Service

namespace Module

def toJson (m : Module) : Json :=
  .obj [("name", .ofOption .str m.name), ("default", .bool m.isDefault),
    ("functions", .arr (m.functions.map Callable.toJson)),
    ("services", .arr (m.services.map Service.toJson))]

def shape : RecordShape := ⟨"Module", ["name", "default", "functions", "services"]⟩

def step (m : Module) (key : String) (v : Json) : Except DecodeError Module :=
  match key with
  | "name" => do return { m with name := ← Decoder.option .text v }
  | "default" => do return { m with isDefault := ← Decoder.bool v }
  | "functions" => do return { m with functions := ← Decoder.list Callable.decode v }
  | "services" => do return { m with services := ← Decoder.list Service.decode v }
  | _ => .ok m

def decode : Decoder Module := shape.read {} step fun _ m => .ok m

/-- The name by which a module is sorted and shown. -/
def title (m : Module) : String := m.name.getD ""

end Module

namespace Package

def toJson (p : Package) : Json :=
  .obj [("name", .str p.name), ("modules", .arr (p.modules.map Module.toJson))]

def shape : RecordShape := ⟨"Package", ["name", "modules"]⟩

def step (p : Package) (key : String) (v : Json) : Except DecodeError Package :=
  match key with
  | "name" => do return { p with name := ← Decoder.text v }
  | "modules" => do return { p with modules := ← Decoder.list Module.decode v }
  | _ => .ok p

def decode : Decoder Package := shape.read {} step fun _ p => .ok p

end Package
end ApiLens
