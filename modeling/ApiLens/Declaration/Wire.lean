import ApiLens.Declaration.Basic
import ApiLens.Json.Decode

/-!
Declarations as JSON.
-/

namespace ApiLens

namespace Span

def toJson (s : Span) : Json :=
  .obj [("startLine", .ofOption .ofWord s.startLine), ("startColumn", .ofOption .ofWord s.startColumn),
    ("endLine", .ofOption .ofWord s.endLine), ("endColumn", .ofOption .ofWord s.endColumn)]

def shape : RecordShape := ⟨"NodePosition", ["startLine", "startColumn", "endLine", "endColumn"]⟩

def step (s : Span) (key : String) (v : Json) : Except DecodeError Span :=
  match key with
  | "startLine" => do return { s with startLine := ← Decoder.option .word v }
  | "startColumn" => do return { s with startColumn := ← Decoder.option .word v }
  | "endLine" => do return { s with endLine := ← Decoder.option .word v }
  | "endColumn" => do return { s with endColumn := ← Decoder.option .word v }
  | _ => .ok s

def decode : Decoder Span :=
  shape.read unknown step fun _ s => .ok s

end Span

namespace Category

def names : List (String × Category) :=
  [("Function", .function), ("Class", .classDefinition), ("Record", .record),
    ("AbstractObject", .abstractObject)]

def text : Category → String
  | .function => "Function"
  | .classDefinition => "Class"
  | .record => "Record"
  | .abstractObject => "AbstractObject"

def decode : Decoder Category := Decoder.name names

end Category

namespace Declaration

def toJson (d : Declaration) : Json :=
  .obj [("position", d.span.toJson), ("displayName", .str d.displayName),
    ("moduleName", .str d.moduleName), ("category", .str d.category.text)]

def shape : RecordShape :=
  ⟨"DocumentableDeclaration", ["position", "displayName", "moduleName", "category"]⟩

/-- The parts of a declaration that have been read so far. -/
structure Parts where
  span : Option Span := none
  displayName : Option String := none
  moduleName : Option String := none
  category : Option Category := none

def step (p : Parts) (key : String) (v : Json) : Except DecodeError Parts :=
  match key with
  | "position" => do return { p with span := some (← Span.decode v) }
  | "displayName" => do return { p with displayName := some (← Decoder.text v) }
  | "moduleName" => do return { p with moduleName := some (← Decoder.text v) }
  | "category" => do return { p with category := some (← Category.decode v) }
  | _ => .ok p

def finish (missing : String → DecodeError) (p : Parts) : Except DecodeError Declaration := do
  return {
    span := ← required missing "position" p.span
    displayName := ← required missing "displayName" p.displayName
    moduleName := ← required missing "moduleName" p.moduleName
    category := ← required missing "category" p.category }

def decode : Decoder Declaration := shape.read {} step finish

end Declaration
end ApiLens
