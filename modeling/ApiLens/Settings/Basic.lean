import ApiLens.Declaration.Basic
import ApiLens.Json.Decode

/-!
The three settings of a workspace and their defaults.
-/

namespace ApiLens

structure Settings where
  /-- Show lenses at all. -/
  enableCodeLens : Bool := true
  /-- The editor command that a lens runs. -/
  showDocsCommand : String := "ballerina.showDocs"
  innerFunctionsRequirePublic : Bool := false
deriving DecidableEq, Repr

namespace Settings

def policy (s : Settings) : Policy := ⟨s.innerFunctionsRequirePublic⟩

def toJson (s : Settings) : Json :=
  .obj [("enable_code_lens", .bool s.enableCodeLens),
    ("show_docs_command", .str s.showDocsCommand),
    ("inner_functions_require_public", .bool s.innerFunctionsRequirePublic)]

def shape : RecordShape :=
  ⟨"Settings", ["enable_code_lens", "show_docs_command", "inner_functions_require_public"]⟩

structure Parts where
  enableCodeLens : Option Bool := none
  showDocsCommand : Option String := none
  innerFunctionsRequirePublic : Option Bool := none

def step (p : Parts) (key : String) (v : Json) : Except DecodeError Parts :=
  match key with
  | "enable_code_lens" => do return { p with enableCodeLens := some (← Decoder.bool v) }
  | "show_docs_command" => do return { p with showDocsCommand := some (← Decoder.text v) }
  | "inner_functions_require_public" => do
    return { p with innerFunctionsRequirePublic := some (← Decoder.bool v) }
  | _ => .ok p

def finish (missing : String → DecodeError) (p : Parts) : Except DecodeError Settings := do
  return {
    enableCodeLens := ← required missing "enable_code_lens" p.enableCodeLens
    showDocsCommand := ← required missing "show_docs_command" p.showDocsCommand
    innerFunctionsRequirePublic :=
      ← required missing "inner_functions_require_public" p.innerFunctionsRequirePublic }

def decode : Decoder Settings := shape.read {} step finish

end Settings
end ApiLens
