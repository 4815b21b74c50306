import ApiLens.Protocol.Capabilities
import ApiLens.Session.Basic

/-!
The parameters of an editor's messages, and what a session answers and tells, as JSON.
-/

namespace ApiLens

namespace Decoder

def documentId : Decoder Uri := single "TextDocumentIdentifier" "uri" .uri

end Decoder

/-- A folder that the editor has open. Its name is not kept. -/
def Decoder.workspaceFolder : Decoder Uri :=
  RecordShape.read ⟨"WorkspaceFolder", ["uri", "name"]⟩ (none, none) step finish
where
  step (p : Option Uri × Option String) (key : String) (v : Json) :
      Except DecodeError (Option Uri × Option String) :=
    match key with
    | "uri" => do return (some (← Decoder.uri v), p.2)
    | "name" => do return (p.1, some (← Decoder.text v))
    | _ => .ok p
  finish (missing : String → DecodeError) (p : Option Uri × Option String) :
      Except DecodeError Uri := do
    let uri ← required missing "uri" p.1
    let _ ← required missing "name" p.2
    return uri

/-- The name and version of an editor, which are not kept. -/
def Decoder.clientInfo : Decoder Unit :=
  RecordShape.read ⟨"ClientInfo", ["name", "version"]⟩ (none, none) step finish
where
  step (p : Option String × Option (Option String)) (key : String) (v : Json) :
      Except DecodeError (Option String × Option (Option String)) :=
    match key with
    | "name" => do return (some (← Decoder.text v), p.2)
    | "version" => do return (p.1, some (← Decoder.option .text v))
    | _ => .ok p
  finish (missing : String → DecodeError) (p : Option String × Option (Option String)) :
      Except DecodeError Unit := do
    let _ ← required missing "name" p.1
    let _ ← optional missing "version" p.2

namespace Opening

def shape : RecordShape :=
  ⟨"InitializeParams", ["processId", "rootPath", "rootUri", "initializationOptions",
    "capabilities", "trace", "workspaceFolders", "clientInfo", "locale"]⟩

/-- Of each field, whether it was there. The two that count are kept. -/
structure Parts where
  seen : List String := []
  rootUri : Option Uri := none
  workspaceFolders : Option (List Uri) := none

def traceLevels : List (String × Unit) := [("off", ()), ("messages", ()), ("verbose", ())]

/-- Checks a field that is not kept. -/
def Parts.passing (p : Parts) (d : Decoder α) (v : Json) : Except DecodeError Parts :=
  (d v).map fun _ => p

def step (p : Parts) (key : String) (v : Json) : Except DecodeError Parts :=
  let p := { p with seen := key :: p.seen }
  match key with
  | "rootUri" => do return { p with rootUri := ← Decoder.option .uri v }
  | "workspaceFolders" => do
    return { p with workspaceFolders := ← Decoder.option (.list .workspaceFolder) v }
  | "processId" => p.passing (.option .word) v
  | "rootPath" | "locale" => p.passing (.option .text) v
  | "capabilities" => p.passing Protocol.capabilities v
  | "trace" => p.passing (.option (.name traceLevels)) v
  | "clientInfo" => p.passing (.option .clientInfo) v
  | _ => .ok p

def Parts.field (p : Parts) (name : String) : Option (Option Unit) :=
  if p.seen.contains name then some none else none

/-- The root and the trace level may be left out everywhere, the other optional fields only in an
object. -/
def finish (missing : String → DecodeError) (p : Parts) : Except DecodeError Opening := do
  ["processId", "rootPath", "initializationOptions"].forM allow
  let _ ← required missing "capabilities" (p.field "capabilities")
  ["workspaceFolders", "clientInfo", "locale"].forM allow
  return ⟨p.rootUri, p.workspaceFolders⟩
where
  allow (name : String) : Except DecodeError Unit := do
    let _ ← optional missing name (p.field name)

def decode : Decoder Opening := shape.read {} step finish

end Opening

namespace Message

def decodeReady : Decoder Message :=
  RecordShape.read ⟨"InitializedParams", []⟩ () (fun _ _ _ => .ok ()) fun _ _ => .ok ready

def decodeTreeArrived : Decoder Message := fun v => treeArrived <$> TreeParams.decode v

def decodeClosed : Decoder Message := fun v =>
  closed <$> Decoder.single "DidCloseTextDocumentParams" "textDocument" .documentId v

def decodeConfigurationChanged : Decoder Message := fun v => do
  let _ ← Decoder.single "DidChangeConfigurationParams" "settings" .any v
  return configurationChanged

/-- The document is looked at before the tokens, which are not kept. -/
def decodeLensesAsked : Decoder Message
  | .obj fields => do
    let document ← match Json.Fields.get? fields "textDocument" with
      | some v => Decoder.documentId v
      | none => throw (DecodeError.missingField "textDocument")
    Protocol.progressIn fields
    Protocol.partialIn fields
    return lensesAsked document
  | v => .error (.invalidType v "struct CodeLensParams")

def decodeLensChosen : Decoder Message := fun v => lensChosen <$> CodeLens.decode v

def decodeOverviewAsked : Decoder Message := fun v => overviewAsked <$> OverviewQuery.decode v

def decodeRootsAsked : Decoder Message := fun v => rootsAsked <$> RootsQuery.decode v

end Message

def Reply.toJson : Reply → Json
  | lenses ls => .ofOption (fun ls => .arr (ls.map CodeLens.toJson)) ls
  | lens l => l.toJson
  | elements es => .arr (es.map Element.toJson)

def Severity.number : Severity → Nat
  | error => 1
  | warning => 2
  | info => 3

namespace ClientMessage

def method : ClientMessage → String
  | log .. => "window/logMessage"
  | refreshLenses => "workspace/codeLens/refresh"

def params : ClientMessage → Json
  | log severity text => .obj [("type", .ofNat severity.number), ("message", .str text)]
  | refreshLenses => .null

end ClientMessage
end ApiLens
