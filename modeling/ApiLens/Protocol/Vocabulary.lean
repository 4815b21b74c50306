import ApiLens.Json.Check
import ApiLens.Lens.Wire

/-!
What the parameters of requests are made of: documents and places in them, edits, marked-up text and what is
wrong in a document.
-/

namespace ApiLens.Protocol

open Check Field

/-- A token is a text, or a whole number of 32 bits with a sign. -/
def token : Check := oneOf "NumberOrString" [int, text]

def documentFields : List Field := [must "uri" uri]
def document : Check := record "TextDocumentIdentifier" documentFields

def positionFields : List Field := [must "line" word, must "character" word]
def position : Check := record "Position" positionFields

def range : Check := of Range.decode

def location : Check := record "Location" [must "uri" uri, must "range" range]

def workspaceLocation : Check := record "WorkspaceLocation" [must "uri" uri]

def command : Check := of Command.decode

/-- A place in a document, as a record of its own. -/
def place : Check :=
  record "TextDocumentPositionParams"
    [must "textDocument" document, must "position" position]

/-- A place in a document, spread over the object of another record. -/
def placeIn : Json.Fields → Except DecodeError Unit :=
  entriesFit [
    must "textDocument" (recordWith .inSequence "TextDocumentIdentifier" documentFields),
    must "position" (recordWith .inSequence "Position" positionFields)]

/-- The token under which progress is reported. -/
def progressIn : Json.Fields → Except DecodeError Unit :=
  entriesFit [may "workDoneToken" token]

/-- The token under which partial results are sent. -/
def partialIn : Json.Fields → Except DecodeError Unit :=
  entriesFit [may "partialResultToken" token]

def markupKind : Check := name ["plaintext", "markdown"]

def markup : Check :=
  record "MarkupContent" [must "kind" markupKind, must "value" text]

def documentation : Check := oneOf "Documentation" [text, markup]

def textEdit : Check := record "TextEdit" [must "range" range, must "newText" text]

def annotatedTextEdit : Check :=
  spread "AnnotatedTextEdit" [must "annotationId" text]
    [entriesFit [must "range" range, must "newText" text]]

def insertReplaceEdit : Check :=
  record "InsertReplaceEdit"
    [must "newText" text, must "insert" range, must "replace" range]

def diagnostic : Check :=
  record "Diagnostic" [
    must "range" range, may "severity" int, may "code" token,
    may "codeDescription" (record "CodeDescription" [must "href" uri]),
    may "source" text, must "message" text,
    may "relatedInformation" (list (record "DiagnosticRelatedInformation"
      [must "location" location, must "message" text])),
    may "tags" (list int), may "data" any]

def fileOptions (record : String) (first second : String) : List Field → Check := fun more =>
  Check.record record ([may first flag, may second flag] ++ more)

/-- A file that is made, renamed or deleted. The kind comes first in a list. -/
def resourceOperation : Check
  | .obj entries =>
    match (Json.Fields.get? entries "kind").bind kind? with
    | some c => c (.obj (entries.filter (·.1 != "kind")))
    | none => .error (.missingField "kind")
  | .arr (first :: rest) =>
    match kind? first with
    | some c => c (.arr rest)
    | none => .error (.missingField "kind")
  | v => .error (.invalidType v "internally tagged enum ResourceOp")
where
  kind? (v : Json) : Option Check := v.text?.bind (List.lookup · kinds)
  kinds : List (String × Check) := [
    ("create", record "CreateFile" [must "uri" uri,
      may "options" (fileOptions "CreateFileOptions" "overwrite" "ignoreIfExists" []),
      may "annotationId" text]),
    ("rename", record "RenameFile" [must "oldUri" uri, must "newUri" uri,
      may "options" (fileOptions "RenameFileOptions" "overwrite" "ignoreIfExists" []),
      may "annotationId" text]),
    ("delete", record "DeleteFile" [must "uri" uri,
      may "options" (fileOptions "DeleteFileOptions" "recursive" "ignoreIfNotExists"
        [may "annotationId" text])])]

def documentEdit : Check :=
  record "TextDocumentEdit" [
    must "textDocument" (record "OptionalVersionedTextDocumentIdentifier"
      [must "uri" uri, may "version" int]),
    must "edits" (list (oneOf "OneOf" [textEdit, annotatedTextEdit]))]

def isUri (text : String) : Except DecodeError Unit := uri (.str text)

def workspaceEdit : Check :=
  record "WorkspaceEdit" [
    defaulted "changes" (option (dictionary "map" isUri (list textEdit))),
    may "documentChanges" (oneOf "DocumentChanges" [list documentEdit,
      list (oneOf "DocumentChangeOperation" [resourceOperation, documentEdit])]),
    may "changeAnnotations" (dictionary "a map" (fun _ => .ok ()) (record "ChangeAnnotation"
      [must "label" text, may "needsConfirmation" flag, may "description" text]))]

end ApiLens.Protocol
