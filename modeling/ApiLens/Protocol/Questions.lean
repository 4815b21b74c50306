import ApiLens.Protocol.Vocabulary

/-!
The requests that the protocol knows and that the server does not offer, with the parameters that each wants.
-/

namespace ApiLens.Protocol

open Check Field

/-- A question about a place in a document. -/
def aboutPlace (name : String) (own : List Field := []) : Check :=
  spread name own [placeIn, progressIn]

/-- A question about a place in a document that may be answered in parts. -/
def aboutPlaceInParts (name : String) (own : List Field := []) : Check :=
  spread name own [placeIn, progressIn, partialIn]

/-- A question about a document. -/
def aboutDocument (name : String) (own : List Field) : Check :=
  spread name (must "textDocument" document :: own) [progressIn]

/-- A question about a document that may be answered in parts. -/
def aboutDocumentInParts (name : String) (own : List Field := []) : Check :=
  spread name (must "textDocument" document :: own) [progressIn, partialIn]

def callItem : Check :=
  record "CallHierarchyItem" [
    must "name" text, must "kind" int, may "tags" (list int), may "detail" text,
    must "uri" uri, must "range" range, must "selectionRange" range,
    may "data" any]

def typeItem : Check :=
  record "TypeHierarchyItem" [
    must "name" text, must "kind" int, may "tags" int, may "detail" text,
    must "uri" uri, must "range" range, must "selectionRange" range,
    may "data" any]

/-- A question about an item that was answered before. -/
def aboutItem (name : String) (item : Check) : Check :=
  spread name [must "item" item] [progressIn, partialIn]

def inlayHint : Check :=
  record "InlayHint" [
    must "position" position, must "label" (oneOf "InlayHintLabel" [text, list part]),
    may "kind" int, may "textEdits" (list textEdit),
    may "tooltip" (oneOf "InlayHintTooltip" [text, markup]), may "paddingLeft" flag,
    may "paddingRight" flag, may "data" any]
where
  part : Check :=
    record "InlayHintLabelPart" [
      must "value" text, may "tooltip" (oneOf "InlayHintLabelPartTooltip" [text, markup]),
      may "location" location, may "command" command]

def completionItem : Check :=
  record "CompletionItem" [
    must "label" text,
    may "labelDetails" (record "CompletionItemLabelDetails"
      [may "detail" text, may "description" text]),
    may "kind" int, may "detail" text, may "documentation" documentation,
    may "deprecated" flag, may "preselect" flag, may "sortText" text,
    may "filterText" text, may "insertText" text, may "insertTextFormat" int,
    may "insertTextMode" int,
    may "textEdit" (oneOf "CompletionTextEdit" [textEdit, insertReplaceEdit]),
    may "additionalTextEdits" (list textEdit), may "command" command,
    may "commitCharacters" (list text), may "data" any, may "tags" (list int)]

def completionContext : Check :=
  record "CompletionContext" [must "triggerKind" int, may "triggerCharacter" text]

def signatureHelp : Check :=
  record "SignatureHelp" [
    must "signatures" (list signature), may "activeSignature" word,
    may "activeParameter" word]
where
  /-- Two numbers. -/
  offsets : Check
    | .arr [a, b] => do
      word a
      word b
    | v => .error (.invalidType v "an array of length 2")
  parameter : Check :=
    record "ParameterInformation" [
      must "label" (oneOf "ParameterLabel" [text, offsets]),
      may "documentation" documentation]
  signature : Check :=
    record "SignatureInformation" [
      must "label" text, may "documentation" documentation,
      may "parameters" (list parameter), may "activeParameter" word]

def signatureHelpContext : Check :=
  record "SignatureHelpContext" [
    must "triggerKind" int, may "triggerCharacter" text, must "isRetrigger" flag,
    may "activeSignatureHelp" signatureHelp]

def codeActionContext : Check :=
  record "CodeActionContext" [
    must "diagnostics" (list diagnostic), may "only" (list text),
    may "triggerKind" int]

def codeAction : Check :=
  record "CodeAction" [
    must "title" text, may "kind" text, may "diagnostics" (list diagnostic),
    may "edit" workspaceEdit, may "command" command, may "isPreferred" flag,
    may "disabled" (record "CodeActionDisabled" [must "reason" text]),
    may "data" any]

/-- How a document is laid out. Any further property is a flag, a number or a text. -/
def formatting : Check :=
  spread "FormattingOptions" [
    must "tabSize" word, must "insertSpaces" flag,
    may "trimTrailingWhitespace" flag, may "insertFinalNewline" flag,
    may "trimFinalNewlines" flag]
    [(·.forM fun (_, v) => oneOf "FormattingProperty" [flag, int, text] v)]

def color : Check :=
  record "Color" [must "red" float, must "green" float, must "blue" float,
    must "alpha" float]

def inlineValueContext : Check :=
  record "InlineValueContext" [must "frameId" int, must "stoppedLocation" range]

def workspaceSymbol : Check :=
  record "WorkspaceSymbol" [
    must "name" text, must "kind" int, may "tags" (list int),
    may "containerName" text,
    must "location" (oneOf "OneOf" [location, workspaceLocation]), may "data" any]

/-- What is about to happen to some files. -/
def aboutFiles (name item : String) (fields : List String) : Check :=
  record name [must "files" (list (record item (fields.map (must · text))))]

/-- What each request wants. -/
def questions : List (String × Check) := [
  ("textDocument/willSaveWaitUntil",
    record "WillSaveTextDocumentParams" [must "textDocument" document, must "reason" int]),
  ("textDocument/declaration", aboutPlaceInParts "GotoDefinitionParams"),
  ("textDocument/definition", aboutPlaceInParts "GotoDefinitionParams"),
  ("textDocument/typeDefinition", aboutPlaceInParts "GotoDefinitionParams"),
  ("textDocument/implementation", aboutPlaceInParts "GotoDefinitionParams"),
  ("textDocument/references", aboutPlaceInParts "ReferenceParams"
    [must "context" (record "ReferenceContext" [must "includeDeclaration" flag])]),
  ("textDocument/prepareCallHierarchy", aboutPlace "CallHierarchyPrepareParams"),
  ("callHierarchy/incomingCalls", aboutItem "CallHierarchyIncomingCallsParams" callItem),
  ("callHierarchy/outgoingCalls", aboutItem "CallHierarchyOutgoingCallsParams" callItem),
  ("textDocument/prepareTypeHierarchy", aboutPlace "TypeHierarchyPrepareParams"),
  ("typeHierarchy/supertypes", aboutItem "TypeHierarchySupertypesParams" typeItem),
  ("typeHierarchy/subtypes", aboutItem "TypeHierarchySubtypesParams" typeItem),
  ("textDocument/documentHighlight", aboutPlaceInParts "DocumentHighlightParams"),
  ("textDocument/documentLink", aboutDocumentInParts "DocumentLinkParams"),
  ("documentLink/resolve", record "DocumentLink" [
    must "range" range, may "target" uri, may "tooltip" text, may "data" any]),
  ("textDocument/hover", aboutPlace "HoverParams"),
  ("textDocument/foldingRange", aboutDocumentInParts "FoldingRangeParams"),
  ("textDocument/selectionRange", aboutDocumentInParts "SelectionRangeParams"
    [must "positions" (list position)]),
  ("textDocument/documentSymbol", aboutDocumentInParts "DocumentSymbolParams"),
  ("textDocument/semanticTokens/full", aboutDocumentInParts "SemanticTokensParams"),
  ("textDocument/semanticTokens/full/delta", aboutDocumentInParts "SemanticTokensDeltaParams"
    [must "previousResultId" text]),
  ("textDocument/semanticTokens/range", aboutDocumentInParts "SemanticTokensRangeParams"
    [must "range" range]),
  ("textDocument/inlineValue", aboutDocument "InlineValueParams"
    [must "range" range, must "context" inlineValueContext]),
  ("textDocument/inlayHint", aboutDocument "InlayHintParams" [must "range" range]),
  ("inlayHint/resolve", inlayHint),
  ("textDocument/moniker", aboutPlaceInParts "MonikerParams"),
  ("textDocument/completion", aboutPlaceInParts "CompletionParams"
    [may "context" completionContext]),
  ("completionItem/resolve", completionItem),
  ("textDocument/diagnostic", aboutDocumentInParts "DocumentDiagnosticParams"
    [may "identifier" text, may "previousResultId" text]),
  ("workspace/diagnostic", spread "WorkspaceDiagnosticParams"
    [may "identifier" text, must "previousResultIds" (list (record "PreviousResultId"
      [must "uri" uri, must "value" text]))] [progressIn, partialIn]),
  ("textDocument/signatureHelp", aboutPlace "SignatureHelpParams"
    [may "context" signatureHelpContext]),
  ("textDocument/codeAction", aboutDocumentInParts "CodeActionParams"
    [must "range" range, must "context" codeActionContext]),
  ("codeAction/resolve", codeAction),
  ("textDocument/documentColor", aboutDocumentInParts "DocumentColorParams"),
  ("textDocument/colorPresentation", aboutDocumentInParts "ColorPresentationParams"
    [must "color" color, must "range" range]),
  ("textDocument/formatting", aboutDocument "DocumentFormattingParams"
    [must "options" formatting]),
  ("textDocument/rangeFormatting", aboutDocument "DocumentRangeFormattingParams"
    [must "range" range, must "options" formatting]),
  ("textDocument/onTypeFormatting", spread "DocumentOnTypeFormattingParams"
    [must "ch" text, must "options" formatting] [placeIn]),
  ("textDocument/rename", aboutPlace "RenameParams" [must "newName" text]),
  ("textDocument/prepareRename", place),
  ("textDocument/linkedEditingRange", aboutPlace "LinkedEditingRangeParams"),
  ("workspace/symbol", spread "WorkspaceSymbolParams" [must "query" text]
    [partialIn, progressIn]),
  ("workspaceSymbol/resolve", workspaceSymbol),
  ("workspace/willCreateFiles", aboutFiles "CreateFilesParams" "FileCreate" ["uri"]),
  ("workspace/willRenameFiles",
    aboutFiles "RenameFilesParams" "FileRename" ["oldUri", "newUri"]),
  ("workspace/willDeleteFiles", aboutFiles "DeleteFilesParams" "FileDelete" ["uri"]),
  ("workspace/executeCommand", spread "ExecuteCommandParams"
    [must "command" text, defaulted "arguments" (list any)] [progressIn])]

end ApiLens.Protocol
