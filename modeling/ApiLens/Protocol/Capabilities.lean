import ApiLens.Protocol.Vocabulary

/-!
What an editor says that it can do. The server looks at all of it and keeps nothing.
-/

namespace ApiLens.Protocol

open Check Field

/-- A capability that consists of flags. -/
def flags (record : String) (names : List String) : Check :=
  Check.record record (names.map (may · flag))

/-- A capability that is offered while the server runs, or is not. -/
def dynamicOnly : Check := flags "DynamicRegistrationClientCapabilities" ["dynamicRegistration"]

def dynamic : Field := may "dynamicRegistration" flag

def refreshing (record : String) : Check := flags record ["refreshSupport"]

/-- The properties that may be asked for later. -/
def laterProperties (record : String) : Check :=
  Check.record record [must "properties" (list text)]

/-- The tags that are understood: a flag stands for none of them. -/
def tagSupport : Field :=
  defaulted "tagSupport" fun
    | .null | .bool _ => .ok ()
    | v => record "TagSupport" [must "valueSet" (list int)] v

def symbolKind : Check := record "SymbolKindCapability" [may "valueSet" (list int)]

def workspaceCapabilities : Check :=
  record "WorkspaceClientCapabilities" [
    may "applyEdit" flag,
    may "workspaceEdit" (record "WorkspaceEditClientCapabilities" [
      may "documentChanges" flag,
      may "resourceOperations" (list (name ["create", "rename", "delete"])),
      may "failureHandling"
        (name ["abort", "transactional", "textOnlyTransactional", "undo"]),
      may "normalizesLineEndings" flag,
      may "changeAnnotationSupport"
        (flags "ChangeAnnotationWorkspaceEditClientCapabilities" ["groupsOnLabel"])]),
    may "didChangeConfiguration" dynamicOnly,
    may "didChangeWatchedFiles" (flags "DidChangeWatchedFilesClientCapabilities"
      ["dynamicRegistration", "relativePatternSupport"]),
    may "symbol" (record "WorkspaceSymbolClientCapabilities" [
      dynamic, may "symbolKind" symbolKind, tagSupport,
      may "resolveSupport" (laterProperties "WorkspaceSymbolResolveSupportCapability")]),
    may "executeCommand" dynamicOnly,
    may "workspaceFolders" flag,
    may "configuration" flag,
    may "semanticTokens" (refreshing "SemanticTokensWorkspaceClientCapabilities"),
    may "codeLens" (refreshing "CodeLensWorkspaceClientCapabilities"),
    may "fileOperations" (flags "WorkspaceFileOperationsClientCapabilities"
      ["dynamicRegistration", "didCreate", "willCreate", "didRename", "willRename", "didDelete",
        "willDelete"]),
    may "inlineValue" (refreshing "InlineValueWorkspaceClientCapabilities"),
    may "inlayHint" (refreshing "InlayHintWorkspaceClientCapabilities"),
    may "diagnostic" (refreshing "DiagnosticWorkspaceClientCapabilities")]

def completionCapabilities : Check :=
  record "CompletionClientCapabilities" [
    dynamic,
    may "completionItem" (record "CompletionItemCapability" [
      may "snippetSupport" flag, may "commitCharactersSupport" flag,
      may "documentationFormat" (list markupKind), may "deprecatedSupport" flag,
      may "preselectSupport" flag, tagSupport, may "insertReplaceSupport" flag,
      may "resolveSupport" (laterProperties "CompletionItemCapabilityResolveSupport"),
      may "insertTextModeSupport"
        (record "InsertTextModeSupport" [must "valueSet" (list int)]),
      may "labelDetailsSupport" flag]),
    may "completionItemKind"
      (record "CompletionItemKindCapability" [may "valueSet" (list int)]),
    may "contextSupport" flag,
    may "insertTextMode" int,
    may "completionList"
      (record "CompletionListCapability" [may "itemDefaults" (list text)])]

def signatureHelpCapabilities : Check :=
  record "SignatureHelpClientCapabilities" [
    dynamic,
    may "signatureInformation" (record "SignatureInformationSettings" [
      may "documentationFormat" (list markupKind),
      may "parameterInformation" (flags "ParameterInformationSettings" ["labelOffsetSupport"]),
      may "activeParameterSupport" flag]),
    may "contextSupport" flag]

def codeActionCapabilities : Check :=
  record "CodeActionClientCapabilities" [
    dynamic,
    may "codeActionLiteralSupport" (record "CodeActionLiteralSupport" [
      must "codeActionKind"
        (record "CodeActionKindLiteralSupport" [must "valueSet" (list text)])]),
    may "isPreferredSupport" flag, may "disabledSupport" flag,
    may "dataSupport" flag,
    may "resolveSupport" (laterProperties "CodeActionCapabilityResolveSupport"),
    may "honorsChangeAnnotations" flag]

def foldingRangeCapabilities : Check :=
  record "FoldingRangeClientCapabilities" [
    dynamic, may "rangeLimit" word, may "lineFoldingOnly" flag,
    may "foldingRangeKind" (record "FoldingRangeKindCapability"
      [may "valueSet" (list (name ["comment", "imports", "region"]))]),
    may "foldingRange" (flags "FoldingRangeCapability" ["collapsedText"])]

def semanticTokensCapabilities : Check :=
  record "SemanticTokensClientCapabilities" [
    dynamic,
    must "requests" (record "SemanticTokensClientCapabilitiesRequests" [
      may "range" flag,
      may "full" (oneOf "SemanticTokensFullOptions" [flag, delta])]),
    must "tokenTypes" (list text), must "tokenModifiers" (list text),
    must "formats" (list text), may "overlappingTokenSupport" flag,
    may "multilineTokenSupport" flag, may "serverCancelSupport" flag,
    may "augmentsSyntaxTokens" flag]
where
  /-- An object, which no list can stand for. -/
  delta : Check
    | .obj entries => entriesFit [may "delta" flag] entries
    | v => .error (.invalidType v "struct variant SemanticTokensFullOptions::Delta")

def gotoCapability : Check := flags "GotoCapability" ["dynamicRegistration", "linkSupport"]

def documentCapabilities : Check :=
  record "TextDocumentClientCapabilities" [
    may "synchronization" (flags "TextDocumentSyncClientCapabilities"
      ["dynamicRegistration", "willSave", "willSaveWaitUntil", "didSave"]),
    may "completion" completionCapabilities,
    may "hover" (record "HoverClientCapabilities"
      [dynamic, may "contentFormat" (list markupKind)]),
    may "signatureHelp" signatureHelpCapabilities,
    may "references" dynamicOnly,
    may "documentHighlight" dynamicOnly,
    may "documentSymbol" (record "DocumentSymbolClientCapabilities" [
      dynamic, may "symbolKind" symbolKind, may "hierarchicalDocumentSymbolSupport" flag,
      tagSupport]),
    may "formatting" dynamicOnly,
    may "rangeFormatting" dynamicOnly,
    may "onTypeFormatting" dynamicOnly,
    may "declaration" gotoCapability,
    may "definition" gotoCapability,
    may "typeDefinition" gotoCapability,
    may "implementation" gotoCapability,
    may "codeAction" codeActionCapabilities,
    may "codeLens" dynamicOnly,
    may "documentLink" (flags "DocumentLinkClientCapabilities"
      ["dynamicRegistration", "tooltipSupport"]),
    may "colorProvider" dynamicOnly,
    may "rename" (record "RenameClientCapabilities" [
      dynamic, may "prepareSupport" flag, may "prepareSupportDefaultBehavior" int,
      may "honorsChangeAnnotations" flag]),
    may "publishDiagnostics" (record "PublishDiagnosticsClientCapabilities" [
      may "relatedInformation" flag, tagSupport, may "versionSupport" flag,
      may "codeDescriptionSupport" flag, may "dataSupport" flag]),
    may "foldingRange" foldingRangeCapabilities,
    may "selectionRange"
      (flags "SelectionRangeClientCapabilities" ["dynamicRegistration"]),
    may "linkedEditingRange" dynamicOnly,
    may "callHierarchy" dynamicOnly,
    may "semanticTokens" semanticTokensCapabilities,
    may "moniker" dynamicOnly,
    may "typeHierarchy" dynamicOnly,
    may "inlineValue" dynamicOnly,
    may "inlayHint" (record "InlayHintClientCapabilities" [
      dynamic, may "resolveSupport" (laterProperties "InlayHintResolveClientCapabilities")]),
    may "diagnostic" (flags "DiagnosticClientCapabilities"
      ["dynamicRegistration", "relatedDocumentSupport"])]

def windowCapabilities : Check :=
  record "WindowClientCapabilities" [
    may "workDoneProgress" flag,
    may "showMessage" (record "ShowMessageRequestClientCapabilities" [
      may "messageActionItem"
        (flags "MessageActionItemCapabilities" ["additionalPropertiesSupport"])]),
    may "showDocument" (record "ShowDocumentClientCapabilities" [must "support" flag])]

def generalCapabilities : Check :=
  record "GeneralClientCapabilities" [
    may "regularExpressions" (record "RegularExpressionsClientCapabilities"
      [must "engine" text, may "version" text]),
    may "markdown" (record "MarkdownClientCapabilities"
      [must "parser" text, may "version" text, may "allowedTags" (list text)]),
    may "staleRequestSupport" (record "StaleRequestSupportClientCapabilities"
      [must "cancel" flag, must "retryOnContentModified" (list text)]),
    may "positionEncodings" (list text)]

def capabilities : Check :=
  record "ClientCapabilities" [
    may "workspace" workspaceCapabilities,
    may "textDocument" documentCapabilities,
    may "window" windowCapabilities,
    may "general" generalCapabilities,
    may "experimental" any]

end ApiLens.Protocol
