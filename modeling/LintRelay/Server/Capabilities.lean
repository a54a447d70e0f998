import LintRelay.Server.Shape

/-!
# What an editor can do

At the start the editor lists its capabilities. None of them changes what the server does, but the
list has to have its shape.
-/

namespace LintRelay.Server

open Json (Decoder Slot)

/-- A capability that can be registered later, and nothing more. -/
def registration : Decoder Unit :=
  shape "DynamicRegistrationClientCapabilities" [flag "dynamicRegistration"]

/-- A field for a capability that can be registered later. -/
def registrable (name : String) : Slot Unit := may name registration

/-- A capability that can be registered later, with further fields. -/
def capability (name : String) (slots : List (Slot Unit)) : Decoder Unit :=
  shape name (flag "dynamicRegistration" :: slots)

def refreshing (name : String) : Decoder Unit := shape name [flag "refreshSupport"]

/-- The properties that are resolved later. -/
def resolving (name : String) : Decoder Unit := shape name [needNames "properties"]

/-- A field for tags. True and false may stand for a list of tags. -/
def tagSupport : Slot Unit :=
  .of "tagSupport" true (fun v =>
    match v with
    | .null | .bool _ => .ok ()
    | v => shape "TagSupport" [need "valueSet" (.list int32)] v) fun _ u => u

/-- Ways to mark up a text. -/
def markupKinds (name : String) : Slot Unit := may name (.list markupKind)

def symbolKinds : Slot Unit :=
  may "symbolKind" (shape "SymbolKindCapability" [may "valueSet" (.list int32)])

/-! ## The workspace -/

/-- Changes that span files. -/
def workspaceEditCapability : Decoder Unit :=
  shape "WorkspaceEditClientCapabilities"
    [flag "documentChanges",
      may "resourceOperations" (.list (.variant ["create", "rename", "delete"])),
      may "failureHandling"
        (.variant ["abort", "transactional", "textOnlyTransactional", "undo"]),
      flag "normalizesLineEndings",
      may "changeAnnotationSupport"
        (shape "ChangeAnnotationWorkspaceEditClientCapabilities" [flag "groupsOnLabel"])]

def workspaceCapabilities : Decoder Unit :=
  shape "WorkspaceClientCapabilities"
    [flag "applyEdit",
      may "workspaceEdit" workspaceEditCapability,
      registrable "didChangeConfiguration",
      may "didChangeWatchedFiles"
        (capability "DidChangeWatchedFilesClientCapabilities" [flag "relativePatternSupport"]),
      may "symbol"
        (capability "WorkspaceSymbolClientCapabilities"
          [symbolKinds, tagSupport,
            may "resolveSupport" (resolving "WorkspaceSymbolResolveSupportCapability")]),
      registrable "executeCommand",
      flag "workspaceFolders",
      flag "configuration",
      may "semanticTokens" (refreshing "SemanticTokensWorkspaceClientCapabilities"),
      may "codeLens" (refreshing "CodeLensWorkspaceClientCapabilities"),
      may "fileOperations"
        (capability "WorkspaceFileOperationsClientCapabilities"
          (["didCreate", "willCreate", "didRename", "willRename", "didDelete", "willDelete"].map
            flag)),
      may "inlineValue" (refreshing "InlineValueWorkspaceClientCapabilities"),
      may "inlayHint" (refreshing "InlayHintWorkspaceClientCapabilities"),
      may "diagnostic" (refreshing "DiagnosticWorkspaceClientCapabilities")]

/-! ## Documents -/

def completionCapability : Decoder Unit :=
  capability "CompletionClientCapabilities"
    [may "completionItem"
        (shape "CompletionItemCapability"
          [flag "snippetSupport", flag "commitCharactersSupport",
            markupKinds "documentationFormat", flag "deprecatedSupport", flag "preselectSupport",
            tagSupport, flag "insertReplaceSupport",
            may "resolveSupport" (resolving "CompletionItemCapabilityResolveSupport"),
            may "insertTextModeSupport"
              (shape "InsertTextModeSupport" [need "valueSet" (.list int32)]),
            flag "labelDetailsSupport"]),
      may "completionItemKind"
        (shape "CompletionItemKindCapability" [may "valueSet" (.list int32)]),
      flag "contextSupport",
      may "insertTextMode" int32,
      may "completionList" (shape "CompletionListCapability" [mayNames "itemDefaults"])]

def signatureCapability : Decoder Unit :=
  capability "SignatureHelpClientCapabilities"
    [may "signatureInformation"
        (shape "SignatureInformationSettings"
          [markupKinds "documentationFormat",
            may "parameterInformation"
              (shape "ParameterInformationSettings" [flag "labelOffsetSupport"]),
            flag "activeParameterSupport"]),
      flag "contextSupport"]

/-- Going to where something is introduced. -/
def gotoCapability (name : String) : Slot Unit :=
  may name (capability "GotoCapability" [flag "linkSupport"])

def codeActionCapability : Decoder Unit :=
  capability "CodeActionClientCapabilities"
    [may "codeActionLiteralSupport"
        (shape "CodeActionLiteralSupport"
          [need "codeActionKind"
            (shape "CodeActionKindLiteralSupport" [needNames "valueSet"])]),
      flag "isPreferredSupport", flag "disabledSupport", flag "dataSupport",
      may "resolveSupport" (resolving "CodeActionCapabilityResolveSupport"),
      flag "honorsChangeAnnotations"]

def foldingCapability : Decoder Unit :=
  capability "FoldingRangeClientCapabilities"
    [may "rangeLimit" word32, flag "lineFoldingOnly",
      may "foldingRangeKind"
        (shape "FoldingRangeKindCapability"
          [may "valueSet" (.list (.variant ["comment", "imports", "region"]))]),
      may "foldingRange" (shape "FoldingRangeCapability" [flag "collapsedText"])]

def semanticTokensCapability : Decoder Unit :=
  capability "SemanticTokensClientCapabilities"
    [need "requests"
        (shape "SemanticTokensClientCapabilitiesRequests"
          [flag "range",
            may "full"
              (.choice "SemanticTokensFullOptions"
                [forgetting .bool,
                  shape "SemanticTokensFullOptions::Delta" [flag "delta"]])]),
      needNames "tokenTypes", needNames "tokenModifiers", needNames "formats",
      flag "overlappingTokenSupport", flag "multilineTokenSupport", flag "serverCancelSupport",
      flag "augmentsSyntaxTokens"]

def documentCapabilities : Decoder Unit :=
  shape "TextDocumentClientCapabilities"
    [may "synchronization"
        (capability "TextDocumentSyncClientCapabilities"
          [flag "willSave", flag "willSaveWaitUntil", flag "didSave"]),
      may "completion" completionCapability,
      may "hover" (capability "HoverClientCapabilities" [markupKinds "contentFormat"]),
      may "signatureHelp" signatureCapability,
      registrable "references",
      registrable "documentHighlight",
      may "documentSymbol"
        (capability "DocumentSymbolClientCapabilities"
          [symbolKinds, flag "hierarchicalDocumentSymbolSupport", tagSupport]),
      registrable "formatting",
      registrable "rangeFormatting",
      registrable "onTypeFormatting",
      gotoCapability "declaration",
      gotoCapability "definition",
      gotoCapability "typeDefinition",
      gotoCapability "implementation",
      may "codeAction" codeActionCapability,
      registrable "codeLens",
      may "documentLink" (capability "DocumentLinkClientCapabilities" [flag "tooltipSupport"]),
      registrable "colorProvider",
      may "rename"
        (capability "RenameClientCapabilities"
          [flag "prepareSupport", may "prepareSupportDefaultBehavior" int32,
            flag "honorsChangeAnnotations"]),
      may "publishDiagnostics"
        (shape "PublishDiagnosticsClientCapabilities"
          [flag "relatedInformation", tagSupport, flag "versionSupport",
            flag "codeDescriptionSupport", flag "dataSupport"]),
      may "foldingRange" foldingCapability,
      may "selectionRange" (capability "SelectionRangeClientCapabilities" []),
      registrable "linkedEditingRange",
      registrable "callHierarchy",
      may "semanticTokens" semanticTokensCapability,
      registrable "moniker",
      registrable "typeHierarchy",
      registrable "inlineValue",
      may "inlayHint"
        (capability "InlayHintClientCapabilities"
          [may "resolveSupport" (resolving "InlayHintResolveClientCapabilities")]),
      may "diagnostic"
        (capability "DiagnosticClientCapabilities" [flag "relatedDocumentSupport"])]

/-! ## Windows, and the rest -/

def windowCapabilities : Decoder Unit :=
  shape "WindowClientCapabilities"
    [flag "workDoneProgress",
      may "showMessage"
        (shape "ShowMessageRequestClientCapabilities"
          [may "messageActionItem"
            (shape "MessageActionItemCapabilities" [flag "additionalPropertiesSupport"])]),
      may "showDocument" (shape "ShowDocumentClientCapabilities" [need "support" .bool])]

/-- Capabilities of no part in particular. -/
def generalCapabilities : Decoder Unit :=
  shape "GeneralClientCapabilities"
    [may "regularExpressions"
        (shape "RegularExpressionsClientCapabilities"
          [need "engine" .string, may "version" .string]),
      may "markdown"
        (shape "MarkdownClientCapabilities"
          [need "parser" .string, may "version" .string, mayNames "allowedTags"]),
      may "staleRequestSupport"
        (shape "StaleRequestSupportClientCapabilities"
          [need "cancel" .bool, needNames "retryOnContentModified"]),
      mayNames "positionEncodings"]

def editorCapabilities : Decoder Unit :=
  shape "ClientCapabilities"
    [may "workspace" workspaceCapabilities,
      may "textDocument" documentCapabilities,
      may "window" windowCapabilities,
      may "general" generalCapabilities,
      may "experimental" .any]

end LintRelay.Server
