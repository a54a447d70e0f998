import LintRelay.Server.Shape

/-!
# Requests that are not served

The protocol between editors and servers defines more requests than the server serves. Such a request
is refused, but its parameters are looked at first: `otherRequests` says what they have to be.
-/

namespace LintRelay.Server

open Json (Decoder Form Slot)

/-- Parameters with the given fields alone. -/
def plain (name : String) (slots : List (Slot Unit)) : Grouped Unit := ⟨⟨name, (), slots⟩, []⟩

/-- Parameters with the given fields and a token for progress. -/
def reported (name : String) (slots : List (Slot Unit)) : Grouped Unit :=
  ⟨⟨name, (), slots⟩, [workDone]⟩

/-- Parameters with the given fields and tokens for progress and for parts of the result. -/
def streamed (name : String) (slots : List (Slot Unit)) : Grouped Unit :=
  ⟨⟨name, (), slots⟩, [workDone, partialResult]⟩

/-- The parameters together with a position in a document. -/
def Grouped.atPosition (g : Grouped Unit) : Grouped Unit :=
  { g with others := documentPosition .aside :: g.others }

/-! ## Problems and actions -/

/-- A problem that an editor shows. -/
def shownDiagnostic : Decoder Unit :=
  shape "Diagnostic"
    [needRange "range",
      may "severity" int32,
      may "code" numberOrString,
      may "codeDescription" (shape "CodeDescription" [need "href" uri]),
      may "source" .string,
      need "message" .string,
      may "relatedInformation"
        (.list (shape "DiagnosticRelatedInformation"
          [need "location" location, need "message" .string])),
      may "tags" (.list int32),
      may "data" .any]

/-- Replacements in a document. Each may carry a note, which changes nothing about its shape. -/
def documentEdit : Decoder Unit :=
  shape "TextDocumentEdit"
    [need "textDocument"
        (shape "OptionalVersionedTextDocumentIdentifier" [need "uri" uri, may "version" int32]),
      need "edits" (.list textEdit)]

/-- How a file is made or renamed where there is one already. -/
def replacing (name : String) : Slot Unit :=
  may "options" (shape name [flag "overwrite", flag "ignoreIfExists"])

/-- What is done to a file: made, renamed or deleted. -/
def fileOperations : List (String × Decoder Unit) :=
  [("create",
      shape "CreateFile"
        [need "uri" uri, replacing "CreateFileOptions", may "annotationId" .string]),
    ("rename",
      shape "RenameFile"
        [need "oldUri" uri, need "newUri" uri, replacing "RenameFileOptions",
          may "annotationId" .string]),
    ("delete",
      shape "DeleteFile"
        [need "uri" uri,
          may "options"
            (shape "DeleteFileOptions"
              [flag "recursive", flag "ignoreIfNotExists", may "annotationId" .string])])]

/-- The operation that a word or a number names. -/
def fileOperation? : Json → Option (Decoder Unit)
  | .string word => (fileOperations.find? (·.1 == word)).map (·.2)
  | .number (.integer n) => if n < 0 then none else (fileOperations[n.toNat]?).map (·.2)
  | _ => none

/-- Something done to a file, with its kind in front or as a member. -/
def fileOperation : Decoder Unit := fun v =>
  let parts : Option (Json × Json) :=
    match v with
    | .array (kind :: fields) => some (kind, .array fields)
    | .object ms => (ms.find? (·.1 == "kind")).map fun m => (m.2, v)
    | _ => none
  match parts.bind fun p => (fileOperation? p.1).map (· p.2) with
  | some result => result
  | none => Json.refused "internally tagged enum ResourceOp" v

/-- Changes that span files. -/
def workspaceEdit : Decoder Unit :=
  shape "WorkspaceEdit"
    [.of "changes" true
        (.nullable (.members "map" (fun name => discard (uri (.string name))) (.list textEdit)))
        fun _ u => u,
      may "documentChanges"
        (.choice "DocumentChanges"
          [forgetting (.list documentEdit),
            forgetting (.list (.choice "DocumentChangeOperation" [fileOperation, documentEdit]))]),
      may "changeAnnotations"
        (.members "a map" (fun _ => .ok ())
          (shape "ChangeAnnotation"
            [need "label" .string, flag "needsConfirmation", may "description" .string]))]

def codeActionSlots : List (Slot Unit) :=
  [need "title" .string,
    may "kind" .string,
    may "diagnostics" (.list shownDiagnostic),
    may "edit" workspaceEdit,
    may "command" command,
    flag "isPreferred",
    may "disabled" (shape "CodeActionDisabled" [need "reason" .string]),
    may "data" .any]

def codeActionContext : Decoder Unit :=
  shape "CodeActionContext"
    [need "diagnostics" (.list shownDiagnostic), mayNames "only", may "triggerKind" int32]

/-! ## Completions and signatures -/

def completionSlots : List (Slot Unit) :=
  [need "label" .string,
    may "labelDetails"
      (shape "CompletionItemLabelDetails" [may "detail" .string, may "description" .string]),
    may "kind" int32,
    may "detail" .string,
    may "documentation" documentation,
    flag "deprecated",
    flag "preselect",
    may "sortText" .string,
    may "filterText" .string,
    may "insertText" .string,
    may "insertTextFormat" int32,
    may "insertTextMode" int32,
    may "textEdit"
      (.choice "CompletionTextEdit"
        [textEdit,
          shape "InsertReplaceEdit"
            [need "newText" .string, needRange "insert", needRange "replace"]]),
    may "additionalTextEdits" (.list textEdit),
    may "command" command,
    mayNames "commitCharacters",
    may "data" .any,
    may "tags" (.list int32)]

/-- Two numbers: where a label begins and ends. -/
def labelOffsets : Decoder Unit
  | .array [a, b] => do
    discard (word32 a)
    discard (word32 b)
  | v => Json.refused "an array of length 2" v

def signature : Decoder Unit :=
  shape "SignatureInformation"
    [need "label" .string,
      may "documentation" documentation,
      may "parameters"
        (.list (shape "ParameterInformation"
          [need "label" (.choice "ParameterLabel" [forgetting .string, labelOffsets]),
            may "documentation" documentation])),
      may "activeParameter" word32]

def signatureContext : Decoder Unit :=
  shape "SignatureHelpContext"
    [need "triggerKind" int32,
      may "triggerCharacter" .string,
      need "isRetrigger" .bool,
      may "activeSignatureHelp"
        (shape "SignatureHelp"
          [need "signatures" (.list signature), may "activeSignature" word32,
            may "activeParameter" word32])]

/-! ## Symbols and hints -/

/-- Something in a hierarchy, whose tags have the given shape. -/
def hierarchyItem (name : String) (tags : Decoder Unit) : Decoder Unit :=
  shape name
    [need "name" .string, need "kind" int32, may "tags" tags, may "detail" .string,
      need "uri" uri, needRange "range", needRange "selectionRange", may "data" .any]

/-- Something in a hierarchy of calls. -/
def callItem : Slot Unit :=
  need "item" (hierarchyItem "CallHierarchyItem" (forgetting (.list int32)))

/-- Something in a hierarchy of types. -/
def typeItem : Slot Unit := need "item" (hierarchyItem "TypeHierarchyItem" (forgetting int32))

def symbolSlots : List (Slot Unit) :=
  [need "name" .string,
    need "kind" int32,
    may "tags" (.list int32),
    may "containerName" .string,
    need "location" (either location (shape "WorkspaceLocation" [need "uri" uri])),
    may "data" .any]

def hintSlots : List (Slot Unit) :=
  [need "position" position.decoder,
    need "label"
      (.choice "InlayHintLabel"
        [forgetting .string,
          forgetting (.list (shape "InlayHintLabelPart"
            [need "value" .string,
              may "tooltip" (textNamed "InlayHintLabelPartTooltip"),
              may "location" location,
              may "command" command]))]),
    may "kind" int32,
    may "textEdits" (.list textEdit),
    may "tooltip" (textNamed "InlayHintTooltip"),
    flag "paddingLeft",
    flag "paddingRight",
    may "data" .any]

/-! ## Layout and colours -/

/-- A setting of the layout that has no name of its own. -/
def formattingProperty : Decoder Unit :=
  .choice "FormattingProperty" [forgetting .bool, forgetting int32, forgetting .string]

/-- The settings of the layout that have names. -/
def formattingForm : Form Unit :=
  ⟨"FormattingOptions", (),
    [need "tabSize" word32, need "insertSpaces" .bool, flag "trimTrailingWhitespace",
      flag "insertFinalNewline", flag "trimFinalNewlines"]⟩

/-- The settings of the layout. Those with names come first, and a list of them is refused. -/
def formattingOptions : Decoder Unit
  | .object ms => do
    formattingForm.decoder (.object ms)
    (ms.filter fun m => !formattingForm.slots.any (·.name == m.1)).forM fun m =>
      formattingProperty m.2
  | v => Json.refused "struct FormattingOptions" v

/-- A field for the settings of the layout. -/
def needOptions : Slot Unit := need "options" formattingOptions

def colour : Decoder Unit :=
  shape "Color" (["red", "green", "blue", "alpha"].map fun name => need name (.float "f32"))

/-! ## The requests -/

/-- Files that are about to change, each named by the given fields. -/
def filesParams (name file : String) (fields : List String) : Grouped Unit :=
  plain name [need "files" (.list (shape file (fields.map fun f => need f .string)))]

/-- Parameters of a search for where something is introduced. -/
def gotoParams : Grouped Unit := (streamed "GotoDefinitionParams" []).atPosition

/-- Requests about a whole document or the workspace. -/
def wideRequests : List (String × Grouped Unit) :=
  [("textDocument/willSaveWaitUntil",
      plain "WillSaveTextDocumentParams" [needDocument, need "reason" int32]),
    ("textDocument/documentLink", streamed "DocumentLinkParams" [needDocument]),
    ("textDocument/codeLens", streamed "CodeLensParams" [needDocument]),
    ("textDocument/foldingRange", streamed "FoldingRangeParams" [needDocument]),
    ("textDocument/selectionRange",
      streamed "SelectionRangeParams"
        [needDocument, need "positions" (.list position.decoder)]),
    ("textDocument/documentSymbol", streamed "DocumentSymbolParams" [needDocument]),
    ("textDocument/semanticTokens/full", streamed "SemanticTokensParams" [needDocument]),
    ("textDocument/semanticTokens/full/delta",
      streamed "SemanticTokensDeltaParams" [needDocument, need "previousResultId" .string]),
    ("textDocument/semanticTokens/range",
      streamed "SemanticTokensRangeParams" [needDocument, needRange "range"]),
    ("textDocument/inlineValue",
      reported "InlineValueParams"
        [needDocument, needRange "range",
          need "context"
            (shape "InlineValueContext" [need "frameId" int32, needRange "stoppedLocation"])]),
    ("textDocument/inlayHint",
      reported "InlayHintParams" [needDocument, needRange "range"]),
    ("textDocument/diagnostic",
      streamed "DocumentDiagnosticParams"
        [needDocument, may "identifier" .string, may "previousResultId" .string]),
    ("workspace/diagnostic",
      streamed "WorkspaceDiagnosticParams"
        [may "identifier" .string,
          need "previousResultIds"
            (.list (shape "PreviousResultId" [need "uri" uri, need "value" .string]))]),
    ("textDocument/codeAction",
      streamed "CodeActionParams"
        [needDocument, needRange "range", need "context" codeActionContext]),
    ("textDocument/documentColor", streamed "DocumentColorParams" [needDocument]),
    ("textDocument/colorPresentation",
      streamed "ColorPresentationParams"
        [needDocument, need "color" colour, needRange "range"]),
    ("textDocument/formatting",
      reported "DocumentFormattingParams" [needDocument, needOptions]),
    ("textDocument/rangeFormatting",
      reported "DocumentRangeFormattingParams" [needDocument, needRange "range", needOptions]),
    ("workspace/symbol", streamed "WorkspaceSymbolParams" [need "query" .string]),
    ("workspace/willCreateFiles", filesParams "CreateFilesParams" "FileCreate" ["uri"]),
    ("workspace/willRenameFiles",
      filesParams "RenameFilesParams" "FileRename" ["oldUri", "newUri"]),
    ("workspace/willDeleteFiles", filesParams "DeleteFilesParams" "FileDelete" ["uri"])]

/-- Requests about a position in a document. -/
def positionRequests : List (String × Grouped Unit) :=
  [("textDocument/declaration", gotoParams),
    ("textDocument/definition", gotoParams),
    ("textDocument/typeDefinition", gotoParams),
    ("textDocument/implementation", gotoParams),
    ("textDocument/references",
      (streamed "ReferenceParams"
        [need "context"
          (shape "ReferenceContext" [need "includeDeclaration" .bool])]).atPosition),
    ("textDocument/prepareCallHierarchy",
      (reported "CallHierarchyPrepareParams" []).atPosition),
    ("textDocument/prepareTypeHierarchy",
      (reported "TypeHierarchyPrepareParams" []).atPosition),
    ("textDocument/documentHighlight", (streamed "DocumentHighlightParams" []).atPosition),
    ("textDocument/hover", (reported "HoverParams" []).atPosition),
    ("textDocument/moniker", (streamed "MonikerParams" []).atPosition),
    ("textDocument/completion",
      (streamed "CompletionParams"
        [may "context"
          (shape "CompletionContext"
            [need "triggerKind" int32, may "triggerCharacter" .string])]).atPosition),
    ("textDocument/signatureHelp",
      (reported "SignatureHelpParams" [may "context" signatureContext]).atPosition),
    ("textDocument/onTypeFormatting",
      ⟨⟨"DocumentOnTypeFormattingParams", (), [need "ch" .string, needOptions]⟩,
        [documentPosition .aside]⟩),
    ("textDocument/rename",
      (reported "RenameParams" [need "newName" .string]).atPosition),
    ("textDocument/prepareRename", ⟨documentPosition .direct, []⟩),
    ("textDocument/linkedEditingRange",
      (reported "LinkedEditingRangeParams" []).atPosition)]

/-- Requests about something that an earlier answer named. -/
def itemRequests : List (String × Grouped Unit) :=
  [("callHierarchy/incomingCalls", streamed "CallHierarchyIncomingCallsParams" [callItem]),
    ("callHierarchy/outgoingCalls", streamed "CallHierarchyOutgoingCallsParams" [callItem]),
    ("typeHierarchy/supertypes", streamed "TypeHierarchySupertypesParams" [typeItem]),
    ("typeHierarchy/subtypes", streamed "TypeHierarchySubtypesParams" [typeItem]),
    ("documentLink/resolve",
      plain "DocumentLink"
        [needRange "range", may "target" uri, may "tooltip" .string, may "data" .any]),
    ("codeLens/resolve",
      plain "CodeLens" [needRange "range", may "command" command, may "data" .any]),
    ("inlayHint/resolve", plain "InlayHint" hintSlots),
    ("completionItem/resolve", plain "CompletionItem" completionSlots),
    ("codeAction/resolve", plain "CodeAction" codeActionSlots),
    ("workspaceSymbol/resolve", plain "WorkspaceSymbol" symbolSlots)]

/-- The requests that are not served, with what their parameters have to be. -/
def otherRequests : List (String × Grouped Unit) :=
  wideRequests ++ positionRequests ++ itemRequests

end LintRelay.Server
