import LintRelay.Server.Capabilities

/-!
# Parameters of messages

The parameters of the messages that the server serves, taken from values.
-/

namespace LintRelay.Server

open Json (Decoder Form Slot)

def versionedDocument : Form (Uri × Int) where
  name := "VersionedTextDocumentIdentifier"
  blank := (noUri, 0)
  slots := [
    .of "uri" false uri fun u d => (u, d.2),
    .of "version" false int32 fun v d => (d.1, v)]

def documentItem : Form (Uri × Int) where
  name := "TextDocumentItem"
  blank := (noUri, 0)
  slots := [
    .of "uri" false uri fun u d => (u, d.2),
    .of "languageId" false .string fun _ d => d,
    .of "version" false int32 fun v d => (d.1, v),
    .of "text" false .string fun _ d => d]

/-- A change of a document's text. -/
def contentChange : Form Unit where
  name := "TextDocumentContentChangeEvent"
  blank := ()
  slots := [
    may "range" range.decoder,
    may "rangeLength" word32,
    need "text" .string]

def openParams : Form (Uri × Int) where
  name := "DidOpenTextDocumentParams"
  blank := (noUri, 0)
  slots := [.of "textDocument" false documentItem.decoder fun d _ => d]

def changeParams : Form (Uri × Int) where
  name := "DidChangeTextDocumentParams"
  blank := (noUri, 0)
  slots := [
    .of "textDocument" false versionedDocument.decoder fun d _ => d,
    .of "contentChanges" false (.list contentChange.decoder) fun _ d => d]

def saveParams : Form Uri where
  name := "DidSaveTextDocumentParams"
  blank := noUri
  slots := [
    .of "textDocument" false document.decoder fun d _ => d,
    .nullable "text" .string fun _ d => d]

def closeParams : Form Uri where
  name := "DidCloseTextDocumentParams"
  blank := noUri
  slots := [.of "textDocument" false document.decoder fun d _ => d]

def fileEvent : Form Uri where
  name := "FileEvent"
  blank := noUri
  slots := [
    .of "uri" false uri fun u _ => u,
    .of "type" false int32 fun _ u => u]

/-- Files were changed. -/
def watchedFilesParams : Form (List Uri) where
  name := "DidChangeWatchedFilesParams"
  blank := []
  slots := [.of "changes" false (.list fileEvent.decoder) fun us _ => us]

/-- A buffer is shown in another mode. -/
def modeParams : Form Uri where
  name := "ModeChangedParams"
  blank := noUri
  slots := [.of "uri" false uri fun u _ => u]

def initializedParams : Form Unit := ⟨"InitializedParams", (), []⟩

def commandParams : Grouped String where
  main := {
    name := "ExecuteCommandParams"
    blank := ""
    slots := [
      .of "command" false .string fun c _ => c,
      .of "arguments" true (.list .any) fun _ c => c] }
  others := [workDone]

/-- What the editor says about itself and its workspace. -/
structure Initialization where
  rootUri : Option Uri
  folders : Option (List Uri)
  options : Option Json

def folder : Form Uri where
  name := "WorkspaceFolder"
  blank := noUri
  slots := [
    .of "uri" false uri fun u _ => u,
    .of "name" false .string fun _ u => u]

def editorInfo : Form Unit :=
  ⟨"ClientInfo", (), [need "name" .string, may "version" .string]⟩

def initializeParams : Form Initialization where
  name := "InitializeParams"
  blank := ⟨none, none, none⟩
  slots := [
    .nullable "processId" word32 fun _ i => i,
    .nullable "rootPath" .string fun _ i => i,
    .of "rootUri" true (.nullable uri) fun u i => { i with rootUri := u },
    .nullable "initializationOptions" .any fun o i => { i with options := o },
    .of "capabilities" false editorCapabilities fun _ i => i,
    .of "trace" true (.nullable (.variant ["off", "messages", "verbose"])) fun _ i => i,
    .nullable "workspaceFolders" (.list folder.decoder) fun fs i => { i with folders := fs },
    .nullable "clientInfo" editorInfo.decoder fun _ i => i,
    .nullable "locale" .string fun _ i => i]

end LintRelay.Server
