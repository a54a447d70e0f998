import LintRelay.Server.Params
import LintRelay.Server.Request

/-!
# Methods

The methods by which messages are told apart. Of those that the protocol between editors and servers
defines, the server serves some; a request by another one is refused once its parameters have been
looked at, and a notification is passed over.
-/

namespace LintRelay.Server

/-- The methods that the server knows. -/
inductive Method where
  | setUp
  | initialized
  | shutdown
  | exit
  | cancel
  | didOpen
  | didChange
  | didSave
  | didClose
  | didChangeWatchedFiles
  | executeCommand
  | modeChanged
  /-- A request that is not served, with what its parameters have to be. -/
  | otherRequest (params : Grouped Unit)
  | otherNotification

/-- The name of the notification that a buffer is shown in another mode. -/
def modeChangedName : String := "tslint/modeChanged"

/-- The notifications that nothing is done for. -/
def otherNotifications : List String :=
  ["textDocument/willSave", "workspace/didChangeConfiguration",
    "workspace/didChangeWorkspaceFolders", "workspace/didCreateFiles", "workspace/didRenameFiles",
    "workspace/didDeleteFiles"]

/-- The methods that something is done for. -/
def servedMethods : List (String × Method) :=
  [("initialize", .setUp), ("initialized", .initialized), ("shutdown", .shutdown),
    ("exit", .exit), ("$/cancelRequest", .cancel), ("textDocument/didOpen", .didOpen),
    ("textDocument/didChange", .didChange), ("textDocument/didSave", .didSave),
    ("textDocument/didClose", .didClose),
    ("workspace/didChangeWatchedFiles", .didChangeWatchedFiles),
    ("workspace/executeCommand", .executeCommand), (modeChangedName, .modeChanged)]

/-- The method of a name, if the server knows it. -/
def Method.ofName? (name : String) : Option Method :=
  match servedMethods.find? (·.1 == name) with
  | some m => some m.2
  | none =>
    match otherRequests.find? (·.1 == name) with
    | some m => some (.otherRequest m.2)
    | none => if otherNotifications.contains name then some .otherNotification else none

end LintRelay.Server
