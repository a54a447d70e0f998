import LintRelay.Product
import LintRelay.Server.Conversion
import LintRelay.Server.Message
import LintRelay.Server.Method
import LintRelay.Session.Basic

/-!
# The language server

The server turns what the editor tells about documents into lint calls. Handling a message answers
it and may spawn a call; calls run later, in any order, and each starts, waits for the linter and
finishes on its own. A change of a document sets a timer; when it expires, the document is linted
only if its version is still the one that the change made.

`Server.step` is one step of a server: a message is handled, a spawned call starts, the linter of a
waiting call ends, or a timer expires. What the editor is told is sent only between initialization
and exit.
-/

namespace LintRelay

namespace Server

/-- Where a server is in its life. -/
inductive Phase where
  | uninitialized
  | initialized
  | shutDown
  | exited
  deriving Repr, DecidableEq

/-- A change that waits to be linted. -/
structure Timer where
  document : Uri
  version : Int
  /-- How long the timer runs, in milliseconds. -/
  delay : UInt64
  event : BufferEvent

end Server

/-- The state of a server. -/
structure Server where
  phase : Server.Phase
  session : Session
  root : Option Path
  documents : List (Uri × Int)
  /-- The calls that have not started. -/
  spawned : List LintCall
  /-- The calls that wait for the linter. -/
  waiting : List Pending
  timers : List Server.Timer

namespace Server

/-- The server before the first message. -/
def fresh : Server := ⟨.uninitialized, .standard, none, [], [], [], []⟩

/-- The command that repeats the last project lint with fixing. -/
def fixCommand : String := "tslint.fix"

/-! ## Documents -/

/-- The version of an open document. -/
def version? (s : Server) (u : Uri) : Option Int :=
  (s.documents.find? (·.1 == u)).map (·.2)

/-- Notes the version of a document. -/
def track (s : Server) (u : Uri) (version : Int) : Server :=
  { s with documents := (u, version) :: s.documents.filter (·.1 != u) }

def forget (s : Server) (u : Uri) : Server :=
  { s with documents := s.documents.filter (·.1 != u) }

/-- What happened to the buffer of a document. A document that is no file has no path. -/
def bufferEvent (kind : BufferEventKind) (u : Uri) : BufferEvent := ⟨kind, u.file?⟩

/-- Spawns a lint call. -/
def spawn (s : Server) (call : LintCall) : Server := { s with spawned := s.spawned ++ [call] }

/-! ## Settings -/

/-- Puts settings in force, unless they are refused; says whether they are. -/
def applySettings (s : Server) (settings : Except SettingsError Settings) : Server × Bool :=
  match settings with
  | .error _ => (s, false)
  | .ok settings =>
    match s.session.updateSettings settings with
    | .ok x => ({ s with session := x }, true)
    | .error _ => (s, false)

/-- Reads the settings in the root of the workspace again. -/
def reloadSettings (s : Server) (t : FileTree) : Server :=
  match s.root.bind (Settings.discover t) with
  | some file => (s.applySettings (Settings.ofFile t file)).1
  | none => s

/-- Takes the settings that the editor gave, or else those in the root of the workspace. -/
def chooseSettings (s : Server) (t : FileTree) (options : Option Json) : Server :=
  let given : Option Json := options.filter fun o => !o.isNull
  match given with
  | some o =>
    match s.applySettings (Settings.ofJson o) with
    | (s, true) => s
    | (s, false) => s.reloadSettings t
  | none => s.reloadSettings t

/-- Whether a URI names a settings file. -/
def namesSettings (u : Uri) : Bool :=
  Settings.fileNames.any fun n => n.toList.isSuffixOf u.path.text

/-! ## What the editor is told -/

/-- Whether notifications are sent. -/
def Phase.sends : Phase → Bool
  | .initialized | .shutDown => true
  | .uninitialized | .exited => false

/-- What is sent to the editor. -/
def notify (s : Server) (ns : List Notice) : List Notice := if s.phase.sends then ns else []

/-- The notification of what is shown for a file. A path that is not absolute has none. -/
def publication? (sent : Sent) : Option Notice :=
  (Uri.ofFile? sent.publication.path).map fun u =>
    ⟨"textDocument/publishDiagnostics", .ofMembers [
      ("uri", .string u),
      ("diagnostics", .array (sent.publication.diagnostics.map (diagnosticJson sent.sourceId)))]⟩

/-- The notification that the server is ready. -/
def greeting : Notice :=
  ⟨"window/logMessage", .ofMembers [
    ("type", .ofNat 3),
    ("message", .string (productName ++ " LSP server initialized!"))]⟩

/-- What the server can do. -/
def capabilities : Json :=
  .ofMembers [
    ("capabilities", .ofMembers [
      ("textDocumentSync", .ofMembers [
        ("openClose", .bool true),
        ("change", .ofNat 1),
        ("save", .ofMembers [("includeText", .bool false)])]),
      ("executeCommandProvider", .ofMembers [("commands", .array [.string fixCommand])])]),
    ("serverInfo", .ofMembers [
      ("name", .string productName),
      ("version", .string productVersion)])]

/-! ## Messages -/

/-- What a step gives: the server after it, the answer, and what the editor is told. -/
structure Reaction where
  server : Server
  answer : Answer
  notices : List Notice

/-- A reaction without an answer. -/
def quietly (s : Server) : Reaction := ⟨s, .silence, []⟩

/-- The refusal of a message that the server is not ready for. -/
def notReady (s : Server) (m : Message) : Reaction :=
  ⟨s, m.refuse (if s.phase == .uninitialized then .notInitialized else .invalidRequest), []⟩

def params (decode : Json.Decoder α) (m : Message) : Except Refusal α :=
  match m.params with
  | none => .error (.invalidParams "Missing params field")
  | some v => (decode v).mapError fun e => .invalidParams e.message

/-- Handles a notification. As a request it is refused; with bad parameters it is passed over. -/
def onNotification (s : Server) (m : Message) (decode : Json.Decoder α) (act : α → Reaction) :
    Reaction :=
  match m.id with
  | some id => ⟨s, .refusal id .invalidRequest, []⟩
  | none =>
    match params decode m with
    | .ok a => act a
    | .error _ => s.quietly

/-- Handles a request. As a notification it is passed over. -/
def onRequest (s : Server) (m : Message) (decode : Json.Decoder α)
    (act : α → Server × Except Refusal Json) : Reaction :=
  match m.id with
  | none => s.quietly
  | some id =>
    match params decode m with
    | .error e => ⟨s, .refusal id e, []⟩
    | .ok a =>
      match act a with
      | (s, .ok v) => ⟨s, .result id v, []⟩
      | (s, .error e) => ⟨s, .refusal id e, []⟩

/-- Takes up the workspace and its settings. -/
def setUp (s : Server) (t : FileTree) (i : Initialization) : Server :=
  let named : Option Uri := i.rootUri <|> (i.folders.getD []).head?
  let root := (named.bind Uri.file?) <|> s.root
  ({ s with root }.chooseSettings t i.options)

/-- Handles an attempt to initialize. It succeeds once. -/
def onInitialize (s : Server) (t : FileTree) (m : Message) : Reaction :=
  if s.phase == .uninitialized then
    s.onRequest m initializeParams.decoder fun i =>
      ({ s.setUp t i with phase := .initialized }, .ok capabilities)
  else ⟨s, m.refuse .invalidRequest, []⟩

/-- Handles the end of the work. The server is shut down even if the message is malformed. -/
def onShutdown (s : Server) (m : Message) : Reaction :=
  if s.phase == .initialized then
    let s := { s with phase := .shutDown }
    match m.id, m.params with
    | none, _ => s.quietly
    | some id, none => ⟨s, .result id .null, []⟩
    | some id, some p => ⟨s, .refusal id (.invalidParams ("Unexpected params: " ++ p.render)), []⟩
  else s.notReady m

def onCommand (s : Server) (command : String) : Server × Except Refusal Json :=
  if command == fixCommand then (s.spawn .fixLast, .ok .null)
  else (s, .error (.invalidParams ("Unknown command: " ++ command)))

/-- Sets the timer of a changed document. -/
def setTimer (s : Server) (u : Uri) (version : Int) : Server :=
  let timer := ⟨u, version, s.session.settings.debounceMs, bufferEvent .changed u⟩
  { s with timers := s.timers ++ [timer] }

/-- Handles a message by a method that is served only while the server is initialized. -/
def onServed (s : Server) (t : FileTree) (m : Message) : Method → Reaction
  | .initialized => s.onNotification m initializedParams.decoder fun _ =>
    ⟨s, .silence, s.notify [greeting]⟩
  | .didOpen => s.onNotification m openParams.decoder fun (u, version) =>
    ((s.track u version).spawn (bufferEvent .entered u).call).quietly
  | .didChange => s.onNotification m changeParams.decoder fun (u, version) =>
    ((s.track u version).setTimer u version).quietly
  | .didSave => s.onNotification m saveParams.decoder fun u =>
    (s.spawn (bufferEvent .saved u).call).quietly
  | .didClose => s.onNotification m closeParams.decoder fun u => (s.forget u).quietly
  | .modeChanged => s.onNotification m modeParams.decoder fun u =>
    (s.spawn (bufferEvent .modeChanged u).call).quietly
  | .didChangeWatchedFiles => s.onNotification m watchedFilesParams.decoder fun us =>
    (if us.any namesSettings then s.reloadSettings t else s).quietly
  | .executeCommand => s.onRequest m commandParams.decoder s.onCommand
  | .otherRequest shape => s.onRequest m shape.decoder fun _ => (s, .error (.methodNotFound none))
  | _ => s.onNotification m .any fun _ => s.quietly

/-- Handles a message by an unknown method. A method that only matters to a server that knows it is
passed over. -/
def onUnknown (s : Server) (m : Message) : Reaction :=
  if "$/".toList.isPrefixOf m.method.toList then s.quietly
  else ⟨s, m.refuse (.methodNotFound (some m.method)), []⟩

/-- Handles a message. -/
def receive (s : Server) (t : FileTree) (m : Message) : Reaction :=
  if s.phase == .exited then ⟨s, .exited, []⟩
  else
    match Method.ofName? m.method with
    | none => s.onUnknown m
    | some .setUp => s.onInitialize t m
    | some .shutdown => s.onShutdown m
    | some .exit => { s with phase := .exited }.quietly
    | some .cancel => s.onNotification m .any fun _ => s.quietly
    | some method => if s.phase == .initialized then s.onServed t m method else s.notReady m

/-! ## Calls and timers -/

/-- Starts the spawned call at a place in their list. -/
def startCall (s : Server) (t : FileTree) (i : Nat) : Server :=
  match s.spawned[i]? with
  | none => s
  | some call =>
    let s := { s with spawned := s.spawned.eraseIdx i }
    match s.session.start t call with
    | (x, .ended _) => { s with session := x }
    | (x, .waiting p) => { s with session := x, waiting := s.waiting ++ [p] }

/-- Finishes the waiting call at a place in their list with what its linter printed. -/
def finishCall (s : Server) (i : Nat) (output : Except LintError String) :
    Server × List Notice :=
  match s.waiting[i]? with
  | none => (s, [])
  | some p =>
    let (x, sent, _) := s.session.finish p output
    let s := { s with session := x, waiting := s.waiting.eraseIdx i }
    (s, s.notify (sent.filterMap publication?))

/-- Whether a timer that expires lints its document. -/
def fires (s : Server) (timer : Timer) : Bool := s.version? timer.document == some timer.version

/-- Lets the timer at a place in their list expire. -/
def expire (s : Server) (i : Nat) : Server :=
  match s.timers[i]? with
  | none => s
  | some timer =>
    let s := { s with timers := s.timers.eraseIdx i }
    if s.fires timer then s.spawn timer.event.call else s

/-- What may happen to a server. -/
inductive Happening where
  | message (m : Message)
  | start (i : Nat)
  | finish (i : Nat) (output : Except LintError String)
  | expiry (i : Nat)

/-- One step of a server. -/
def step (s : Server) (t : FileTree) : Happening → Reaction
  | .message m => s.receive t m
  | .start i => (s.startCall t i).quietly
  | .finish i output =>
    let (s, notices) := s.finishCall i output
    ⟨s, .silence, notices⟩
  | .expiry i => (s.expire i).quietly

end Server
end LintRelay
