import LintRelay.Discovery
import LintRelay.Invocation
import LintRelay.Reconciler.Basic

/-!
# Lint sessions

A session turns what happens to buffers into runs of the linter and publishes their results. A call
has two halves. `Session.start` decides what to run: the call ends there, or it asks for one run of
the linter and is `Pending`. `Session.finish` takes what the linter printed and publishes it. Any
number of calls may be pending at once. What a pending call will report is fixed when it starts.
-/

namespace LintRelay

inductive BufferEventKind where
  | entered
  | saved
  | changed
  | modeChanged
  deriving Repr, DecidableEq

/-- Something that happened to a buffer, which may have no file. -/
structure BufferEvent where
  kind : BufferEventKind
  file : Option Path
  deriving Repr, DecidableEq

/-- What a lint call came to. -/
inductive LintOutcome where
  /-- There is no file, or it is not admitted. -/
  | skipped
  | noConfig
  | published (files cleared : Nat)
  | stale
  deriving Repr, DecidableEq

/-- The state of a session. -/
structure Session where
  settings : Settings
  admission : Admission
  reconciler : Reconciler
  lastProjectFile : Option Path

/-- A lint call. -/
inductive LintCall where
  | project (file : Option Path) (fix : Bool)
  | file (file : Option Path)
  /-- Repeats the last project lint with fixing. -/
  | fixLast
  deriving Repr, DecidableEq

/-- A lint call that waits for the linter. -/
structure Pending where
  file : Path
  workingDir : Path
  useRuleSeverity : Bool
  /-- The ticket of a project run. -/
  ticket : Option Ticket
  invocation : Invocation
  deriving Repr, DecidableEq

/-- What becomes of a call when it starts. -/
inductive Started where
  | ended (result : Except LintError LintOutcome)
  | waiting (pending : Pending)

def BufferEvent.call (e : BufferEvent) : LintCall :=
  match e.kind with
  | .entered => .project e.file false
  | _ => .file e.file

def lookupLintConfig (t : FileTree) (s : Settings) (dir : Path) :
    Except LintError (Option Path) :=
  findUp t s.lintConfigFile dir

/-- What a project run covers: the nearest project, or else the file. -/
def projectTarget (t : FileTree) (s : Settings) (file dir : Path) : Except LintError LintTarget :=
  (findUp t s.projectConfigFile dir).map fun
    | some config => .project config
    | none => .file file

/-- The run of the linter for a target. -/
def planRun (t : FileTree) (s : Settings) (config : Path) (target : LintTarget) (dir : Path)
    (fix : Bool) : Except LintError Invocation :=
  (resolveProgram t s.linterCommand dir).map fun program =>
    .make program config target dir fix

/-- The diagnostics of `file` in the result of its own run. Where the linter reports nothing for the
file itself, the first path with the file's name counts. -/
def pickFile (set : FileDiagnostics) (file dir : Path) : List Diagnostic :=
  let key := if file.isRelative then dir.resolve file else file.normalize
  match set.find? key with
  | some ds => ds
  | none =>
    match file.fileName? with
    | none => []
    | some name =>
      match set.entries.find? fun e => e.1.fileName? == some name with
      | some e => e.2
      | none => []

namespace Session

/-- A session with the given settings. -/
def ofSettings (s : Settings) : Except LintError Session :=
  match s.admission with
  | .ok a => .ok ⟨s, a, .start s.sourceId, none⟩
  | .error r => .error (.settings (.badGlob r))

/-- A session with the standard settings. -/
def standard : Session :=
  ⟨.standard, .standard, .start Settings.standard.sourceId, none⟩

/-- Puts new settings in force. What is published is kept. -/
def updateSettings (x : Session) (s : Settings) : Except LintError Session :=
  match s.admission with
  | .ok a =>
    .ok { x with settings := s, admission := a, reconciler := x.reconciler.setSourceId s.sourceId }
  | .error r => .error (.settings (.badGlob r))

/-- Whether a path is linted. -/
def admits (x : Session) (p : Path) : Bool := x.admission.admits p

/-- Starts the lint of the project of an admitted file. -/
def startProject (x : Session) (t : FileTree) (file : Path) (fix : Bool) : Session × Started :=
  let x := { x with lastProjectFile := some file }
  let dir := workingDirFor file
  match lookupLintConfig t x.settings dir with
  | .error e => (x, .ended (.error e))
  | .ok none => (x, .ended (.ok .noConfig))
  | .ok (some config) =>
    let (r, ticket) := x.reconciler.begin
    let x := { x with reconciler := r }
    let plan := do
      let target ← projectTarget t x.settings file dir
      planRun t x.settings config target dir fix
    match plan with
    | .error e => (x, .ended (.error e))
    | .ok invocation =>
      (x, .waiting ⟨file, dir, x.settings.useRuleSeverity, some ticket, invocation⟩)

/-- Starts the lint of an admitted file. -/
def startFile (x : Session) (t : FileTree) (file : Path) : Session × Started :=
  let dir := workingDirFor file
  match lookupLintConfig t x.settings dir with
  | .error e => (x, .ended (.error e))
  | .ok none => (x, .ended (.ok .noConfig))
  | .ok (some config) =>
    match planRun t x.settings config (.file file) dir false with
    | .error e => (x, .ended (.error e))
    | .ok invocation => (x, .waiting ⟨file, dir, x.settings.useRuleSeverity, none, invocation⟩)

/-- Starts with the file of a call if there is one and it is admitted. -/
def startAdmitted (x : Session) (file : Option Path) (go : Path → Session × Started) :
    Session × Started :=
  match file with
  | some p => if x.admits p then go p else (x, .ended (.ok .skipped))
  | none => (x, .ended (.ok .skipped))

def start (x : Session) (t : FileTree) : LintCall → Session × Started
  | .project file fix => x.startAdmitted file fun p => x.startProject t p fix
  | .file file => x.startAdmitted file fun p => x.startFile t p
  | .fixLast => x.startAdmitted x.lastProjectFile fun p => x.startProject t p true

/-- What the linter printed, grouped by file. -/
def readOutput (p : Pending) (output : Except LintError String) :
    Except LintError FileDiagnostics :=
  match output with
  | .error e => .error e
  | .ok stdout =>
    (Report.parse stdout ⟨some p.workingDir, p.useRuleSeverity⟩).mapError .malformedOutput

/-- Publishes what a pending call reports. -/
def publish (x : Session) (p : Pending) (set : FileDiagnostics) :
    Session × List Sent × LintOutcome :=
  match p.ticket with
  | some ticket =>
    match x.reconciler.reconcileRun ticket set with
    | (r, sent, .applied files cleared) =>
      ({ x with reconciler := r }, sent, .published files cleared)
    | (r, sent, .stale ..) => ({ x with reconciler := r }, sent, .stale)
  | none =>
    let (r, sent) := x.reconciler.reconcileFile p.file (pickFile set p.file p.workingDir)
    ({ x with reconciler := r }, sent, .published 1 0)

/-- Finishes a pending call with what the linter printed. -/
def finish (x : Session) (p : Pending) (output : Except LintError String) :
    Session × List Sent × Except LintError LintOutcome :=
  match readOutput p output with
  | .error e => (x, [], .error e)
  | .ok set =>
    let (x, sent, outcome) := x.publish p set
    (x, sent, .ok outcome)

end Session
end LintRelay
