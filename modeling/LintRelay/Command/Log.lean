import LintRelay.Session.Basic
import LintRelay.Text.Quoted

/-!
# What a run tells

A run tells on the error stream what it does: which files it found, what it ran, how that ended.
Each record has a level; those for debugging are told only where that is asked for. The records
follow from the state in which a lint call starts and from what it came to.
-/

namespace LintRelay.Command

/-- How important a record is. -/
inductive Level where
  | debug
  | info
  | warning
  | error
  deriving Repr, DecidableEq

/-- Something that is told. -/
structure Record where
  level : Level
  message : String
  deriving Repr, DecidableEq

def Level.word : Level → String
  | .debug => "DEBUG"
  | .info => "INFO"
  | .warning => "WARN"
  | .error => "ERROR"

def Record.line (r : Record) : String := r.level.word ++ " " ++ r.message ++ "\n"

/-- The lines of records, without those for debugging unless `verbose`. -/
def logText (verbose : Bool) (rs : List Record) : String :=
  String.join ((rs.filter fun r => verbose || r.level != .debug).map Record.line)

/-- What is told of a file that was found. -/
def foundRecord (name : String) (p : Path) : Record :=
  ⟨.debug, "Found " ++ name ++ " at " ++ p.display⟩

/-- What is told of a search for a file that may be missing. -/
def searchRecords (t : FileTree) (name : String) (dir : Path) : List Record :=
  match findUp t name dir with
  | .ok (some p) => [foundRecord name p]
  | .ok none => []
  | .error e => [⟨.warning, e.message⟩]

/-- What is told of the search for the linter's configuration. -/
def configRecord (t : FileTree) (name : String) (dir : Path) : Record :=
  match findUp t name dir with
  | .ok (some p) => foundRecord name p
  | .ok none => ⟨.warning, (LintError.configNotFound name dir).message ++ "; not running tslint."⟩
  | .error e => ⟨.warning, "No " ++ name ++ " found; not running tslint. " ++ e.message⟩

/-- What is told before the linter runs for a file. -/
def startRecords (x : Session) (t : FileTree) (file : Path) (wholeProject : Bool) :
    List Record :=
  let s := x.settings
  let dir := workingDirFor file
  if !x.admits file then [⟨.debug, "Not linting " ++ file.display⟩]
  else
    configRecord t s.lintConfigFile dir ::
      match findUp t s.lintConfigFile dir with
      | .ok (some _) =>
        (if wholeProject then searchRecords t s.projectConfigFile dir else []) ++
          (if s.linterCommand.isNone then searchRecords t localLinter dir else [])
      | _ => []

/-- How the linter ended, in words. -/
def statusText : Option Int → String
  | some code => "exit status: " ++ toString code
  | none => "signal"

/-- What is told of a linter that was started and ended. -/
def endRecord (code : Option Int) : Record :=
  ⟨.debug, "Linter finished with " ++ statusText code ++ " in 0ms"⟩

/-- What is told of a run of the linter. -/
def runRecords (p : Pending) (result : Except LintError LintOutcome) : List Record :=
  let i := p.invocation
  let arguments := "[" ++ ", ".intercalate (i.argumentTexts.map Text.quote) ++ "]"
  let started : Record := ⟨.debug,
    "Running " ++ i.program.display ++ " " ++ arguments ++ " in " ++ i.workingDir.display⟩
  started ::
    match result with
    | .error (.subprocess code stderr) =>
      [endRecord code,
        ⟨.error, "Linter failed (" ++ statusText code ++ "): " ++ stderr⟩,
        ⟨.error, "Lint run failed: " ++ (LintError.subprocess code stderr).message⟩]
    | .error (.malformedOutput cause) =>
      [endRecord (some 0), ⟨.error, (LintError.malformedOutput cause).message⟩]
    | .error e => [⟨.error, "Lint run failed: " ++ e.message⟩]
    | .ok (.published files cleared) =>
      endRecord (some 0) ::
        match p.ticket with
        | some ticket =>
          [⟨.debug, "Reconciled run " ++ toString ticket.toNat ++ ": " ++ toString files ++
              " published, " ++ toString cleared ++ " cleared"⟩,
            ⟨.info, "Project lint for " ++ p.file.display ++ ": " ++ toString files ++
              " files reported, " ++ toString cleared ++ " cleared"⟩]
        | none => []
    | .ok _ => [endRecord (some 0)]

/-- What is told of a lint call of a session for a file. -/
def callRecords (x : Session) (t : FileTree) (file : Path) (call : LintCall)
    (result : Except LintError LintOutcome) : List Record :=
  let wholeProject :=
    match call with
    | .file _ => false
    | _ => true
  startRecords x t file wholeProject ++
    match x.start t call with
    | (_, .waiting p) => runRecords p result
    | (_, .ended _) => []

end LintRelay.Command
