import LintRelay.Command.Log
import LintRelay.Command.Print
import LintRelay.Path.Absolute
import LintRelay.Session.Run
import LintRelay.Text.Wrap

/-!
# The lint command

One lint call of a fresh session, whose publications are the results. The settings are those of the
file that is given, or else of the settings file in the directory in which the program runs, or the
standard ones.
-/

namespace LintRelay.Command

/-- Why a lint command fails. -/
inductive Failure where
  | fileMissing (file : Path)
  | lint (cause : LintError)
  deriving Repr

/-- What a lint command comes to. -/
inductive Verdict where
  | failed (why : Failure)
  | notLinted (file : Path)
  | finished (results : List Publication)
  deriving Repr

def Failure.message : Failure → String
  | .fileMissing file => "File not found: " ++ file.display
  | .lint e => e.message

/-- What a failure goes back to. -/
def Failure.cause? : Failure → Option String
  | .lint (.discovery _ e) | .lint (.spawn e) => some e.message
  | .lint (.malformedOutput e) => some e.message
  | _ => none

/-- The directory in which the program runs. -/
def currentDir (t : FileTree) : Path := FileTree.pathOf t.base

def settingsFile? (t : FileTree) (config : Option Path) : Option Path :=
  config <|> Settings.discover t (currentDir t)

def loadSettings (t : FileTree) (config : Option Path) : Except LintError Settings :=
  match settingsFile? t config with
  | some p => (Settings.ofFile t p).mapError .settings
  | none => .ok .standard

def LintOptions.call (o : LintOptions) (file : Path) : LintCall :=
  if o.single then .file file else .project file o.fix

/-- What a lint call comes to for the command. -/
def verdict (s : Settings) (file : Path) (sent : List Sent) :
    Except LintError LintOutcome → Verdict
  | .error e => .failed (.lint e)
  | .ok .skipped => .notLinted file
  | .ok .noConfig => .failed (.lint (.configNotFound s.lintConfigFile (workingDirFor file)))
  | .ok (.published ..) | .ok .stale => .finished (sent.map Sent.publication)

/-- What is told of the choice of settings. -/
def settingsRecords (t : FileTree) (config : Option Path) : List Record :=
  match config, Settings.discover t (currentDir t) with
  | none, some p => [⟨.info, "Using settings file: " ++ p.display⟩]
  | _, _ => []

/-- Lints a file that exists, in a fresh session. -/
def lintFile (t : FileTree) (s : Settings) (o : LintOptions) (file : Path) :
    FileTree × Verdict × List Record :=
  match Session.ofSettings s with
  | .error e => (t, .failed (.lint e), [])
  | .ok x =>
    let call := o.call file
    let (_, after, sent, result) := x.run t call
    (after, verdict s file sent result, callRecords x t file call result)

/-- Runs the command, and gives the files it leaves, what it came to, and what it told. -/
def lint (t : FileTree) (config : Option Path) (o : LintOptions) :
    FileTree × Verdict × List Record :=
  match loadSettings t config with
  | .error e => (t, .failed (.lint e), settingsRecords t config)
  | .ok s =>
    let file := o.file.absoluteFrom (currentDir t)
    if t.isFile file then
      let (after, v, told) := lintFile t s o file
      (after, v, settingsRecords t config ++ told)
    else (t, .failed (.fileMissing file), settingsRecords t config)

/-- The width of the lines on which a failure is told. -/
def failureWidth : Nat := 78

/-- A failure with what it goes back to, on lines of limited width. -/
def Failure.report (why : Failure) : String :=
  Text.hang (failureWidth - 4) "  × " "  │ " why.message ++
    ((why.cause?.map fun c =>
      "\n" ++ Text.hang (failureWidth - 6) "  ╰─▶ " "      " c).getD "")

def Verdict.records : Verdict → List Record
  | .failed why => [⟨.error, why.report⟩]
  | .notLinted file =>
    [⟨.warning, file.display ++ " is not linted with the current settings"⟩]
  | .finished _ => []

def Verdict.output (f : Format) : Verdict → String
  | .finished results => resultText f results
  | _ => ""

/-- The exit status for a verdict: zero where all is well, one where there are diagnostics, two
where the command failed. -/
def Verdict.status : Verdict → UInt32
  | .failed _ => 2
  | .notLinted _ => 0
  | .finished results => if anyIssue results then 1 else 0

end LintRelay.Command
