import LintRelay.Diagnostic.Json
import LintRelay.Path.Map
import LintRelay.Path.Normal
import LintRelay.Text.Blank

/-!
# The linter's report

The linter reports its failures as one JSON array. Each failure names a rule, a text, a file and a
range; the file is a path that may be relative to the directory in which the linter ran. Parsing a
report groups the failures by the normal form of their path. Within a file the order of the report
is kept. An empty report, or one of blanks only, has no failures.
-/

namespace LintRelay

/-- Diagnostics by file. -/
abbrev FileDiagnostics := PathMap (List Diagnostic)

namespace Report

/-- One failure as the linter reports it. -/
structure Failure where
  ruleName : String
  failure : String
  name : String
  start : Position
  stop : Position
  severityWord : Option String
  deriving Repr, DecidableEq

/-- The fields of a position in a report. -/
def positionRecord : Json.Record Position := { Position.record with name := "FailurePosition" }

def failureRecord : Json.Record Failure where
  name := "LintFailure"
  blank := ⟨"", "", "", ⟨0, 0⟩, ⟨0, 0⟩, none⟩
  fields := [
    .of "ruleName" false .string fun s f => { f with ruleName := s },
    .of "failure" false .string fun s f => { f with failure := s },
    .of "name" false .string fun s f => { f with name := s },
    .of "startPosition" false positionRecord.reader fun p f => { f with start := p },
    .of "endPosition" false positionRecord.reader fun p f => { f with stop := p },
    .of "ruleSeverity" true (.nullable .string) fun s f => { f with severityWord := s }]

/-- How a report is read. -/
structure Reading where
  workingDir : Option Path
  /-- Whether the severities of the rules count; otherwise every failure is a warning. -/
  useRuleSeverity : Bool
  deriving Repr, DecidableEq

def Failure.severity (f : Failure) (useRuleSeverity : Bool) : Severity :=
  match f.severityWord with
  | some word => if useRuleSeverity then .ofWord word else .warning
  | none => .warning

def Failure.toDiagnostic (f : Failure) (useRuleSeverity : Bool) : Diagnostic where
  message := "[" ++ f.ruleName ++ "] " ++ f.failure
  severity := f.severity useRuleSeverity
  range := ⟨f.start, f.stop⟩
  kind := none
  ruleName := some f.ruleName

/-- The path of a file that a report names. -/
def resolveName (name : String) (workingDir : Option Path) : Path :=
  let path := Path.ofString name
  match workingDir with
  | some dir => if path.isRelative then dir.resolve path else path.normalize
  | none => path.normalize

def Failure.path (f : Failure) (r : Reading) : Path := resolveName f.name r.workingDir

/-- The failures by file, each file's in the given order. -/
def group (r : Reading) (fs : List Failure) : FileDiagnostics :=
  fs.foldl (fun m f => m.push (f.path r) (f.toDiagnostic r.useRuleSeverity)) .empty

/-- The failures that the text of a report lists. -/
def failures (text : String) : Json.OrError (List Failure) :=
  match Text.trim text.toList with
  | [] => .ok []
  | cs => (Json.Reader.list failureRecord.reader).read cs

/-- Reads a report. -/
def parse (text : String) (r : Reading) : Json.OrError FileDiagnostics :=
  (failures text).map (group r)

end Report
end LintRelay
