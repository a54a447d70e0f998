import LintRelay.Command.Arguments
import LintRelay.Diagnostic.Json
import LintRelay.Reconciler.Basic

/-!
# Printing results

What a lint published is printed as text, one line for each diagnostic under the path of its file
and a count at the end, or as one JSON array with an object for each file. Places are counted from
one in text and from zero in JSON. A file without diagnostics is left out of the text.
-/

namespace LintRelay.Command

def severityWord : Severity → String
  | .error => "error"
  | .warning => "warning"
  | .information => "info"

/-- The line of a diagnostic. Its place is counted from one in 32 bits, where zero follows the
greatest number. -/
def diagnosticLine (d : Diagnostic) : String :=
  toString (d.range.start.line + 1) ++ ":" ++ toString (d.range.start.character + 1) ++ " " ++
    severityWord d.severity ++ ": " ++ d.message

def fileText (p : Publication) : String :=
  if p.diagnostics.isEmpty then ""
  else
    "\n" ++ p.path.display ++ ":\n" ++
      String.join (p.diagnostics.map fun d => "  " ++ diagnosticLine d ++ "\n")

/-- The number of diagnostics in all. -/
def issueCount (ps : List Publication) : Nat := (ps.flatMap Publication.diagnostics).length

/-- The number of files with diagnostics. -/
def fileCount (ps : List Publication) : Nat := ps.countP fun p => !p.diagnostics.isEmpty

def plainText (ps : List Publication) : String :=
  String.join (ps.map fileText) ++
    "\nFound " ++ toString (issueCount ps) ++ " issues in " ++ toString (fileCount ps) ++
    " files\n"

/-- What was published for a file as a value. -/
def publicationJson (p : Publication) : Json :=
  Json.sorted (.object [
    ("path", .string p.path.display),
    ("diagnostics", .array (p.diagnostics.map Diagnostic.toJson))])

def jsonText (ps : List Publication) : String :=
  (Json.array (ps.map publicationJson)).renderIndented ++ "\n"

def resultText (f : Format) (ps : List Publication) : String :=
  match f with
  | .text => plainText ps
  | .json => jsonText ps

def anyIssue (ps : List Publication) : Bool := ps.any fun p => !p.diagnostics.isEmpty

end LintRelay.Command
