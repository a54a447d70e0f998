import LintRelay.FileTree.Basic
import LintRelay.Settings.Reader

/-!
# Why a lint fails

The causes for which a lint call or the reading of settings ends without a result.
-/

namespace LintRelay

/-- Why a lint fails. -/
inductive LintError where
  | configNotFound (name : String) (start : Path)
  | discovery (name : String) (cause : FileError)
  | spawn (cause : FileError)
  /-- The linter failed, with its exit code unless a signal ended it. -/
  | subprocess (code : Option Int) (stderr : String)
  | malformedOutput (cause : Json.ReadError)
  | settings (cause : SettingsError)
  deriving Repr

namespace LintError

/-- How a process ended. -/
def exitText : Option Int → String
  | some code => "code " ++ toString code
  | none => "signal"

/-- The wording of an error. -/
def message : LintError → String
  | .configNotFound name start => "No " ++ name ++ " found above " ++ start.display
  | .discovery name cause => "Failed to search for " ++ name ++ ": " ++ cause.message
  | .spawn cause => "Failed to spawn linter: " ++ cause.message
  | .subprocess code stderr => "Linter exited with " ++ exitText code ++ ": " ++ stderr
  | .malformedOutput cause => "Malformed linter output: " ++ cause.message
  | .settings cause => "Settings error: " ++ cause.message

end LintError
end LintRelay
