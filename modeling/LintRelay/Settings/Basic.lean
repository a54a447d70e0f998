import LintRelay.Admission

/-!
# Settings

The settings of the relay itself. The linter has a configuration of its own, which the relay only
looks for.
-/

namespace LintRelay

/-- The settings of the relay. -/
structure Settings where
  extensions : List String
  exclude : List String
  /-- The name of the linter's configuration, looked for upwards. -/
  lintConfigFile : String
  projectConfigFile : String
  linterCommand : Option String
  /-- Under which name diagnostics are published. -/
  sourceId : String
  useRuleSeverity : Bool
  /-- How long a changed document rests before it is linted, in milliseconds. -/
  debounceMs : UInt64
  deriving Repr, DecidableEq

namespace Settings

/-- The settings where nothing else is said. -/
def standard : Settings where
  extensions := [".js", ".jsx"]
  exclude := []
  lintConfigFile := "tslint.json"
  projectConfigFile := "tsconfig.json"
  linterCommand := none
  sourceId := "tslint-ts"
  useRuleSeverity := false
  debounceMs := 300

instance : Inhabited Settings := ⟨standard⟩

/-- The names of settings files, in the order in which they are tried. -/
def fileNames : List String := [".tslint-bridge.jsonc", ".tslint-bridge.json"]

/-- The admission that the settings describe. -/
def admission (s : Settings) : Except Glob.Refusal Admission :=
  Admission.ofLists s.extensions s.exclude

end Settings
end LintRelay
