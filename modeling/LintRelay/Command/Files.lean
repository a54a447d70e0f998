import LintRelay.Command.Lint

/-!
# The files that a run looks at

Before a run its files are gathered into a tree. Which ones it looks at depends on the settings, so
the list for a tree that holds the settings files alone names the rest.
-/

namespace LintRelay.Command

/-- The files in which the settings may stand. -/
def settingsPaths (t : FileTree) (config : Option Path) : List Path :=
  match config with
  | some p => [p]
  | none => Settings.fileNames.map fun name => (currentDir t).join (.ofString name)

/-- The files that a lint of `file` looks for: itself, and in its directory and those above it the
configurations and the linter. -/
def lintPaths (s : Settings) (file : Path) : List Path :=
  let names := [s.lintConfigFile, s.projectConfigFile, localLinter]
  file ::
    ((workingDirFor file).ancestors.flatMap fun dir =>
      names.map fun name => dir.join (.ofString name)) ++
    (s.linterCommand.map Path.ofString).toList

/-- The files that a run looks at, as far as the tree says which settings are in force. -/
def wantedPaths (t : FileTree) (words : List Bytes) : List Path :=
  match read words with
  | .ok ⟨config, _, .lint o⟩ =>
    settingsPaths t config ++
      match loadSettings t config with
      | .ok s => lintPaths s (o.file.absoluteFrom (currentDir t))
      | .error _ => []
  | _ => []

end LintRelay.Command
