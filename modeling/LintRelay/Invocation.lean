import LintRelay.Path.Basic

/-!
# Linter invocations

What is run for a lint: a program, its arguments and the directory it runs in.
-/

namespace LintRelay

/-- What a lint covers. -/
inductive LintTarget where
  | project (config : Path)
  | file (path : Path)
  deriving Repr, DecidableEq

def LintTarget.arguments : LintTarget → List Bytes
  | .project config => [Text.bytesOf "--project", config.bytes]
  | .file path => [path.bytes]

/-- A run of the linter. -/
structure Invocation where
  program : Path
  arguments : List Bytes
  workingDir : Path
  deriving Repr, DecidableEq

namespace Invocation

/-- The run that lints a target: `--fix` if asked for, the output format, the linter's configuration
and the target. -/
def make (program config : Path) (target : LintTarget) (workingDir : Path) (fix : Bool) :
    Invocation where
  program := program
  arguments :=
    (if fix then [Text.bytesOf "--fix"] else []) ++
      ["--force", "--format", "json", "--config"].map Text.bytesOf ++
      config.bytes :: target.arguments
  workingDir := workingDir

def argumentTexts (i : Invocation) : List String := i.arguments.map Text.lossy

end Invocation
end LintRelay
