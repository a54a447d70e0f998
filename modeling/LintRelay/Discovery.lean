import LintRelay.Error

/-!
# Looking upwards for files

A configuration is looked for in a directory and in those above it, as far as the spelling of the
directory's path leads. The first regular file of the name is taken. A place that cannot be looked
at ends the search with an error.
-/

namespace LintRelay

/-- The name of the linter inside a package. -/
def localLinter : String := "node_modules/.bin/tslint"

/-- The linter that is run where none is found. -/
def fallbackLinter : String := "tslint"

/-- The first of the candidates that is a regular file. -/
def firstFile (t : FileTree) (name : String) : List Path → Except LintError (Option Path)
  | [] => .ok none
  | dir :: dirs =>
    let candidate := dir.join (.ofString name)
    match t.exists? candidate with
    | .error e => .error (.discovery name e)
    | .ok found =>
      if found && t.isFile candidate then .ok (some candidate) else firstFile t name dirs

/-- The nearest file called `name` in the directory `start` or above it. -/
def findUp (t : FileTree) (name : String) (start : Path) : Except LintError (Option Path) :=
  firstFile t name start.ancestors

/-- The nearest file called `name`, which has to be there. -/
def requireUp (t : FileTree) (name : String) (start : Path) : Except LintError Path :=
  match findUp t name start with
  | .ok (some p) => .ok p
  | .ok none => .error (.configNotFound name start)
  | .error e => .error e

/-- The directory in which a file is linted: its parent, or `.` where the path names none. -/
def workingDirFor (file : Path) : Path :=
  match file.parent? with
  | some dir => if dir.bytes.isEmpty then .ofString "." else dir
  | none => .ofString "."

/-- The linter to run from a directory: the one that is given, or the nearest in a package, or the
one on the search path. -/
def resolveProgram (t : FileTree) (given : Option String) (dir : Path) : Except LintError Path :=
  match given with
  | some command => .ok (.ofString command)
  | none => (findUp t localLinter dir).map (·.getD (.ofString fallbackLinter))

namespace Settings

/-- The settings file that stands in a directory, if there is one. -/
def discover (t : FileTree) (dir : Path) : Option Path :=
  (fileNames.map fun name => dir.join (.ofString name)).find? t.isFile

def ofFile (t : FileTree) (p : Path) : Except SettingsError Settings :=
  match t.readText p with
  | .error e => .error (.unreachable e.message)
  | .ok text => ofText text

end Settings
end LintRelay
