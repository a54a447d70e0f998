import LintRelay.Error
import LintRelay.FileTree.Change
import LintRelay.Invocation
import LintRelay.Shell.Run
import LintRelay.Text.Blank

/-!
# Running the linter

An invocation is run in a file tree: its program is found from its working directory and runs with
an empty input. It may change the files. Where it ends with status zero its output is taken as text;
otherwise the run fails with what it printed as errors.
-/

namespace LintRelay

/-- How a program ended, what it printed, and how long it ran in microseconds. -/
structure Finished where
  ending : Shell.Ending
  output : Bytes
  errors : Bytes
  duration : Nat
  deriving Repr, DecidableEq

namespace Program

/-- The native programs that scripts may use. -/
def standardNames : List String :=
  ["sh", "dash", "bash"] ++ Shell.Launcher.all.map (·.1) ++ Shell.tools.map (·.1)

/-- A file tree with the native programs that scripts may use, the null device and the directories
that every system has. -/
def standardTree : FileTree :=
  (nativeTree [["bin"].map Text.bytesOf, ["usr", "bin"].map Text.bytesOf] standardNames).changeAll
    (.makeDevice (.ofString "/dev/null") ::
      ["/tmp", "/root", "/etc", "/home", "/var", "/opt", "/usr/lib", "/usr/local/bin"].map
        fun d => .makeDirectory (.ofString d))

/-- The greatest length of a run. -/
def runBudget : Nat := 200000

/-- The number of the process that starts programs. -/
def launcher : Nat := 4000

/-- Runs a program that was found, and waits until nothing can print any more. -/
def runImage (t : FileTree) (i : Image) : FileTree × Finished :=
  let act : Shell.Running Shell.Ending := do
    let ending ← Shell.Running.forked Shell.Running.programScope
      (Shell.Running.native runBudget i)
    Shell.Running.drain runBudget .output
    Shell.Running.drain runBudget .errors
    return ending
  let (ending, s) := (ExceptT.run act).run (Shell.State.start t launcher runBudget)
  let ending :=
    match ending with
    | .ok e => e
    | .error _ => .signalled 9
  let printed (c : Shell.Channel) := Shell.bytesOfOctets (s.textOn c)
  (s.files.withBase t.base, ⟨ending, printed .output, printed .errors, s.clock⟩)

/-- The program of an invocation, as it is found from the working directory. -/
def prepare (t : FileTree) (i : Invocation) : Except FileError (FileTree × Image) := do
  if (i.program.bytes :: i.workingDir.bytes :: i.arguments).any (·.contains 0) then
    throw .nulInArgument
  match ← t.reach i.workingDir with
  | ⟨l, .directory⟩ =>
    let there := t.withBase l
    return (there, ← find there searchPath i.program (i.program.bytes :: i.arguments))
  | _ => throw .notDirectory

end Program

namespace Invocation

/-- What a finished linter comes to. -/
def conclude (f : Finished) : Except LintError String :=
  let failure (code : Option Int) : LintError :=
    .subprocess code (String.ofList (Text.trim (Text.decodeLossy f.errors)))
  match f.ending with
  | .exited 0 => .ok (Text.lossy f.output)
  | .exited n => .error (failure (some n))
  | .signalled _ => .error (failure none)

/-- Runs the linter, and gives the files that it leaves, how long it ran and its output. -/
def runTimed (t : FileTree) (i : Invocation) : FileTree × Nat × Except LintError String :=
  match Program.prepare t i with
  | .error e => (t, 0, .error (.spawn e))
  | .ok (there, image) =>
    let (after, finished) := Program.runImage there image
    (after.withBase t.base, finished.duration, conclude finished)

/-- Runs the linter, and gives the files that it leaves with its output. -/
def run (t : FileTree) (i : Invocation) : FileTree × Except LintError String :=
  let (t, _, output) := i.runTimed t
  (t, output)

end Invocation
end LintRelay
