import LintRelay.Command.Files
import LintRelay.Command.Run
import LintRelay.FileTree.Change

/-!
# The program

Gathers the files that a run looks at into a tree, runs the command line on it, writes back the
files that the linter changed, and prints.
-/

namespace LintRelay.Command

/-- Puts the file at a path into a tree, if it can be read. -/
def gatherFile (t : FileTree) (p : Path) : IO FileTree := do
  try
    let content ← IO.FS.readBinFile p.display
    return t.change (.write p content.toList true)
  catch _ => return t

/-- Puts the files that a run looks at into a tree: first the settings, then what they call for. -/
def gather (t : FileTree) (words : List Bytes) : IO FileTree := do
  let t ← (wantedPaths t words).foldlM gatherFile t
  (wantedPaths t words).foldlM gatherFile t

/-- Writes a file back if a run changed it. -/
def writeBack (before after : FileTree) (p : Path) : IO Unit :=
  match before.read p, after.read p with
  | .ok old, .ok new =>
    if old = new then pure () else IO.FS.writeBinFile p.display ⟨new.toArray⟩
  | _, _ => pure ()

end LintRelay.Command

open LintRelay in
/-- Runs the program in the directory in which it is started. -/
def main (arguments : List String) : IO UInt32 := do
  let words := arguments.map Text.bytesOf
  let here := Path.ofString (← IO.currentDir).toString
  let start := Program.standardTree.change (.makeDirectory here)
  let start := start.withBase ((splitSlash here.bytes).filter (!isTrivial ·))
  let before ← Command.gather start words
  let (after, outcome) := Command.run before words
  (Command.wantedPaths before words).forM (Command.writeBack before after)
  (← IO.getStdout).putStr outcome.output
  (← IO.getStderr).putStr outcome.log
  return outcome.status
