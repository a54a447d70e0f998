import LintRelay.Program.Run
import LintRelay.Session.Basic

/-!
# Lint calls from start to end

A call that nothing comes in between of: it starts, the linter runs in the file tree, and its output
is published.
-/

namespace LintRelay.Session

/-- Runs a call. The linter may change the files. -/
def run (x : Session) (t : FileTree) (call : LintCall) :
    Session × FileTree × List Sent × Except LintError LintOutcome :=
  match x.start t call with
  | (x, .ended result) => (x, t, [], result)
  | (x, .waiting p) =>
    let (t, output) := p.invocation.run t
    let (x, sent, result) := x.finish p output
    (x, t, sent, result)

end LintRelay.Session
