import LintRelay.Command.Lint

/-!
# Running the program

The whole run of the program for a command line: what it prints, what it tells, its exit status and
the files it leaves. A command line that cannot be read is refused with the status two; help and
version are printed with the status zero.
-/

namespace LintRelay.Command

/-- What a run of the program comes to. -/
structure Outcome where
  status : UInt32
  output : String
  log : String
  deriving Repr, DecidableEq

/-- What is told when the server starts. -/
def serverRecord : Record := ⟨.info, productName ++ " LSP server starting..."⟩

/-- What a run comes to that has nothing to do. -/
def Stopped.outcome : Stopped → Outcome
  | .help c => ⟨0, helpText c, ""⟩
  | .version => ⟨0, versionText, ""⟩
  | .refused r => ⟨2, "", r.text⟩

/-- Does what is asked for. The server is started with nothing to read, and ends. -/
def Request.run (q : Request) (t : FileTree) : FileTree × Outcome :=
  match q.action with
  | .lint o =>
    let (after, v, told) := lint t q.config o
    (after, ⟨v.status, v.output o.format, logText q.verbose (told ++ v.records)⟩)
  | .serve => (t, ⟨0, "", logText q.verbose [serverRecord]⟩)

/-- Runs the program with the words of a command line, in the base directory of a file tree. -/
def run (t : FileTree) (words : List Bytes) : FileTree × Outcome :=
  match read words with
  | .ok q => q.run t
  | .error s => (t, s.outcome)

end LintRelay.Command
