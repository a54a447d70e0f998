import LintRelay.Report

/-!
# Reconciling published diagnostics

The reconciler remembers what was last sent for each file. A run over a whole project publishes
every file that it reports and clears every file that showed something and is not reported any
more; a run over one file touches that file alone.

Runs over a whole project are ordered by tickets, taken before the linter starts. A result whose
ticket is older than that of the result in force is dropped.
-/

namespace LintRelay

/-- The place of a project run in the order of the runs. -/
abbrev Ticket := UInt64

/-- What is shown for one file from now on. An empty list clears the file. -/
structure Publication where
  path : Path
  diagnostics : List Diagnostic
  deriving Repr, DecidableEq

/-- A publication as it is sent, under the name of its source. -/
structure Sent where
  sourceId : String
  publication : Publication
  deriving Repr, DecidableEq

/-- A colour that goes along with everything that is sent. -/
def colorHint : String := "yellow"

/-- What became of the result of a project run. -/
inductive ReconcileOutcome where
  | applied (published cleared : Nat)
  | stale (ticket current : Ticket)
  deriving Repr, DecidableEq

/-- What was last sent, and how new it is. -/
structure Reconciler where
  sourceId : String
  lastTicket : Ticket
  /-- The ticket of the project run in force; zero before the first. -/
  generation : Ticket
  published : FileDiagnostics

/-- What a result publishes besides its own entries: files that showed something and are not in it
are cleared. -/
def clears (shown new : FileDiagnostics) : List Publication :=
  (shown.entries.filter fun e => !e.2.isEmpty && !new.contains e.1).map fun e => ⟨e.1, []⟩

/-- The entries of a result as publications. -/
def announcements (new : FileDiagnostics) : List Publication :=
  new.entries.map fun e => ⟨e.1, e.2⟩

/-- What is in force for one file after its own run. An empty result clears a file that is known and
is not recorded for any other. -/
def recordFile (shown : FileDiagnostics) (p : Path) (ds : List Diagnostic) : FileDiagnostics :=
  if ds.isEmpty && !shown.contains p then shown else shown.insert p ds

namespace Reconciler

/-- The reconciler before anything is sent. -/
def start (sourceId : String) : Reconciler := ⟨sourceId, 0, 0, .empty⟩

/-- Changes the name under which diagnostics are published from now on. -/
def setSourceId (r : Reconciler) (sourceId : String) : Reconciler := { r with sourceId }

/-- Takes the ticket of a new project run. -/
def begin (r : Reconciler) : Reconciler × Ticket :=
  ({ r with lastTicket := r.lastTicket + 1 }, r.lastTicket + 1)

/-- Publications as they are sent. -/
def send (r : Reconciler) (ps : List Publication) : List Sent := ps.map fun p => ⟨r.sourceId, p⟩

/-- Reconciles the result of the project run that holds a ticket. -/
def reconcileRun (r : Reconciler) (ticket : Ticket) (new : FileDiagnostics) :
    Reconciler × List Sent × ReconcileOutcome :=
  if ticket < r.generation then (r, [], .stale ticket r.generation)
  else
    let gone := clears r.published new
    ({ r with published := new, generation := ticket },
      r.send (announcements new ++ gone),
      .applied new.size gone.length)

/-- Reconciles a result as that of the newest project run. -/
def reconcile (r : Reconciler) (new : FileDiagnostics) :
    Reconciler × List Sent × ReconcileOutcome :=
  let (r, ticket) := r.begin
  r.reconcileRun ticket new

/-- Publishes the result of a run over one file. -/
def reconcileFile (r : Reconciler) (p : Path) (ds : List Diagnostic) : Reconciler × List Sent :=
  ({ r with published := recordFile r.published p ds }, r.send [⟨p, ds⟩])

end Reconciler
end LintRelay
