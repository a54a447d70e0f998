import LintRelay.Proofs.Reconciler.Display

/-!
# Calls that contend for a reconciler

Sending is slow, and other calls go on meanwhile. A `Contention` is a reconciler with any number of
calls at their several stages: a call is made, waits for the lock of the record, sends what it
publishes one publication at a time, changes the record, gives the lock back and answers. A turn
takes one call one step further; a call that waits for the lock stays where it is as long as another
one holds it. Between any two steps tickets may be taken and the source may get another name, since
neither needs the lock.

`Serial` is the same work done by one call after the other.
-/

namespace LintRelay
namespace Reconciler

inductive Call where
  /-- Reconciles a result as that of the newest project run: the ticket is taken when the call is
  made, before it waits. -/
  | newest (new : FileDiagnostics)
  | run (ticket : Ticket) (new : FileDiagnostics)
  | file (p : Path) (ds : List Diagnostic)

/-- What a call does once it has the lock. -/
inductive Job where
  | run (ticket : Ticket) (new : FileDiagnostics)
  | file (p : Path) (ds : List Diagnostic)

def Call.takesTicket : Call → Bool
  | .newest _ => true
  | _ => false

/-- What a call does with the ticket `own`, if it takes one. -/
def Call.job (own : Ticket) : Call → Job
  | .newest new => .run own new
  | .run ticket new => .run ticket new
  | .file p ds => .file p ds

/-- A job as a whole: the reconciler after it, what it sends, and the answer of the call. -/
def Job.perform (r : Reconciler) : Job → Reconciler × List Sent × Option ReconcileOutcome
  | .run ticket new =>
    let (r, sent, outcome) := r.reconcileRun ticket new
    (r, sent, some outcome)
  | .file p ds =>
    let (r, sent) := r.reconcileFile p ds
    (r, sent, none)

def Job.publications (r : Reconciler) (job : Job) : List Publication :=
  (job.perform r).2.1.map (·.publication)

/-! ## One call after the other -/

/-- What calls did one after the other, each under its number. -/
structure Serial where
  reconciler : Reconciler
  sent : List (Nat × Publication)
  answers : List (Nat × Option ReconcileOutcome)

namespace Serial

/-- One more call does its job. -/
def after (s : Serial) (x : Nat × Job) : Serial where
  reconciler := (x.2.perform s.reconciler).1
  sent := s.sent ++ (x.2.publications s.reconciler).map fun p => (x.1, p)
  answers := s.answers ++ [(x.1, (x.2.perform s.reconciler).2.2)]

/-- Calls do their jobs one after the other. -/
def ofJobs (r : Reconciler) (jobs : List (Nat × Job)) : Serial := jobs.foldl after ⟨r, [], []⟩

theorem ofJobs_concat (r : Reconciler) (jobs : List (Nat × Job)) (x : Nat × Job) :
    ofJobs r (jobs ++ [x]) = (ofJobs r jobs).after x := by
  rw [ofJobs, List.foldl_append]
  rfl

end Serial

/-! ## Calls at their stages -/

/-- How far a call is. -/
inductive Stage where
  | unmade
  | queued (job : Job)
  | entered (job : Job)
  /-- It publishes the entries of its result, of which `rest` are left. -/
  | announcing (ticket : Ticket) (new : FileDiagnostics) (rest : List (Path × List Diagnostic))
  /-- It goes through the entries of the record, of which `rest` are left, and clears what is
  missing from its result; so many were cleared. -/
  | clearing (ticket : Ticket) (new : FileDiagnostics) (rest : List (Path × List Diagnostic))
      (cleared : Nat)
  /-- It has published the diagnostics of its file, and has yet to record them. -/
  | recording (p : Path) (ds : List Diagnostic)
  | done (job : Job) (answer : Option ReconcileOutcome)

/-- Whether a call holds the lock. -/
def Stage.Busy : Stage → Prop
  | .entered _ | .announcing .. | .clearing .. | .recording .. => True
  | .unmade | .queued _ | .done .. => False

/-- Something that happens while calls contend. -/
inductive Turn where
  | call (i : Nat)
  | begin
  | setSourceId (sourceId : String)

/-- A reconciler in concurrent use: which call holds the lock, how far each call is, and what was sent
by which of them, oldest first. -/
structure Contention where
  reconciler : Reconciler
  holder : Option Nat
  stage : Nat → Stage
  /-- The tickets that calls took of their own, oldest first. -/
  taken : List (Nat × Ticket)
  sent : List (Nat × Sent)
  /-- The calls that got the lock with their jobs, in the order in which they got it. -/
  served : List (Nat × Job)

namespace Contention

/-- A reconciler of which nothing is asked yet. -/
def start (r : Reconciler) : Contention := ⟨r, none, fun _ => .unmade, [], [], []⟩

/-- Call `i` comes to a stage. -/
def move (c : Contention) (i : Nat) (s : Stage) : Contention :=
  { c with stage := Function.update c.stage i s }

/-- Call `i` takes a ticket of its own. -/
def takeTicket (c : Contention) (i : Nat) : Contention :=
  let (r, ticket) := c.reconciler.begin
  { c with reconciler := r, taken := c.taken ++ [(i, ticket)] }

/-- Call `i` sends one publication, under the name that the source has now. -/
def say (c : Contention) (i : Nat) (p : Publication) : Contention :=
  { c with sent := c.sent ++ [(i, ⟨c.reconciler.sourceId, p⟩)] }

/-- Call `i` gets the lock. -/
def enter (c : Contention) (i : Nat) (job : Job) : Contention :=
  { c.move i (.entered job) with holder := some i, served := c.served ++ [(i, job)] }

/-- Call `i` leaves the reconciler `r` behind, gives the lock back and answers. -/
def leave (c : Contention) (i : Nat) (job : Job) (r : Reconciler)
    (answer : Option ReconcileOutcome) : Contention :=
  { c.move i (.done job answer) with reconciler := r, holder := none }

/-- Call `i` takes its next step, if it can. -/
def step (calls : Nat → Call) (c : Contention) (i : Nat) : Contention :=
  let r := c.reconciler
  match c.stage i with
  | .unmade =>
    let there := if (calls i).takesTicket then c.takeTicket i else c
    there.move i (.queued ((calls i).job r.begin.2))
  | .queued job => if c.holder.isSome then c else c.enter i job
  | .entered (.run ticket new) =>
    if ticket < r.generation then
      c.leave i (.run ticket new) r (some (.stale ticket r.generation))
    else c.move i (.announcing ticket new new.entries)
  | .entered (.file p ds) => (c.say i ⟨p, ds⟩).move i (.recording p ds)
  | .announcing ticket new ((p, ds) :: rest) =>
    (c.say i ⟨p, ds⟩).move i (.announcing ticket new rest)
  | .announcing ticket new [] => c.move i (.clearing ticket new r.published.entries 0)
  | .clearing ticket new ((p, ds) :: rest) cleared =>
    if !ds.isEmpty && !new.contains p then
      (c.say i ⟨p, []⟩).move i (.clearing ticket new rest (cleared + 1))
    else c.move i (.clearing ticket new rest cleared)
  | .clearing ticket new [] cleared =>
    c.leave i (.run ticket new) { r with published := new, generation := ticket }
      (some (.applied new.size cleared))
  | .recording p ds =>
    c.leave i (.file p ds) { r with published := recordFile r.published p ds } none
  | .done .. => c

/-- What is there after one more turn. -/
def after (calls : Nat → Call) (c : Contention) : Turn → Contention
  | .call i => c.step calls i
  | .begin => { c with reconciler := c.reconciler.begin.1 }
  | .setSourceId sourceId => { c with reconciler := c.reconciler.setSourceId sourceId }

/-- What turns make of a reconciler, first one first. -/
def ofTurns (r : Reconciler) (calls : Nat → Call) (turns : List Turn) : Contention :=
  turns.foldl (after calls) (start r)

/-- What was published, with the call that did it. -/
def publications (c : Contention) : List (Nat × Publication) :=
  c.sent.map fun s => (s.1, s.2.publication)

/-- Whether a job is what call `i` asks for, with the ticket that it took if it takes one. -/
def Asked (calls : Nat → Call) (c : Contention) (i : Nat) (job : Job) : Prop :=
  ∃ own, job = (calls i).job own ∧ ((calls i).takesTicket = true → (i, own) ∈ c.taken)

/-- Whether every call that was made has answered. -/
def Finished (c : Contention) : Prop :=
  ∀ i, c.stage i = .unmade ∨ ∃ job answer, c.stage i = .done job answer

end Contention
end Reconciler
end LintRelay
