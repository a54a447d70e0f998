import LintRelay.Proofs.Session.Halves

/-!
# Sessions in use

An `Activity` is a session with the calls that wait for the linter and with what it did so far. It
goes on by events: a call starts, the linter of a waiting call answers, or new settings are asked
for. Any number of calls overlap, the answers come in any order, and each start sees the files as
they are then. Record and display agree throughout (`agrees_ofEvents`).
-/

namespace LintRelay

/-- The calls that a start leaves waiting: one or none. -/
def Started.pending : Started → List Pending
  | .ended _ => []
  | .waiting p => [p]

/-- The ticket of a project run whose result was published. -/
def Pending.appliedTicket (p : Pending) : Except LintError LintOutcome → List Ticket
  | .ok (.published ..) => p.ticket.toList
  | _ => []

theorem Pending.appliedTicket_published (p : Pending) (files cleared : Nat) :
    p.appliedTicket (.ok (.published files cleared)) = p.ticket.toList :=
  rfl

/-- The tickets of waiting calls. -/
def openTickets (ps : List Pending) : List Ticket := ps.filterMap (·.ticket)

/-- The ticket that was taken between two states of a reconciler, if one was. -/
def ticketTaken (before after : Reconciler) : List Ticket :=
  if after.lastTicket = before.lastTicket then [] else [after.lastTicket]

namespace Session

/-- A session as it is made, with given settings or the standard ones. -/
inductive IsNew : Session → Prop
  | ofSettings {s : Settings} {x : Session} : Session.ofSettings s = .ok x → IsNew x
  | standard : IsNew .standard

/-- A session begins with a reconciler that did nothing. -/
theorem IsNew.reconciler {x : Session} (h : x.IsNew) :
    ∃ sourceId, x.reconciler = .start sourceId := by
  cases h with
  | @ofSettings s x h =>
      unfold Session.ofSettings at h
      split at h
      · exact ⟨s.sourceId, by rw [← Except.ok.inj h]⟩
      · exact absurd h (by simp)
  | standard => exact ⟨_, rfl⟩

/-- Something that happens to a session in use. -/
inductive Event where
  | start (t : FileTree) (call : LintCall)
  | answer (i : Nat) (output : Except LintError String)
  | update (s : Settings)

/-- A session in use, with the calls that wait for the linter, the tickets that were taken and
everything that was sent, oldest first. -/
structure Activity where
  session : Session
  waiting : List Pending
  taken : List Ticket
  /-- The tickets of the project runs whose results were published, oldest first. -/
  applied : List Ticket
  sent : List Sent

namespace Activity

/-- A session that was not used yet. -/
def start (x : Session) : Activity := ⟨x, [], [], [], []⟩

/-- The activity after one more event. An answer for a call that does not wait is none, and settings
that are refused change nothing. -/
def after (a : Activity) : Event → Activity
  | .start t call =>
    let (x, started) := a.session.start t call
    { a with
      session := x
      waiting := a.waiting ++ started.pending
      taken := a.taken ++ ticketTaken a.session.reconciler x.reconciler }
  | .answer i output =>
    match a.waiting[i]? with
    | none => a
    | some p =>
      let (x, sent, result) := a.session.finish p output
      { a with
        session := x
        waiting := a.waiting.eraseIdx i
        applied := a.applied ++ p.appliedTicket result
        sent := a.sent ++ sent }
  | .update s =>
    match a.session.updateSettings s with
    | .ok x => { a with session := x }
    | .error _ => a

/-- The activity that events make of a session, first one first. -/
def ofEvents (x : Session) (events : List Event) : Activity := events.foldl after (start x)

/-! ## One event -/

theorem after_answer {a : Activity} {i : Nat} {p : Pending} (output : Except LintError String)
    (h : a.waiting[i]? = some p) :
    a.after (.answer i output) =
      { session := (a.session.finish p output).1
        waiting := a.waiting.eraseIdx i
        taken := a.taken
        applied := a.applied ++ p.appliedTicket (a.session.finish p output).2.2
        sent := a.sent ++ (a.session.finish p output).2.1 } := by
  rw [after, h]

theorem after_answer_none {a : Activity} {i : Nat} (output : Except LintError String)
    (h : a.waiting[i]? = none) : a.after (.answer i output) = a := by
  rw [after, h]

/-- New settings touch of the reconciler at most the name of the source, and nothing else that an
activity holds. -/
theorem after_update (a : Activity) (s : Settings) :
    ∃ x : Session, a.after (.update s) = { a with session := x } ∧
      ∃ sourceId, x.reconciler = a.session.reconciler.setSourceId sourceId := by
  rw [after]
  cases h : a.session.updateSettings s with
  | error e => exact ⟨a.session, rfl, a.session.reconciler.sourceId, rfl⟩
  | ok x =>
      obtain ⟨_, _, rfl⟩ := updateSettings_ok h
      exact ⟨_, rfl, s.sourceId, rfl⟩

/-- A start leaves the record alone. -/
theorem published_start (x : Session) (t : FileTree) (call : LintCall) :
    (x.start t call).1.reconciler.published = x.reconciler.published := by
  rcases x.start_ticket t call with ⟨h, _⟩ | ⟨h, _⟩
  · rw [h]
  · rw [h]
    rfl

/-! ## Record and display -/

/-- Whatever a call comes to, its end keeps record and display in agreement. -/
theorem agrees_finish {log : List Sent} {x : Session} (h : Agrees log x.reconciler.published)
    (p : Pending) (output : Except LintError String) :
    Agrees (log ++ (x.finish p output).2.1) (x.finish p output).1.reconciler.published := by
  cases hread : readOutput p output with
  | error e =>
      rw [finish_failed hread, List.append_nil]
      exact h
  | ok set =>
      cases hticket : p.ticket with
      | none =>
          rw [finish_file hread hticket]
          exact h.reconcileFile _ _
      | some ticket =>
          by_cases hold : ticket < x.reconciler.generation
          · rw [finish_stale hread hticket hold, List.append_nil]
            exact h
          · rw [finish_applied hread hticket hold]
            exact h.publications set

theorem agrees_after {a : Activity} (h : Agrees a.sent a.session.reconciler.published)
    (e : Event) : Agrees (a.after e).sent (a.after e).session.reconciler.published := by
  cases e with
  | start t call =>
      show Agrees a.sent (a.session.start t call).1.reconciler.published
      rw [published_start]
      exact h
  | answer i output =>
      cases hp : a.waiting[i]? with
      | none =>
          rw [after_answer_none output hp]
          exact h
      | some p =>
          rw [after_answer output hp]
          exact agrees_finish h p output
  | update s =>
      obtain ⟨x, hafter, sourceId, hx⟩ := a.after_update s
      rw [hafter]
      show Agrees a.sent x.reconciler.published
      rw [hx]
      exact h

/-- What a session in use has recorded is what the editor displays. -/
theorem agrees_ofEvents {x : Session} (hnew : x.IsNew) (events : List Event) :
    Agrees (ofEvents x events).sent (ofEvents x events).session.reconciler.published := by
  have hstart : Agrees (start x).sent (start x).session.reconciler.published := by
    obtain ⟨sourceId, hstart⟩ := hnew.reconciler
    show Agrees [] x.reconciler.published
    rw [hstart]
    exact Agrees.start
  unfold ofEvents
  generalize start x = a at hstart
  induction events generalizing a with
  | nil => exact hstart
  | cons e events ih => exact ih _ (agrees_after hstart e)

end Activity
end Session
end LintRelay
