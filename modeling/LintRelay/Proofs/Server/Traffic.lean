import LintRelay.Proofs.Server.Runs
import LintRelay.Proofs.Session.Activity

/-!
# What goes to the editor

The end of a lint call is not one step. Its result waits for the lock of the record, then each of
its publications is sent, and then the record is replaced; while the publications are sent, messages
are handled, calls start and timers expire. `Traffic` is a server at work in these smaller steps, with
everything that it sent and all that the editor was told. A call that nothing disturbs comes to the
same as `Server.finishCall` (`run_of_finish`), so that every run of the server is one of these
(`exists_traffic_of_run`).

Until the server is initialized it is as it started (`eq_start_after`). What is sent after it exited
is recorded, and the editor does not hear of it.
-/

namespace LintRelay
namespace Server

/-- A publication that was sent, and whether the editor hears what is sent then. -/
structure Delivery where
  sent : Sent
  heard : Bool

/-- A result that is being published. -/
structure Publishing where
  rest : List Publication
  /-- The record when all is sent, and the project run that is then in force. -/
  record : FileDiagnostics
  generation : Ticket

/-- A server at work, with everything that it sent and all that the editor was told besides answers,
oldest first. -/
structure Traffic where
  server : Server
  /-- The results that wait for the lock of the record. -/
  queue : List (Pending × FileDiagnostics)
  /-- The result that has the lock. -/
  publishing : Option Publishing
  log : List Delivery
  notices : List Notice

namespace Traffic

/-- A smallest step of a server at work. -/
inductive Event where
  | message (t : FileTree) (m : Message)
  | start (t : FileTree) (i : Nat)
  | expiry (i : Nat)
  | answer (i : Nat) (output : Except LintError String)
  | enter (i : Nat)
  | tell
  | leave

/-- A fresh server. -/
def start : Traffic := ⟨fresh, [], none, [], []⟩

/-- The diagnostics that are recorded as published. -/
def record (c : Traffic) : FileDiagnostics := c.server.session.reconciler.published

/-- The linter of a waiting call ends. What is no report is dropped. -/
def answer (c : Traffic) (i : Nat) (output : Except LintError String) : Traffic :=
  match c.server.waiting[i]? with
  | none => c
  | some p =>
    let c := { c with server := { c.server with waiting := c.server.waiting.eraseIdx i } }
    match Session.readOutput p output with
    | .error _ => c
    | .ok set => { c with queue := c.queue ++ [(p, set)] }

/-- A result gets the lock if nobody has it, and decides what to publish. -/
def enter (c : Traffic) (i : Nat) : Traffic :=
  match c.publishing, c.queue[i]? with
  | none, some (p, set) =>
    let (x, sent, _) := c.server.session.publish p set
    { c with
      queue := c.queue.eraseIdx i
      publishing := some
        ⟨sent.map (·.publication), x.reconciler.published, x.reconciler.generation⟩ }
  | _, _ => c

/-- The next publication is sent, under the name that is in force. -/
def tell (c : Traffic) : Traffic :=
  match c.publishing with
  | some ⟨q :: rest, record, generation⟩ =>
    let sent : Sent := ⟨c.server.session.reconciler.sourceId, q⟩
    { c with
      publishing := some ⟨rest, record, generation⟩
      log := c.log ++ [⟨sent, c.server.phase.sends⟩]
      notices := c.notices ++ c.server.notify (publication? sent).toList }
  | _ => c

/-- The record is replaced when all is sent. -/
def leave (c : Traffic) : Traffic :=
  match c.publishing with
  | some ⟨[], record, generation⟩ =>
    let reconciler := { c.server.session.reconciler with published := record, generation }
    { c with
      server := { c.server with session := { c.server.session with reconciler } }
      publishing := none }
  | _ => c

/-- A server at work after one more step. -/
def after (c : Traffic) : Event → Traffic
  | .message t m =>
    let r := c.server.receive t m
    { c with server := r.server, notices := c.notices ++ r.notices }
  | .start t i => { c with server := c.server.startCall t i }
  | .expiry i => { c with server := c.server.expire i }
  | .answer i output => c.answer i output
  | .enter i => c.enter i
  | .tell => c.tell
  | .leave => c.leave

/-- A server at work after some steps. -/
def run (c : Traffic) (events : List Event) : Traffic := events.foldl after c

/-- What steps make of a fresh server. -/
def ofEvents (events : List Event) : Traffic := start.run events

@[simp] theorem run_nil (c : Traffic) : c.run [] = c := rfl

@[simp] theorem run_cons (c : Traffic) (e : Event) (events : List Event) :
    c.run (e :: events) = (c.after e).run events :=
  rfl

theorem run_append (c : Traffic) (events more : List Event) :
    c.run (events ++ more) = (c.run events).run more :=
  List.foldl_append

end Traffic

/-! ## Publishing -/

/-- What publishing a result changes of a session, and under which name it sends. -/
theorem publish_eq (x : Session) (p : Pending) (set : FileDiagnostics) :
    (x.publish p set).1 = { x with reconciler := { x.reconciler with
        published := (x.publish p set).1.reconciler.published
        generation := (x.publish p set).1.reconciler.generation } } ∧
      ∃ ps, (x.publish p set).2.1 = x.reconciler.send ps := by
  unfold Session.publish
  cases p.ticket with
  | none => exact ⟨rfl, _, rfl⟩
  | some ticket =>
      by_cases hold : ticket < x.reconciler.generation
      · simp only [Reconciler.reconcileRun_stale set hold]
        exact ⟨trivial, [], rfl⟩
      · simp only [Reconciler.reconcileRun_applied set hold]
        exact ⟨trivial, _, rfl⟩

/-- Publishing a result keeps record and display in agreement. -/
theorem agrees_publish {log : List Sent} {x : Session} (h : Agrees log x.reconciler.published)
    (p : Pending) (set : FileDiagnostics) :
    Agrees (log ++ (x.publish p set).2.1) (x.publish p set).1.reconciler.published := by
  unfold Session.publish
  cases p.ticket with
  | none => exact h.reconcileFile p.file _
  | some ticket =>
      have hrun := h.reconcileRun ticket set
      dsimp only
      generalize x.reconciler.reconcileRun ticket set = result at hrun
      obtain ⟨r, sent, outcome⟩ := result
      cases outcome <;> exact hrun

/-! ## Messages and starts -/

theorem record_receive (s : Server) (t : FileTree) (m : Message) :
    (s.receive t m).server.session.reconciler.published = s.session.reconciler.published := by
  rw [server_receive]
  obtain ⟨sourceId, h⟩ := (m.effect s.phase).reconciler_apply s t
  rw [h]
  rfl

theorem record_startCall (s : Server) (t : FileTree) (i : Nat) :
    (s.startCall t i).session.reconciler.published = s.session.reconciler.published := by
  unfold startCall
  split
  · rfl
  · rename_i call _
    have hstart := Session.Activity.published_start s.session t call
    dsimp only
    generalize s.session.start t call = result at hstart
    obtain ⟨x, started⟩ := result
    cases started <;> exact hstart

/-! ## Calls that nothing disturbs -/

namespace Traffic

theorem tell_eq {c : Traffic} {q : Publication} {rest : List Publication}
    {record : FileDiagnostics} {generation : Ticket}
    (h : c.publishing = some ⟨q :: rest, record, generation⟩) :
    c.tell =
      { c with
        publishing := some ⟨rest, record, generation⟩
        log := c.log ++ [⟨⟨c.server.session.reconciler.sourceId, q⟩, c.server.phase.sends⟩]
        notices := c.notices ++
          c.server.notify (publication? ⟨c.server.session.reconciler.sourceId, q⟩).toList } := by
  simp only [tell, h]

theorem notify_append (s : Server) (ns more : List Notice) :
    s.notify (ns ++ more) = s.notify ns ++ s.notify more := by
  unfold notify
  split <;> simp

theorem filterMap_publication_cons (sent : Sent) (rest : List Sent) :
    (sent :: rest).filterMap publication? =
      (publication? sent).toList ++ rest.filterMap publication? := by
  rw [List.filterMap_cons]
  cases publication? sent <;> rfl

/-- What is left is sent under one name if nothing comes in between. -/
theorem run_tell (c : Traffic) (ps : List Publication) {record : FileDiagnostics}
    {generation : Ticket} (h : c.publishing = some ⟨ps, record, generation⟩) :
    ∃ log, c.run (ps.map fun _ => .tell) =
      { c with
        publishing := some ⟨[], record, generation⟩
        log
        notices := c.notices ++
          c.server.notify ((c.server.session.reconciler.send ps).filterMap publication?) } := by
  induction ps generalizing c with
  | nil =>
      have hnone : c.server.notify [] = [] := ite_self []
      exact ⟨c.log, by simp [Reconciler.send, hnone, ← h]⟩
  | cons q ps ih =>
      obtain ⟨log, hrest⟩ := ih c.tell (by rw [tell_eq h])
      refine ⟨log, ?_⟩
      show c.tell.run (ps.map fun _ => .tell) = _
      rw [hrest, tell_eq h]
      dsimp only
      rw [List.append_assoc, ← notify_append, ← filterMap_publication_cons]
      rfl

theorem answer_eq {c : Traffic} {i : Nat} {p : Pending} {output : Except LintError String}
    {set : FileDiagnostics} (hp : c.server.waiting[i]? = some p)
    (hread : Session.readOutput p output = .ok set) :
    c.answer i output =
      { c with
        server := { c.server with waiting := c.server.waiting.eraseIdx i }
        queue := c.queue ++ [(p, set)] } := by
  simp only [answer, hp, hread]

theorem enter_eq {c : Traffic} {i : Nat} {p : Pending} {set : FileDiagnostics}
    (hfree : c.publishing = none) (hi : c.queue[i]? = some (p, set)) :
    c.enter i =
      { c with
        queue := c.queue.eraseIdx i
        publishing := some
          ⟨(c.server.session.publish p set).2.1.map (·.publication),
            (c.server.session.publish p set).1.reconciler.published,
            (c.server.session.publish p set).1.reconciler.generation⟩ } := by
  simp only [enter, hfree, hi]

theorem leave_eq {c : Traffic} {record : FileDiagnostics} {generation : Ticket}
    (h : c.publishing = some ⟨[], record, generation⟩) :
    c.leave =
      { c with
        server := { c.server with session := { c.server.session with reconciler :=
          { c.server.session.reconciler with published := record, generation } } }
        publishing := none } := by
  simp only [leave, h]

/-- Where the lock is taken or no result waits at the place, nothing gets the lock. -/
theorem enter_cases (c : Traffic) (i : Nat) :
    c.enter i = c ∨ ∃ p set, c.publishing = none ∧ c.queue[i]? = some (p, set) := by
  cases hfree : c.publishing with
  | some x => exact .inl (by simp only [enter, hfree])
  | none =>
      cases hi : c.queue[i]? with
      | none => exact .inl (by simp only [enter, hfree, hi])
      | some result => exact .inr ⟨result.1, result.2, rfl, rfl⟩

/-- Where nothing is left to send, nothing is sent. -/
theorem tell_cases (c : Traffic) :
    c.tell = c ∨
      ∃ q rest record generation, c.publishing = some ⟨q :: rest, record, generation⟩ := by
  cases hpublishing : c.publishing with
  | none => exact .inl (by simp only [tell, hpublishing])
  | some x =>
      obtain ⟨rest, record, generation⟩ := x
      cases rest with
      | nil => exact .inl (by simp only [tell, hpublishing])
      | cons q rest => exact .inr ⟨q, rest, record, generation, rfl⟩

/-- Where something is left to send, the record stays. -/
theorem leave_cases (c : Traffic) :
    c.leave = c ∨ ∃ record generation, c.publishing = some ⟨[], record, generation⟩ := by
  cases hpublishing : c.publishing with
  | none => exact .inl (by simp only [leave, hpublishing])
  | some x =>
      obtain ⟨rest, record, generation⟩ := x
      cases rest with
      | nil => exact .inr ⟨record, generation, rfl⟩
      | cons q rest => exact .inl (by simp only [leave, hpublishing])

theorem finishCall_eq_publish {s : Server} {i : Nat} {p : Pending}
    {output : Except LintError String} {set : FileDiagnostics} (hp : s.waiting[i]? = some p)
    (hread : Session.readOutput p output = .ok set) :
    s.finishCall i output =
      ({ s with session := (s.session.publish p set).1, waiting := s.waiting.eraseIdx i },
        s.notify ((s.session.publish p set).2.1.filterMap publication?)) := by
  simp only [finishCall, hp, Session.finish, hread]
  rfl

/-- The end of a call that nothing disturbs. -/
theorem run_of_finish (c : Traffic) (hqueue : c.queue = []) (hfree : c.publishing = none) (i : Nat)
    (output : Except LintError String) :
    ∃ events log, c.run events =
      { c with
        server := (c.server.finishCall i output).1
        log
        notices := c.notices ++ (c.server.finishCall i output).2 } := by
  cases hp : c.server.waiting[i]? with
  | none =>
      have hfinish : c.server.finishCall i output = (c.server, []) := by
        simp only [finishCall, hp]
      exact ⟨[], c.log, by rw [hfinish]; simp⟩
  | some p =>
      cases hread : Session.readOutput p output with
      | error e =>
          refine ⟨[.answer i output], c.log, ?_⟩
          have hnone : ({ c.server with waiting := c.server.waiting.eraseIdx i } : Server).notify
            [] = [] := ite_self []
          simp [after, answer, finishCall, hp, hread, Session.finish_failed hread, hnone]
      | ok set =>
          obtain ⟨hsession, ps, hsent⟩ := publish_eq c.server.session p set
          have hpublications : (c.server.session.reconciler.send ps).map (·.publication) = ps :=
            (List.map_map ..).trans (List.map_id ps)
          -- the server at work when the linter has ended, and when the result has got the lock
          let x := (c.server.session.publish p set).1
          let waits : Server := { c.server with waiting := c.server.waiting.eraseIdx i }
          let asked : Traffic := { c with server := waits, queue := [(p, set)] }
          let begun : Traffic := { c with
            server := waits
            publishing := some ⟨ps, x.reconciler.published, x.reconciler.generation⟩ }
          have hasked : c.answer i output = asked := by
            rw [answer_eq hp hread, hqueue]
            rfl
          have hbegun : asked.enter 0 = begun := by
            have henter := enter_eq (c := asked) (i := 0) hfree rfl
            have hsession : asked.server.session = c.server.session := rfl
            rw [hsession, hsent, hpublications] at henter
            rw [henter]
            show ({ begun with queue := [] } : Traffic) = begun
            rw [← hqueue]
          obtain ⟨log, htold⟩ := begun.run_tell ps rfl
          refine ⟨.answer i output :: .enter 0 :: ((ps.map fun _ => .tell) ++ [.leave]), log, ?_⟩
          show ((c.answer i output).enter 0).run _ = _
          rw [hasked, hbegun, run_append, htold, run_cons, run_nil, after, leave_eq rfl,
            finishCall_eq_publish hp hread, hsent, hsession]
          show ({ c with server := _, publishing := none, log, notices := _ } : Traffic) = _
          rw [← hfree]
          rfl

/-- Whatever happens, with nothing in between. -/
theorem run_of_moment (c : Traffic) (hqueue : c.queue = []) (hfree : c.publishing = none)
    (e : Moment) :
    ∃ events log, c.run events =
      { c with
        server := c.server.after e
        log
        notices := c.notices ++ (c.server.step e.files e.happening).notices } := by
  obtain ⟨t, happening⟩ := e
  cases happening with
  | message m => exact ⟨[.message t m], c.log, rfl⟩
  | start i =>
      refine ⟨[.start t i], c.log, ?_⟩
      show ({ c with server := c.server.startCall t i } : Traffic) = { c with
        server := c.server.startCall t i, notices := c.notices ++ [] }
      rw [List.append_nil]
  | finish i output => exact c.run_of_finish hqueue hfree i output
  | expiry i =>
      refine ⟨[.expiry i], c.log, ?_⟩
      show ({ c with server := c.server.expire i } : Traffic) = { c with
        server := c.server.expire i, notices := c.notices ++ [] }
      rw [List.append_nil]

/-! ## Phases -/

/-- The end of a linter concerns the waiting calls and the results that wait. -/
theorem answer_eq_self (c : Traffic) (i : Nat) (output : Except LintError String) :
    c.answer i output = { c with
      server := { c.server with waiting := (c.answer i output).server.waiting }
      queue := (c.answer i output).queue } := by
  unfold answer
  split
  · rfl
  · dsimp only
    split <;> rfl

/-- What a step comes to if it handles a message. -/
def Event.effect (phase : Phase) : Event → Effect
  | .message _ m => m.effect phase
  | _ => .nothing

/-- Only messages change the phase. -/
theorem phase_after (c : Traffic) (e : Event) :
    (c.after e).server.phase = (e.effect c.server.phase).phase c.server.phase := by
  cases e with
  | message t m =>
      show (c.server.receive t m).server.phase = _
      rw [server_receive, Effect.phase_apply]
      rfl
  | start t i =>
      show (c.server.startCall t i).phase = _
      rw [startCall_eq]
      rfl
  | expiry i =>
      show (c.server.expire i).phase = _
      rw [expire_eq]
      rfl
  | answer i output =>
      show (c.answer i output).server.phase = c.server.phase
      rw [answer_eq_self]
  | enter i =>
      show (c.enter i).server.phase = c.server.phase
      rcases c.enter_cases i with hkept | ⟨p, set, hfree, hi⟩
      · rw [hkept]
      · rw [enter_eq hfree hi]
  | tell =>
      show c.tell.server.phase = c.server.phase
      rcases c.tell_cases with hkept | ⟨q, rest, record, generation, hpublishing⟩
      · rw [hkept]
      · rw [tell_eq hpublishing]
  | leave =>
      show c.leave.server.phase = c.server.phase
      rcases c.leave_cases with hkept | ⟨record, generation, hpublishing⟩
      · rw [hkept]
      · rw [leave_eq hpublishing]

theorem exited_after {c : Traffic} (h : c.server.phase = .exited) (e : Event) :
    (c.after e).server.phase = .exited := by
  rw [phase_after, h]
  cases e <;> rfl

/-- A message that comes to nothing leaves a server at work as it is. -/
theorem after_of_nothing {c : Traffic} {m : Message} (h : m.effect c.server.phase = .nothing)
    (t : FileTree) : c.after (.message t m) = c := by
  have hserver : (c.server.receive t m).server = c.server := by
    rw [server_receive, h]
    rfl
  have hnotices : (c.server.receive t m).notices = [] := by
    rw [notices_receive, h]
    rfl
  show ({ c with
    server := (c.server.receive t m).server
    notices := c.notices ++ (c.server.receive t m).notices } : Traffic) = c
  rw [hserver, hnotices, List.append_nil]

/-- A server at work is as it started until it is initialized: nothing is spawned before, so there
is nothing to start, to end or to publish. -/
theorem eq_start_after {c : Traffic} (h : c.server.phase = .uninitialized → c = start) (e : Event)
    (hafter : (c.after e).server.phase = .uninitialized) : c.after e = start := by
  rw [phase_after] at hafter
  obtain rfl := h (Effect.uninitialized_of_phase hafter)
  cases e with
  | message t m =>
      have hmessage : (m.effect .uninitialized).phase .uninitialized = .uninitialized := hafter
      have hearly : Phase.uninitialized ≠ .initialized := by decide
      rcases m.effect_of_not_initialized hearly with hnothing | hexit | ⟨i, hsetUp⟩
      · exact after_of_nothing hnothing t
      · rw [hexit] at hmessage
        cases hmessage
      · rw [hsetUp] at hmessage
        cases hmessage
  | _ => rfl

end Traffic

/-- Everything that the editor is told besides answers in a run. -/
def notices : Server → List Moment → List Notice
  | _, [] => []
  | s, e :: es => (s.step e.files e.happening).notices ++ notices (s.after e) es

/-- **Every run of the server is traffic**, in which each call ends undisturbed. -/
theorem exists_traffic_of_run (es : List Moment) :
    ∃ events, (Traffic.ofEvents events).server = fresh.run es ∧
      (Traffic.ofEvents events).notices = fresh.notices es ∧
      (Traffic.ofEvents events).publishing = none := by
  suffices h : ∀ c : Traffic, c.queue = [] → c.publishing = none →
      ∃ events, (c.run events).server = c.server.run es ∧
        (c.run events).notices = c.notices ++ c.server.notices es ∧
        (c.run events).publishing = none from
    h Traffic.start rfl rfl
  induction es with
  | nil => exact fun c _ hfree => ⟨[], rfl, (List.append_nil _).symm, hfree⟩
  | cons e es ih =>
      intro c hqueue hfree
      obtain ⟨events, log, hmoment⟩ := c.run_of_moment hqueue hfree e
      obtain ⟨more, hserver, hnotices, hidle⟩ := ih (c.run events) (by rw [hmoment, hqueue])
        (by rw [hmoment, hfree])
      refine ⟨events ++ more, ?_, ?_, ?_⟩
      · rw [Traffic.run_append, hserver, hmoment, run_cons]
      · rw [Traffic.run_append, hnotices, hmoment, List.append_assoc]
        rfl
      · rw [Traffic.run_append, hidle]

end Server
end LintRelay
