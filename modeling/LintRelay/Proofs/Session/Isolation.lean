import LintRelay.Proofs.Reconciler.Serial
import LintRelay.Proofs.Session.Keys
import LintRelay.Proofs.Session.Requests

/-!
# What a running lint does not notice

A call that waits for the linter has taken what it needs from the settings and the files. When the
linter answers, its report depends on nothing else but the record and the project run in force
(`SameRecord.finish`), and these are changed by reconciliations alone (`sameRecord_run`). So two
courses of events with the same reconciliations end the call alike, whatever settings come between
and whatever becomes of the files (`report_fixed_at_start`).
-/

namespace LintRelay

open Reconciler (Job SameRecord)

/-! ## Reconciliations -/

namespace Reconciler

/-- The reconciler after jobs, first one first. -/
def performAll (r : Reconciler) (jobs : List Job) : Reconciler :=
  jobs.foldl (fun r job => (job.perform r).1) r

namespace SameRecord

variable {r s q : Reconciler}

theorem refl (r : Reconciler) : SameRecord r r := ⟨rfl, rfl⟩

theorem symm (h : SameRecord r s) : SameRecord s r := ⟨h.published.symm, h.generation.symm⟩

theorem trans (h : SameRecord r s) (h' : SameRecord s q) : SameRecord r q :=
  ⟨h.published.trans h'.published, h.generation.trans h'.generation⟩

/-- Jobs leave the same record where they find the same. -/
theorem perform (h : SameRecord r s) (job : Job) :
    SameRecord (job.perform r).1 (job.perform s).1 := by
  cases job with
  | run ticket new =>
      by_cases hstale : ticket < r.generation
      · rw [Job.perform_stale new hstale, Job.perform_stale new (h.generation ▸ hstale)]
        exact h
      · rw [Job.perform_applied new hstale, Job.perform_applied new (h.generation ▸ hstale)]
        exact ⟨rfl, rfl⟩
  | file p ds => exact ⟨congrArg (recordFile · p ds) h.published, h.generation⟩

theorem performAll (h : SameRecord r s) (jobs : List Job) :
    SameRecord (r.performAll jobs) (s.performAll jobs) := by
  induction jobs generalizing r s with
  | nil => exact h
  | cons job jobs ih => exact ih (h.perform job)

end SameRecord
end Reconciler

/-- What the end of a waiting call asks of the reconciler: nothing where the linter fails or prints
no report. -/
def Pending.job? (p : Pending) (output : Except LintError String) : Option Job :=
  match Session.readOutput p output with
  | .error _ => none
  | .ok set =>
    match p.ticket with
    | some ticket => some (.run ticket set)
    | none => some (.file p.file (pickFile set p.file p.workingDir))

namespace Session

/-! ## One call -/

/-- A call that waits has taken its file, the directory of the file and the meaning of severities
from what it found when it started. -/
theorem fixed_of_waiting {x : Session} {t : FileTree} {call : LintCall} {p : Pending}
    (h : (x.start t call).2 = .waiting p) :
    call.file? x = some p.file ∧ p.workingDir = workingDirFor p.file ∧
      p.useRuleSeverity = x.settings.useRuleSeverity := by
  have hstarts := x.start_starts t call
  generalize (x.start t call).1 = x' at hstarts
  rw [h] at hstarts
  cases hstarts with
  | project hfile _ _ hproject =>
      cases hproject
      exact ⟨hfile, rfl, rfl⟩
  | file hfile _ _ hasks =>
      cases hasks
      exact ⟨hfile, rfl, rfl⟩

/-- The end of a call does its job with the record. -/
theorem sameRecord_finish (x : Session) (p : Pending) (output : Except LintError String) :
    SameRecord (x.finish p output).1.reconciler
      (x.reconciler.performAll (p.job? output).toList) := by
  unfold Pending.job?
  cases hread : readOutput p output with
  | error e =>
      rw [finish_failed hread]
      exact .refl _
  | ok set =>
      cases hticket : p.ticket with
      | none =>
          rw [finish_file hread hticket]
          exact .refl _
      | some ticket =>
          show SameRecord _ ((Job.run ticket set).perform x.reconciler).1
          by_cases hold : ticket < x.reconciler.generation
          · rw [finish_stale hread hticket hold, Job.perform_stale set hold]
            exact .refl _
          · rw [finish_applied hread hticket hold, Job.perform_applied set hold]
            exact .refl _

end Session

/-- What a call reports depends on the record and the project run in force, and on nothing else of
the session. -/
theorem Reconciler.SameRecord.finish {x y : Session} (h : SameRecord x.reconciler y.reconciler)
    (p : Pending) (output : Except LintError String) :
    (x.finish p output).2.2 = (y.finish p output).2.2 ∧
      (x.finish p output).2.1.map (·.publication) =
        (y.finish p output).2.1.map (·.publication) := by
  cases hread : Session.readOutput p output with
  | error e =>
      rw [Session.finish_failed hread, Session.finish_failed hread]
      exact ⟨rfl, rfl⟩
  | ok set =>
      cases hticket : p.ticket with
      | none =>
          rw [Session.finish_file hread hticket, Session.finish_file hread hticket]
          exact ⟨rfl, rfl⟩
      | some ticket =>
          by_cases hold : ticket < x.reconciler.generation
          · have hold' := h.generation ▸ hold
            rw [Session.finish_stale hread hticket hold, Session.finish_stale hread hticket hold']
            exact ⟨rfl, rfl⟩
          · have hold' := h.generation ▸ hold
            rw [Session.finish_applied hread hticket hold,
              Session.finish_applied hread hticket hold', h.published]
            refine ⟨rfl, ?_⟩
            rw [Reconciler.map_publication_send, Reconciler.map_publication_send]

namespace Session.Activity

/-! ## Courses of events -/

theorem waiting_after_answer (a : Activity) (i : Nat) (output : Except LintError String) :
    (a.after (.answer i output)).waiting = a.waiting.eraseIdx i := by
  cases hp : a.waiting[i]? with
  | none =>
      rw [after_answer_none output hp, List.eraseIdx_of_length_le]
      exact List.getElem?_eq_none_iff.mp hp
  | some p => rw [after_answer output hp]

theorem waiting_after_update (a : Activity) (s : Settings) :
    (a.after (.update s)).waiting = a.waiting := by
  obtain ⟨x, hafter, -⟩ := a.after_update s
  rw [hafter]

/-- The reconciliations of an event. -/
def jobs (a : Activity) : Event → List Job
  | .answer i output => (a.waiting[i]?.bind fun p => p.job? output).toList
  | _ => []

theorem jobs_answer (a : Activity) (i : Nat) (output : Except LintError String) :
    a.jobs (.answer i output) = (a.waiting[i]?.bind fun p => p.job? output).toList :=
  rfl

/-- The reconciliations of events, first one first. -/
def reconciliations : Activity → List Event → List Job
  | _, [] => []
  | a, e :: events => a.jobs e ++ (a.after e).reconciliations events

/-- The record is changed by the reconciliations of an event and by nothing else. -/
theorem sameRecord_after (a : Activity) (e : Event) :
    SameRecord (a.after e).session.reconciler (a.session.reconciler.performAll (a.jobs e)) := by
  cases e with
  | start t call =>
      show SameRecord (a.session.start t call).1.reconciler a.session.reconciler
      rcases a.session.start_ticket t call with ⟨hsame, -⟩ | ⟨hbegin, -⟩
      · rw [hsame]
        exact .refl _
      · rw [hbegin]
        exact ⟨rfl, rfl⟩
  | answer i output =>
      rw [jobs_answer]
      cases hp : a.waiting[i]? with
      | none =>
          rw [after_answer_none output hp]
          exact .refl _
      | some p =>
          rw [after_answer output hp]
          exact a.session.sameRecord_finish p output
  | update s =>
      obtain ⟨x, hafter, sourceId, hx⟩ := a.after_update s
      rw [hafter]
      show SameRecord x.reconciler a.session.reconciler
      rw [hx]
      exact ⟨rfl, rfl⟩

theorem sameRecord_run (a : Activity) (events : List Event) :
    SameRecord (events.foldl after a).session.reconciler
      (a.session.reconciler.performAll (a.reconciliations events)) := by
  induction events generalizing a with
  | nil => exact .refl _
  | cons e events ih =>
      have hsplit : a.session.reconciler.performAll (a.reconciliations (e :: events)) =
          (a.session.reconciler.performAll (a.jobs e)).performAll
            ((a.after e).reconciliations events) := by
        rw [reconciliations, Reconciler.performAll, List.foldl_append]
        rfl
      rw [hsplit]
      exact (ih (a.after e)).trans ((a.sameRecord_after e).performAll _)

/-- Whether an event leaves the calls alone: it asks for new settings. -/
def Event.isUpdate : Event → Bool
  | .update _ => true
  | _ => false

def Event.NoStart : Event → Prop
  | .start .. => False
  | _ => True

/-- New settings change no reconciliation of the calls that wait already. -/
theorem reconciliations_without_updates {a b : Activity} (h : a.waiting = b.waiting)
    {events : List Event} (hstarts : ∀ e ∈ events, Event.NoStart e) :
    a.reconciliations events = b.reconciliations (events.filter fun e => !Event.isUpdate e) := by
  induction events generalizing a b with
  | nil => rfl
  | cons e events ih =>
      obtain ⟨he, hmore⟩ := List.forall_mem_cons.mp hstarts
      cases e with
      | start t call => exact absurd he id
      | answer i output =>
          have hjobs : a.jobs (.answer i output) = b.jobs (.answer i output) := by
            rw [jobs_answer, jobs_answer, h]
          have hwaiting : (a.after (.answer i output)).waiting =
              (b.after (.answer i output)).waiting := by
            rw [waiting_after_answer, waiting_after_answer, h]
          rw [List.filter_cons_of_pos rfl, reconciliations, reconciliations, hjobs,
            ih hwaiting hmore]
      | update s =>
          have hwaiting : (a.after (.update s)).waiting = b.waiting := by
            rw [waiting_after_update, h]
          rw [List.filter_cons_of_neg (by simp [Event.isUpdate]), reconciliations]
          exact ih hwaiting hmore

/-- **A running lint does not notice new settings or changed files.** Take any session in use, a
call that asks for a run of the linter, an answer of the linter, and two courses of events between
the two with the same reconciliations by other calls; the settings that are asked for meanwhile and
the files that other calls find may be any. Then the call ends in both with the same outcome or
error, publishes the same and leaves the same record and the same project run in force. It is about
the file that it had when it started, in the directory of the file, and takes severities as the
settings did then. -/
theorem report_fixed_at_start (x : Activity) (t : FileTree) (call : LintCall) (p : Pending)
    (hasks : (x.session.start t call).2 = .waiting p) (output : Except LintError String)
    (events others : List Event)
    (same : (x.after (.start t call)).reconciliations events =
      (x.after (.start t call)).reconciliations others) :
    (call.file? x.session = some p.file ∧ p.workingDir = workingDirFor p.file ∧
      p.useRuleSeverity = x.session.settings.useRuleSeverity) ∧
    ∀ i j,
      let b := events.foldl after (x.after (.start t call))
      let c := others.foldl after (x.after (.start t call))
      b.waiting[i]? = some p → c.waiting[j]? = some p →
      let b' := b.after (.answer i output)
      let c' := c.after (.answer j output)
      ∃ result sent sent',
        (b.session.finish p output).2.2 = result ∧ (c.session.finish p output).2.2 = result ∧
        b'.sent = b.sent ++ sent ∧ c'.sent = c.sent ++ sent' ∧
        sent.map (·.publication) = sent'.map (·.publication) ∧
        b'.session.reconciler.published = c'.session.reconciler.published ∧
        b'.session.reconciler.generation = c'.session.reconciler.generation := by
  refine ⟨fixed_of_waiting hasks, ?_⟩
  intro i j b c hi hj b' c'
  -- Both courses do the same jobs from the record at the start, so they leave the same record.
  have hrecord : SameRecord b.session.reconciler c.session.reconciler := by
    have hleft := sameRecord_run (x.after (.start t call)) events
    rw [same] at hleft
    exact hleft.trans (sameRecord_run (x.after (.start t call)) others).symm
  obtain ⟨hresult, hsent⟩ := hrecord.finish p output
  have hend : SameRecord (b.session.finish p output).1.reconciler
      (c.session.finish p output).1.reconciler :=
    (b.session.sameRecord_finish p output).trans
      ((hrecord.performAll _).trans (c.session.sameRecord_finish p output).symm)
  have hb' : b' = _ := after_answer output hi
  have hc' : c' = _ := after_answer output hj
  rw [hb', hc']
  exact ⟨_, _, _, rfl, hresult.symm, rfl, rfl, hsent, hend.published, hend.generation⟩

/-- Settings under which the file is not linted any more, and severities count. -/
def otherSettings : Settings :=
  { Settings.standard with
    extensions := ["ts"], sourceId := "other", useRuleSeverity := true }

/-- The lint of a file waits. -/
def fileLint : Activity :=
  ofEvents .standard [.start configAlone (.file (some (.ofString "/a.js")))]

/-- The linter reports the file. -/
def quietCourse : List Event := [.answer 0 (.ok oneFailure)]

/-- The same among new settings. -/
def busyCourse : List Event :=
  [.update otherSettings, .answer 0 (.ok oneFailure), .update .standard, .update otherSettings]

theorem waiting_quietCourse (a : Activity) :
    (quietCourse.foldl after a).waiting = a.waiting.eraseIdx 0 := by
  simp only [quietCourse, List.foldl_cons, List.foldl_nil, waiting_after_answer]

theorem waiting_busyCourse (a : Activity) :
    (busyCourse.foldl after a).waiting = a.waiting.eraseIdx 0 := by
  simp only [busyCourse, List.foldl_cons, List.foldl_nil, waiting_after_answer,
    waiting_after_update]

/-- The lint of a project, which waits meanwhile and then clears the file, ends alike in both
courses, although other settings are in force. -/
theorem report_fixed_at_start_clearing :
    let a := fileLint.after (.start configAlone (.project (some (.ofString "/b.js")) false))
    let b := quietCourse.foldl after a
    let c := busyCourse.foldl after a
    InForce .standard b.session ∧ InForce otherSettings c.session ∧
    ∃ sent sent',
      (b.after (.answer 0 (.ok "[]"))).sent = b.sent ++ sent ∧
      (c.after (.answer 0 (.ok "[]"))).sent = c.sent ++ sent' ∧
      sent.map (·.publication) = sent'.map (·.publication) ∧
      (b.after (.answer 0 (.ok "[]"))).session.reconciler.published =
        (c.after (.answer 0 (.ok "[]"))).session.reconciler.published := by
  intro a b c
  obtain ⟨p, hasks, hwaiting⟩ : ∃ p,
      (fileLint.session.start configAlone (.project (some (.ofString "/b.js")) false)).2 =
        .waiting p ∧
      a.waiting.eraseIdx 0 = [p] :=
    ⟨_, rfl, rfl⟩
  have hb : b.waiting[0]? = some p := by rw [waiting_quietCourse, hwaiting]; rfl
  have hc : c.waiting[0]? = some p := by rw [waiting_busyCourse, hwaiting]; rfl
  have hforce : InForce .standard a.session :=
    inForce_after (inForce_ofEvents .standard
      [.start configAlone (.file (some (.ofString "/a.js")))])
      (.start configAlone (.project (some (.ofString "/b.js")) false))
  have hstarts : ∀ e ∈ busyCourse, Event.NoStart e := by
    simp [busyCourse, Event.NoStart]
  have same : a.reconciliations quietCourse = a.reconciliations busyCourse :=
    (reconciliations_without_updates rfl hstarts).symm
  obtain ⟨-, hends⟩ := report_fixed_at_start fileLint configAlone
    (.project (some (.ofString "/b.js")) false) p hasks (.ok "[]") quietCourse busyCourse same
  obtain ⟨-, sent, sent', -, -, hsent, hsent', hpublished, hrecord, -⟩ := hends 0 0 hb hc
  refine ⟨?_, ?_, sent, sent', hsent, hsent', hpublished, ?_⟩
  · exact inForce_foldl_after hforce quietCourse
  · exact inForce_foldl_after hforce busyCourse
  · dsimp only [a, b, c]
    exact hrecord

end Session.Activity
end LintRelay
