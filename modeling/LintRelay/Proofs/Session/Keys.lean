import LintRelay.Proofs.Report.Group
import LintRelay.Proofs.Session.Tickets

/-!
# The spelling of what is published

A project run publishes under the paths of its report, which are in normal form. A run over one file
looks its result up under the normal form of the file, but publishes under the file as the call
spells it. So every path that is sent or recorded is in normal form or is the file of a call that
lints one file (`keys_normal_or_asked`), and where such a call spells its file otherwise, the file
gets a second entry (`second_key_for_one_file`).
-/

namespace LintRelay

theorem mem_announcements_path {new : FileDiagnostics} {q : Publication}
    (h : q ∈ announcements new) : q.path ∈ new.paths := by
  obtain ⟨e, he, rfl⟩ := List.mem_map.mp h
  exact List.mem_map_of_mem he

theorem mem_clears_path {shown new : FileDiagnostics} {q : Publication} (h : q ∈ clears shown new) :
    q.path ∈ shown.paths := by
  obtain ⟨e, he, rfl⟩ := List.mem_map.mp h
  exact List.mem_map_of_mem (List.mem_filter.mp he).1

/-- The record of a file's own run has no new path but the file's. -/
theorem mem_paths_recordFile {shown : FileDiagnostics} {p q : Path} {ds : List Diagnostic}
    (h : q ∈ (recordFile shown p ds).paths) : q = p ∨ q ∈ shown.paths := by
  unfold recordFile at h
  split at h
  · exact .inr h
  · exact PathMap.mem_paths_alter h

namespace Session

/-- What is read of a linter's output is a grouped report, seen from where the linter ran. -/
theorem group_of_readOutput {p : Pending} {output : Except LintError String}
    {set : FileDiagnostics} (h : readOutput p output = .ok set) :
    ∃ fs, set = Report.group ⟨some p.workingDir, p.useRuleSeverity⟩ fs := by
  unfold readOutput Report.parse at h
  cases output with
  | error e => exact absurd h (by simp)
  | ok stdout =>
      dsimp only at h
      cases hfailures : Report.failures stdout with
      | error e =>
          rw [hfailures] at h
          exact absurd h (by simp [Except.map, Except.mapError])
      | ok fs =>
          rw [hfailures] at h
          exact ⟨fs, (Except.ok.inj h).symm⟩

/-- The paths of a report that was read are in normal form. -/
theorem normalize_of_readOutput {p : Pending} {output : Except LintError String}
    {set : FileDiagnostics} (h : readOutput p output = .ok set) :
    ∀ q ∈ set.paths, q.normalize = q := by
  obtain ⟨fs, rfl⟩ := group_of_readOutput h
  exact fun q hq => Report.normalize_of_mem_paths_group hq

/-- Whatever holds of the paths of a result, of the file that it is published for on its own, and of
the paths of the record holds of all that is sent and recorded when the result is published. -/
theorem paths_publish {P : Path → Prop} {x : Session} {p : Pending} {set : FileDiagnostics}
    (hrecord : ∀ q ∈ x.reconciler.published.paths, P q) (hset : ∀ q ∈ set.paths, P q)
    (hfile : p.ticket = none → P p.file) :
    (∀ s ∈ (x.publish p set).2.1, P s.publication.path) ∧
      ∀ q ∈ (x.publish p set).1.reconciler.published.paths, P q := by
  unfold publish
  cases hticket : p.ticket with
  | none =>
      refine ⟨fun s hs => ?_, fun q hq => ?_⟩
      · rw [List.mem_singleton.mp (Reconciler.mem_send.mp hs).2]
        exact hfile hticket
      · rcases mem_paths_recordFile hq with rfl | hq
        · exact hfile hticket
        · exact hrecord q hq
  | some ticket =>
      by_cases hold : ticket < x.reconciler.generation
      · simp only [Reconciler.reconcileRun_stale set hold]
        exact ⟨fun s hs => absurd hs List.not_mem_nil, hrecord⟩
      · simp only [Reconciler.reconcileRun_applied set hold]
        refine ⟨fun s hs => ?_, hset⟩
        rcases List.mem_append.mp (Reconciler.mem_send.mp hs).2 with hs | hs
        · exact hset _ (mem_announcements_path hs)
        · exact hrecord _ (mem_clears_path hs)

/-- The same for what a linter printed. -/
theorem paths_finish {P : Path → Prop} {x : Session} {p : Pending}
    {output : Except LintError String} (hrecord : ∀ q ∈ x.reconciler.published.paths, P q)
    (hset : ∀ set, readOutput p output = .ok set → ∀ q ∈ set.paths, P q)
    (hfile : p.ticket = none → P p.file) :
    (∀ s ∈ (x.finish p output).2.1, P s.publication.path) ∧
      ∀ q ∈ (x.finish p output).1.reconciler.published.paths, P q := by
  cases hread : readOutput p output with
  | error e =>
      rw [finish_failed hread]
      exact ⟨fun s hs => absurd hs List.not_mem_nil, hrecord⟩
  | ok set =>
      simp only [finish, hread]
      exact paths_publish hrecord (hset set hread) hfile

/-- A call that waits without a ticket lints one file. -/
theorem eq_file_of_waiting {x : Session} {t : FileTree} {call : LintCall} {p : Pending}
    (h : (x.start t call).2 = .waiting p) (hticket : p.ticket = none) :
    call = .file (some p.file) := by
  have hstarts := x.start_starts t call
  generalize (x.start t call).1 = x' at hstarts
  rw [h] at hstarts
  cases hstarts with
  | project _ _ _ hproject =>
      cases hproject
      exact absurd hticket (by simp)
  | file hfile _ hfix hasks =>
      cases hasks
      cases call with
      | project => exact absurd hfix (by simp [LintCall.projectFix?])
      | fixLast => exact absurd hfix (by simp [LintCall.projectFix?])
      | file p => exact congrArg LintCall.file hfile

namespace Activity

/-- The file of an event that starts the lint of one file. -/
def Event.file? : Event → Option Path
  | .start _ (.file p) => p
  | _ => none

/-- The files of calls that lint one file, as the calls spell them. -/
def filesAsked (events : List Event) : List Path := events.filterMap Event.file?

/-- Whether a path is in normal form or among the files of calls that lint one file. -/
def NormalOr (asked : List Path) (p : Path) : Prop := p.normalize = p ∨ p ∈ asked

theorem NormalOr.mono {asked more : List Path} {p : Path} (h : NormalOr asked p) :
    NormalOr (asked ++ more) p :=
  h.imp_right (List.mem_append_left _)

/-- Everything that an activity sent and recorded, and what it will send for single files, is in
normal form or spelled as a call spells it. -/
structure Spelled (asked : List Path) (a : Activity) : Prop where
  waiting : ∀ p ∈ a.waiting, p.ticket = none → p.file ∈ asked
  sent : ∀ s ∈ a.sent, NormalOr asked s.publication.path
  recorded : ∀ p ∈ a.session.reconciler.published.paths, NormalOr asked p

namespace Spelled

variable {asked : List Path} {a : Activity}

theorem mono (h : Spelled asked a) (more : List Path) : Spelled (asked ++ more) a where
  waiting := fun p hp hticket => List.mem_append_left _ (h.waiting p hp hticket)
  sent := fun s hs => (h.sent s hs).mono
  recorded := fun p hp => (h.recorded p hp).mono

theorem after_start (h : Spelled asked a) (t : FileTree) (call : LintCall) :
    Spelled (asked ++ filesAsked [.start t call]) (a.after (.start t call)) where
  waiting := by
    intro p hp hticket
    have hp : p ∈ a.waiting ++ (a.session.start t call).2.pending := hp
    rcases List.mem_append.mp hp with hp | hp
    · exact List.mem_append_left _ (h.waiting p hp hticket)
    · cases hstarted : (a.session.start t call).2 with
      | ended result =>
          rw [hstarted] at hp
          exact absurd hp List.not_mem_nil
      | waiting q =>
          rw [hstarted] at hp
          obtain rfl := List.mem_singleton.mp hp
          rw [eq_file_of_waiting hstarted hticket]
          exact List.mem_append_right _ (List.mem_singleton_self _)
  sent := fun s hs => (h.sent s hs).mono
  recorded := by
    intro p hp
    have hp : p ∈ (a.session.start t call).1.reconciler.published.paths := hp
    rw [published_start] at hp
    exact (h.recorded p hp).mono

theorem after_answer (h : Spelled asked a) (i : Nat) (output : Except LintError String) :
    Spelled asked (a.after (.answer i output)) := by
  cases hp : a.waiting[i]? with
  | none => rwa [after_answer_none output hp]
  | some p =>
      have hmem : p ∈ a.waiting := List.mem_of_getElem? hp
      have hwaiting : ∀ q ∈ a.waiting.eraseIdx i, q.ticket = none → q.file ∈ asked :=
        fun q hq => h.waiting q (List.mem_of_mem_eraseIdx hq)
      obtain ⟨hsent, hrecorded⟩ := paths_finish h.recorded
        (fun set hread q hq => .inl (normalize_of_readOutput hread q hq))
        (fun hticket => .inr (h.waiting p hmem hticket))
      rw [Activity.after_answer output hp]
      exact ⟨hwaiting, List.forall_mem_append.mpr ⟨h.sent, hsent⟩, hrecorded⟩

theorem after (h : Spelled asked a) (e : Event) :
    Spelled (asked ++ filesAsked [e]) (a.after e) := by
  cases e with
  | start t call => exact h.after_start t call
  | answer i output => exact (h.after_answer i output).mono _
  | update s =>
      obtain ⟨x, hafter, sourceId, hx⟩ := a.after_update s
      have hsame : Spelled asked { a with session := x } := by
        refine ⟨h.waiting, h.sent, ?_⟩
        show ∀ p ∈ x.reconciler.published.paths, NormalOr asked p
        rw [hx]
        exact h.recorded
      rw [hafter]
      exact hsame.mono _

theorem foldl_after (h : Spelled asked a) (events : List Event) :
    Spelled (asked ++ filesAsked events) (events.foldl Activity.after a) := by
  induction events generalizing asked a with
  | nil => rwa [filesAsked, List.filterMap_nil, List.append_nil]
  | cons e events ih =>
      have hsplit : filesAsked (e :: events) = filesAsked [e] ++ filesAsked events :=
        List.filterMap_append (l := [e])
      rw [hsplit, ← List.append_assoc]
      exact ih (h.after e)

theorem start {x : Session} (hnew : x.IsNew) : Spelled [] (start x) := by
  obtain ⟨sourceId, hstart⟩ := hnew.reconciler
  refine ⟨fun p hp => absurd hp List.not_mem_nil, fun s hs => absurd hs List.not_mem_nil, ?_⟩
  show ∀ p ∈ x.reconciler.published.paths, NormalOr [] p
  rw [hstart]
  exact fun p hp => absurd hp List.not_mem_nil

end Spelled

/-- **What is published is in normal form or spelled as a call spells it.** Whatever calls and
answers overlap, every path that is sent and every path of the record is in normal form or is the
file of a call that lints one file. Such a call publishes once, under its file as it stands
there. -/
theorem keys_normal_or_asked (x : Session) (hnew : x.IsNew) (events : List Event) :
    let a := ofEvents x events
    let asked := filesAsked events
    (∀ s ∈ a.sent, s.publication.path.normalize = s.publication.path ∨
      s.publication.path ∈ asked) ∧
    (∀ p ∈ a.session.reconciler.published.paths, p.normalize = p ∨ p ∈ asked) ∧
    (∀ p ∈ a.waiting, ∀ output set, p.ticket = none → readOutput p output = .ok set →
      p.file ∈ asked ∧
      (a.session.finish p output).2.1.map (·.publication.path) = [p.file]) := by
  intro a asked
  have h : Spelled asked a := (Spelled.start hnew).foldl_after events
  refine ⟨h.sent, h.recorded, ?_⟩
  intro p hp output set hticket hread
  rw [finish_file hread hticket]
  exact ⟨h.waiting p hp hticket, rfl⟩

/-- A report of one failure, in `/a.js`. -/
def oneFailure : String :=
  "[\x7b\"ruleName\":\"r\",\"failure\":\"f\",\"name\":\"/a.js\"," ++
    "\"startPosition\":\x7b\"line\":0,\"character\":0\x7d," ++
    "\"endPosition\":\x7b\"line\":0,\"character\":1\x7d\x7d]"

/-- A project lint that reports `/a.js`, and then the lint of the same file in another spelling. -/
def oneFileTwice : List Event := [
  .start configAlone (.project (some (.ofString "/a.js")) false),
  .answer 0 (.ok oneFailure),
  .start configAlone (.file (some (.ofString "/p/../a.js"))),
  .answer 0 (.ok oneFailure)]

/-- Only the spelling of the second call is not in normal form. -/
theorem keys_normal_or_asked_twice :
    Session.standard.IsNew ∧
    ∀ s ∈ (ofEvents .standard oneFileTwice).sent,
      s.publication.path.normalize = s.publication.path ∨
        s.publication.path = .ofString "/p/../a.js" := by
  obtain ⟨hsent, -, -⟩ := keys_normal_or_asked .standard .standard oneFileTwice
  refine ⟨.standard, ?_⟩
  intro s hs
  exact (hsent s hs).imp_right fun hmem => List.mem_singleton.mp hmem

/-- The file gets a second entry in the record, under a path that is not in normal form. -/
theorem second_key_for_one_file :
    let a := ofEvents .standard oneFileTwice
    a.session.reconciler.published.paths = [.ofString "/a.js", .ofString "/p/../a.js"] ∧
    (Path.ofString "/p/../a.js").normalize = .ofString "/a.js" ∧
    ¬((∀ s ∈ a.sent, s.publication.path.normalize = s.publication.path) ∧
      (∀ p ∈ a.session.reconciler.published.paths, p.normalize = p)) := by
  intro a
  have hpaths : a.session.reconciler.published.paths =
      [.ofString "/a.js", .ofString "/p/../a.js"] := by decide +kernel
  refine ⟨hpaths, by decide, ?_⟩
  rintro ⟨-, hkeys⟩
  have hkey := hkeys (.ofString "/p/../a.js") (by simp [hpaths])
  exact absurd hkey (by decide)

end Activity
end Session
end LintRelay
