import LintRelay.Proofs.Path.Destination
import LintRelay.Proofs.Session.Keys
import LintRelay.Proofs.Session.Requests

/-!
# Absolute paths stay absolute

A call whose file is absolute is linted in an absolute directory, because an admitted file has a name
and so is more than the root. Every name that the linter reports is seen from this directory, and
normalizing keeps the root. So whatever is published and recorded has an absolute path, as long as
calls are made for absolute files (`Session.Rooted`, `Activity.Rooted`).
-/

namespace LintRelay

def PathMap.Rooted {α : Type} (m : PathMap α) : Prop := ∀ p ∈ m.paths, p.isAbsolute = true

/-- Whether the file that a call names is absolute. An empty path is no file and is never linted. -/
def LintCall.Rooted : LintCall → Prop
  | .project named _ | .file named => ∀ p ∈ named, p.isAbsolute = true ∨ p = .empty
  | .fixLast => True

/-- A waiting call is about an absolute file, in an absolute directory. -/
structure Pending.Rooted (p : Pending) : Prop where
  file : p.file.isAbsolute = true
  workingDir : p.workingDir.isAbsolute = true

/-! ## The directory of a file -/

/-- A file that is admitted has a name. -/
theorem Admission.exists_fileName? {a : Admission} {p : Path} (h : a.admits p = true) :
    ∃ name, p.fileName? = some name := by
  cases hname : p.fileName? with
  | some name => exact ⟨name, rfl⟩
  | none => simp [admits, hasExtension, Path.extension?, hname] at h

theorem isAbsolute_workingDirFor {p : Path} {name : Bytes} (h : p.isAbsolute = true)
    (hname : p.fileName? = some name) : (workingDirFor p).isAbsolute = true := by
  obtain ⟨cs, hcs⟩ := Path.components_of_fileName? h hname
  exact Path.isAbsolute_of_components (components_workingDirFor hcs)

namespace Session

/-- The paths of a report that was read are absolute. -/
theorem rooted_of_readOutput {p : Pending} (hp : p.Rooted) {output : Except LintError String}
    {set : FileDiagnostics} (h : readOutput p output = .ok set) : set.Rooted := by
  obtain ⟨fs, rfl⟩ := group_of_readOutput h
  intro q hq
  obtain ⟨f, -, rfl⟩ := Report.mem_paths_group.mp hq
  rw [Report.Failure.path, Report.resolveName_some, Path.isAbsolute_normalize]
  exact Path.isAbsolute_join hp.workingDir _

/-- What a session remembers is absolute. -/
structure Rooted (x : Session) : Prop where
  last : ∀ p, x.lastProjectFile = some p → p.isAbsolute = true
  recorded : x.reconciler.published.Rooted

theorem IsNew.rooted {x : Session} (h : x.IsNew) : x.Rooted := by
  obtain ⟨sourceId, hstart⟩ := h.reconciler
  refine ⟨fun p hp => ?_, ?_⟩
  · rw [h.lastProjectFile] at hp
    cases hp
  · rw [hstart]
    exact fun p hp => absurd hp List.not_mem_nil

namespace Rooted

variable {x : Session}

/-- The file that a call is about is absolute if it is admitted. -/
theorem file (h : x.Rooted) {call : LintCall} (hcall : call.Rooted) {p : Path}
    (hfile : call.file? x = some p) (hadmits : x.admits p = true) : p.isAbsolute = true := by
  obtain ⟨name, hname⟩ := Admission.exists_fileName? hadmits
  have hne : p ≠ .empty := by
    rintro rfl
    cases hname
  cases call with
  | project named fix =>
      have hnamed : ∀ p ∈ named, p.isAbsolute = true ∨ p = .empty := hcall
      exact (hnamed p hfile).resolve_right hne
  | file named =>
      have hnamed : ∀ p ∈ named, p.isAbsolute = true ∨ p = .empty := hcall
      exact (hnamed p hfile).resolve_right hne
  | fixLast => exact h.last p hfile

theorem start (h : x.Rooted) (t : FileTree) {call : LintCall} (hcall : call.Rooted) :
    (x.start t call).1.Rooted ∧ ∀ p ∈ (x.start t call).2.pending, p.Rooted := by
  have hstarts := x.start_starts t call
  generalize (x.start t call).1 = x' at hstarts ⊢
  generalize (x.start t call).2 = started at hstarts ⊢
  have hpending : ∀ {file : Path} {severity : Bool} {ticket : Option Ticket}
      {invocation : Invocation}, call.file? x = some file → x.admits file = true →
      Pending.Rooted ⟨file, workingDirFor file, severity, ticket, invocation⟩ := by
    intro file _ _ _ hfile hadmits
    obtain ⟨name, hname⟩ := Admission.exists_fileName? hadmits
    have habsolute := h.file hcall hfile hadmits
    exact ⟨habsolute, isAbsolute_workingDirFor habsolute hname⟩
  cases hstarts with
  | skipped => exact ⟨h, fun p hp => absurd hp List.not_mem_nil⟩
  | @project file _ _ _ hfile hadmits _ hproject =>
      have hlast : ∀ p, some file = some p → p.isAbsolute = true := by
        rintro p ⟨⟩
        exact h.file hcall hfile hadmits
      cases hproject with
      | asks => exact ⟨⟨hlast, h.recorded⟩, List.forall_mem_singleton.mpr (hpending hfile hadmits)⟩
      | _ => exact ⟨⟨hlast, h.recorded⟩, fun p hp => absurd hp List.not_mem_nil⟩
  | file hfile hadmits _ hstarted =>
      cases hstarted with
      | asks => exact ⟨h, List.forall_mem_singleton.mpr (hpending hfile hadmits)⟩
      | _ => exact ⟨h, fun p hp => absurd hp List.not_mem_nil⟩

theorem finish (h : x.Rooted) {p : Pending} (hp : p.Rooted) (output : Except LintError String) :
    (x.finish p output).1.Rooted ∧
      ∀ s ∈ (x.finish p output).2.1, s.publication.path.isAbsolute = true := by
  obtain ⟨hsent, hrecorded⟩ := paths_finish (P := fun q => q.isAbsolute = true) h.recorded
    (fun _ hread => rooted_of_readOutput hp hread) (fun _ => hp.file)
  exact ⟨⟨by rw [lastProjectFile_finish]; exact h.last, hrecorded⟩, hsent⟩

theorem update (h : x.Rooted) {s : Settings} {y : Session} (hy : x.updateSettings s = .ok y) :
    y.Rooted := by
  obtain ⟨_, _, rfl⟩ := updateSettings_ok hy
  exact ⟨h.last, h.recorded⟩

end Rooted

/-- Whether an event starts no call or one whose file is absolute. -/
def Event.Rooted : Event → Prop
  | .start _ call => call.Rooted
  | _ => True

namespace Activity

/-- All paths in an activity are absolute. -/
structure Rooted (a : Activity) : Prop where
  session : a.session.Rooted
  waiting : ∀ p ∈ a.waiting, p.Rooted
  sent : ∀ s ∈ a.sent, s.publication.path.isAbsolute = true

namespace Rooted

variable {a : Activity}

theorem start {x : Session} (h : x.IsNew) : Rooted (start x) :=
  ⟨h.rooted, fun _ hp => absurd hp List.not_mem_nil, fun _ hs => absurd hs List.not_mem_nil⟩

theorem after (h : Rooted a) {e : Event} (he : e.Rooted) : Rooted (a.after e) := by
  cases e with
  | start t call =>
      obtain ⟨hsession, hpending⟩ := h.session.start t he
      exact ⟨hsession, List.forall_mem_append.mpr ⟨h.waiting, hpending⟩, h.sent⟩
  | answer i output =>
      cases hp : a.waiting[i]? with
      | none => rwa [after_answer_none output hp]
      | some p =>
          obtain ⟨hsession, hsent⟩ :=
            h.session.finish (h.waiting p (List.mem_of_getElem? hp)) output
          rw [after_answer output hp]
          exact ⟨hsession, fun q hq => h.waiting q (List.mem_of_mem_eraseIdx hq),
            List.forall_mem_append.mpr ⟨h.sent, hsent⟩⟩
  | update s =>
      rw [Activity.after]
      cases hy : a.session.updateSettings s with
      | error e => exact h
      | ok y => exact ⟨h.session.update hy, h.waiting, h.sent⟩

theorem foldl_after (h : Rooted a) {events : List Event} (hevents : ∀ e ∈ events, e.Rooted) :
    Rooted (events.foldl Activity.after a) := by
  induction events generalizing a with
  | nil => exact h
  | cons e events ih =>
      obtain ⟨he, hevents⟩ := List.forall_mem_cons.mp hevents
      exact ih (h.after he) hevents

end Rooted

/-- A session that is asked for absolute files only has none but absolute paths. -/
theorem rooted_ofEvents {x : Session} (hnew : x.IsNew) {events : List Event}
    (hevents : ∀ e ∈ events, e.Rooted) : Rooted (ofEvents x events) :=
  (Rooted.start hnew).foldl_after hevents

end Activity
end Session
end LintRelay
