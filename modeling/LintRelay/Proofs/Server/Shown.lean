import LintRelay.Proofs.Server.Editor
import LintRelay.Proofs.Server.Traffic
import LintRelay.Proofs.Session.Keys
import LintRelay.Proofs.Uri.File

/-!
# What the editor shows

The editor shows for a file what the last notification about it said. Nothing is linted before the
server is initialized (`eq_start_of_uninitialized`), and all that is sent is heard until it exits, so
the editor shows for each file what is recorded for it (`editor_shows_record`).
-/

namespace LintRelay
namespace Server

/-- The file and the diagnostics that a notification tells to show. -/
def Notice.shows? (n : Notice) : Option (String × List Json) :=
  if n.method == "textDocument/publishDiagnostics" then
    match n.params.get? "uri", n.params.get? "diagnostics" with
    | some (.string u), some (.array ds) => some (u, ds)
    | _, _ => none
  else none

/-- What the editor shows for a URI: the diagnostics of the last notification about it, and none
without one. -/
def shown (u : String) (notices : List Notice) : List Json :=
  match (notices.filterMap (·.shows?)).reverse.find? (·.1 == u) with
  | some x => x.2
  | none => []

/-- Diagnostics as they are sent. -/
def converted (s : Sent) : List Json :=
  s.publication.diagnostics.map (diagnosticJson s.sourceId)

theorem ofMembers_publication (u diagnostics : Json) :
    Json.ofMembers [("uri", u), ("diagnostics", diagnostics)] =
      .object [("diagnostics", diagnostics), ("uri", u)] := by
  have hsorted : "diagnostics" < "uri" := by decide
  exact congrArg Json.object (if_pos hsorted)

/-- What is sent for a path is shown for its URI. -/
theorem shows?_publication (s : Sent) :
    (publication? s).bind (·.shows?) =
      (Uri.ofFile? s.publication.path).map fun u => (u, converted s) := by
  unfold publication?
  cases Uri.ofFile? s.publication.path with
  | none => rfl
  | some u =>
      simp only [ofMembers_publication]
      rfl

namespace Traffic

open Session.Activity

/-- Everything that was sent, whether the editor heard of it or not. -/
def sent (c : Traffic) : List Sent := c.log.map (·.sent)

/-- The last publication for a path. -/
def last? (c : Traffic) (p : Path) : Option Delivery := c.log.reverse.find? (·.sent.isFor p)

/-- Everything sent is recorded, or will be when what is still to be sent is sent. -/
def Agreed (c : Traffic) : Prop :=
  match c.publishing with
  | none => Agrees c.sent c.record
  | some x => ∀ more : List Sent, more.map (·.publication) = x.rest →
      Agrees (c.sent ++ more) x.record

/-- What holds at work: a server that is not initialized is as it started, record and publications
agree, all that was sent is heard until the server exits, and the editor is told what it hears of. -/
structure Faithful (c : Traffic) : Prop where
  begun : c.server.phase = .uninitialized → c = start
  agreed : c.Agreed
  heard : c.server.phase ≠ .exited → ∀ d ∈ c.log, d.heard = true
  told : c.notices.filterMap (·.shows?) =
    (c.log.filter (·.heard)).filterMap fun d => (publication? d.sent).bind (·.shows?)

namespace Faithful

variable {c : Traffic}

theorem start : Faithful start :=
  ⟨fun _ => rfl, Agrees.start, fun _ _ hd => absurd hd List.not_mem_nil, rfl⟩

/-- A step that neither sends nor replaces the record keeps all this. -/
theorem frame (h : Faithful c) (e : Event) (log : (c.after e).log = c.log)
    (publishing : (c.after e).publishing = c.publishing) (record : (c.after e).record = c.record)
    (notices : (c.after e).notices.filterMap (·.shows?) = c.notices.filterMap (·.shows?)) :
    Faithful (c.after e) where
  begun := eq_start_after h.begun e
  agreed := by
    have hagreed := h.agreed
    unfold Agreed sent at hagreed ⊢
    rwa [publishing, log, record]
  heard := by
    intro hphase
    rw [log]
    refine h.heard fun hexited => hphase ?_
    exact exited_after hexited e
  told := by rw [notices, log, h.told]

theorem message (h : Faithful c) (t : FileTree) (m : Message) :
    Faithful (c.after (.message t m)) := by
  refine h.frame (.message t m) rfl rfl (record_receive c.server t m) ?_
  have hsilent : (c.server.receive t m).notices.filterMap (·.shows?) = [] := by
    rw [notices_receive]
    cases m.effect c.server.phase with
    | greeting =>
        show (c.server.notify [greeting]).filterMap _ = []
        unfold notify
        split <;> rfl
    | _ => rfl
  show (c.notices ++ (c.server.receive t m).notices).filterMap _ = _
  rw [List.filterMap_append, hsilent, List.append_nil]

theorem startCall (h : Faithful c) (t : FileTree) (i : Nat) : Faithful (c.after (.start t i)) :=
  h.frame (.start t i) rfl rfl (record_startCall c.server t i) rfl

theorem expire (h : Faithful c) (i : Nat) : Faithful (c.after (.expiry i)) := by
  refine h.frame (.expiry i) rfl rfl ?_ rfl
  show (c.server.expire i).session.reconciler.published = c.record
  rw [expire_eq]
  rfl

theorem answer (h : Faithful c) (i : Nat) (output : Except LintError String) :
    Faithful (c.after (.answer i output)) := by
  have hafter : c.after (.answer i output) = _ := c.answer_eq_self i output
  refine h.frame (.answer i output) ?_ ?_ ?_ ?_ <;> rw [hafter]
  rfl

/-- What a result that gets the lock will send brings the display to the record to come. -/
theorem enter (h : Faithful c) (i : Nat) : Faithful (c.after (.enter i)) := by
  rcases c.enter_cases i with hkept | ⟨p, set, hfree, hi⟩
  · show Faithful (c.enter i)
    rwa [hkept]
  · have hafter : c.after (.enter i) = _ := enter_eq hfree hi
    have hbegun := eq_start_after h.begun (.enter i)
    rw [hafter] at hbegun ⊢
    refine ⟨hbegun, ?_, h.heard, h.told⟩
    -- the source may have another name by the time of sending: only publications are compared
    intro more hmore q
    have hagreed := h.agreed
    rw [Agreed, hfree] at hagreed
    rw [← agrees_publish hagreed p set q]
    apply displayed_congr
    rw [List.map_append, List.map_append, hmore]
    rfl

/-- A server that publishes something is initialized and has all that it sends heard until it
exits. -/
theorem sends (h : Faithful c) (hbusy : c.publishing ≠ none) (hphase : c.server.phase ≠ .exited) :
    c.server.phase.sends = true := by
  cases hnow : c.server.phase with
  | uninitialized => exact absurd (congrArg Traffic.publishing (h.begun hnow)) hbusy
  | exited => exact absurd hnow hphase
  | initialized | shutDown => rfl

/-- A publication is heard of if the server notifies, and then the editor is told. -/
theorem tell (h : Faithful c) : Faithful (c.after .tell) := by
  rcases c.tell_cases with hkept | ⟨q, rest, record, generation, hpublishing⟩
  · show Faithful c.tell
    rwa [hkept]
  · have hafter : c.after .tell = _ := tell_eq hpublishing
    have hbegun := eq_start_after h.begun .tell
    rw [hafter] at hbegun ⊢
    refine ⟨hbegun, ?_, ?_, ?_⟩
    · intro more hmore
      have hagreed := h.agreed
      rw [Agreed, hpublishing] at hagreed
      have hnext := hagreed (⟨c.server.session.reconciler.sourceId, q⟩ :: more)
        (congrArg (q :: ·) hmore)
      simpa [sent] using hnext
    · intro hphase d hd
      rcases List.mem_append.mp hd with hold | hnew
      · exact h.heard hphase d hold
      · rw [List.mem_singleton.mp hnew]
        exact h.sends (by simp [hpublishing]) hphase
    · dsimp only
      rw [List.filterMap_append, List.filter_append, List.filterMap_append, h.told]
      unfold notify
      cases hsends : c.server.phase.sends with
      | false => rfl
      | true =>
          cases hnotice : publication? ⟨c.server.session.reconciler.sourceId, q⟩ <;>
            simp [hnotice, List.filterMap_cons]

/-- When all is sent, what was to be recorded is recorded. -/
theorem leave (h : Faithful c) : Faithful (c.after .leave) := by
  rcases c.leave_cases with hkept | ⟨record, generation, hpublishing⟩
  · show Faithful c.leave
    rwa [hkept]
  · have hafter : c.after .leave = _ := leave_eq hpublishing
    have hbegun := eq_start_after h.begun .leave
    rw [hafter] at hbegun ⊢
    refine ⟨hbegun, ?_, h.heard, h.told⟩
    have hagreed := h.agreed
    rw [Agreed, hpublishing] at hagreed
    have hall := hagreed [] rfl
    rwa [List.append_nil] at hall

theorem after (h : Faithful c) (e : Event) : Faithful (c.after e) := by
  cases e with
  | message t m => exact h.message t m
  | start t i => exact h.startCall t i
  | expiry i => exact h.expire i
  | answer i output => exact h.answer i output
  | enter i => exact h.enter i
  | tell => exact h.tell
  | leave => exact h.leave

theorem run (h : Faithful c) (events : List Event) : Faithful (c.run events) := by
  induction events generalizing c with
  | nil => exact h
  | cons e events ih => exact ih (h.after e)

end Faithful

theorem faithful_ofEvents (events : List Event) : Faithful (ofEvents events) :=
  Faithful.start.run events

/-- Until a server is initialized, nothing is linted: it is as it started. -/
theorem eq_start_of_uninitialized (events : List Event)
    (h : (ofEvents events).server.phase = .uninitialized) : ofEvents events = start :=
  (faithful_ofEvents events).begun h

/-! ## What is shown -/

/-- What is shown for the URI of a path is the last publication for the path, and nothing without
one. -/
theorem Faithful.shown_eq {c : Traffic} (h : Faithful c) (hphase : c.server.phase ≠ .exited)
    {p : Path} {u : String} (hp : p.isAbsolute = true) (hu : Uri.ofFile? p = some u) :
    shown u c.notices =
      match c.last? p with
      | some d => converted d.sent
      | none => [] := by
  let entry : Delivery → Option (String × List Json) := fun d =>
    (Uri.ofFile? d.sent.publication.path).map fun u => (u, converted d.sent)
  -- a notification is about the URI of `p` exactly if it was sent for a spelling of `p`
  have hfits : ∀ d, (entry d).any (·.1 == u) = d.sent.isFor p := by
    intro d
    have hkey := Uri.ofFile?_eq_iff (q := d.sent.publication.path) hp
    rw [hu, ← Path.same_iff] at hkey
    rw [Bool.eq_iff_iff, Sent.isFor, ← hkey]
    cases hfile : Uri.ofFile? d.sent.publication.path <;> simp [entry, hfile]
  have hentries : c.notices.filterMap (·.shows?) = c.log.filterMap entry := by
    rw [h.told, List.filter_eq_self.mpr (h.heard hphase)]
    congr
    funext d
    exact shows?_publication d.sent
  unfold shown last?
  rw [hentries, ← List.filterMap_reverse, List.find?_filterMap]
  simp only [hfits]
  cases hlast : c.log.reverse.find? (·.sent.isFor p) with
  | none => rfl
  | some d =>
      have hfor := List.find?_some hlast
      have hany : (entry d).any (·.1 == u) = true := (hfits d).trans hfor
      rw [Option.bind_some]
      cases hentry : entry d with
      | none => exact absurd hany (by simp [hentry])
      | some x =>
          obtain ⟨w, -, rfl⟩ := Option.map_eq_some_iff.mp hentry
          rfl

theorem displayed_sent (c : Traffic) (p : Path) :
    displayed c.sent p = ((c.last? p).map (·.sent.publication.diagnostics)).getD [] := by
  have hlast : c.sent.reverse.find? (·.isFor p) = (c.last? p).map (·.sent) := by
    unfold sent
    rw [← List.map_reverse, List.find?_map]
    rfl
  unfold displayed
  rw [hlast]
  cases c.last? p <;> rfl

/-- **The editor shows what is recorded.** In an initialized server that is not publishing, the last
publication for an absolute path was heard and carries what is recorded for the path, and the editor
shows just this, in order, under the name that it was sent under. A path of which nothing was
published has nothing recorded and nothing shown. That a buffer is shown in another mode leaves a
server that is not initialized as it is. -/
theorem editor_shows_record (events : List Event) :
    let c := ofEvents events
    (c.server.phase ≠ .initialized → ∀ (t : FileTree) (m : Message),
      Method.ofName? m.method = some .modeChanged → c.after (.message t m) = c) ∧
    (c.server.phase = .initialized → c.publishing = none → ∀ p : Path, p.isAbsolute = true →
      ∃ u, Uri.ofFile? p = some u ∧
        ((c.last? p = none ∧ c.record.listAt p = [] ∧ shown u c.notices = []) ∨
          ∃ d, c.last? p = some d ∧ d.heard = true ∧
            d.sent.publication.diagnostics = c.record.listAt p ∧
            shown u c.notices = (c.record.listAt p).map (diagnosticJson d.sent.sourceId))) := by
  intro c
  refine ⟨fun hphase t m hmethod => after_of_nothing (m.effect_modeChanged hmethod hphase) t, ?_⟩
  intro hphase hidle p hp
  have h : Faithful c := faithful_ofEvents events
  have hnotExited : c.server.phase ≠ .exited := by simp [hphase]
  have hrecord : displayed c.sent p = c.record.listAt p := by
    have hagreed := h.agreed
    rw [Agreed, hidle] at hagreed
    exact hagreed p
  have hshown := h.shown_eq hnotExited hp (Uri.ofFile?_of_isAbsolute hp)
  rw [displayed_sent] at hrecord
  refine ⟨_, Uri.ofFile?_of_isAbsolute hp, ?_⟩
  cases hlast : c.last? p with
  | none =>
      rw [hlast] at hrecord hshown
      exact .inl ⟨rfl, hrecord.symm, hshown⟩
  | some d =>
      rw [hlast] at hrecord hshown
      have hsent : d ∈ c.log := List.mem_reverse.mp (List.mem_of_find?_eq_some hlast)
      refine .inr ⟨d, rfl, h.heard hnotExited d hsent, hrecord, ?_⟩
      rw [hshown, ← hrecord]
      rfl

theorem method_modeChanged (u : String) :
    Method.ofName? (Message.modeChanged u).method = some .modeChanged :=
  rfl

theorem ofFile?_rootFile : Uri.ofFile? (.ofString "/a.js") = some rootFileUri := by decide +kernel

/-- A buffer is shown in another mode before the server is initialized. -/
def earlyMode : List Event := [
  .message configAlone (.modeChanged rootFileUri),
  .start configAlone 0]

/-- The same after the server is initialized. -/
def lateMode : List Event := .message configAlone (.setUp rootFileUri .null) :: earlyMode

/-- That a buffer is shown in another mode runs no linter before the server is initialized, and
runs it after. -/
theorem no_lint_before_setUp :
    Method.ofName? (Message.modeChanged rootFileUri).method = some .modeChanged ∧
      (ofEvents earlyMode).server.waiting.length = 0 ∧
      (ofEvents earlyMode).server.spawned.length = 0 ∧
      (ofEvents lateMode).server.waiting.length = 1 := by
  refine ⟨method_modeChanged _, ?_⟩
  decide +kernel

/-- After that, the file is opened and linted. -/
def openedFile : List Event := earlyMode ++ [
  .message configAlone (.setUp rootFileUri .null),
  .message configAlone (.didOpen rootFileUri 1 ""),
  .start configAlone 0,
  .answer 0 (.ok oneFailure),
  .enter 0,
  .tell,
  .leave]

theorem end_openedFile :
    (ofEvents openedFile).server.phase = .initialized ∧
      (ofEvents openedFile).publishing.isNone = true ∧
      ((ofEvents openedFile).record.listAt (.ofString "/a.js")).length = 1 ∧
      ((ofEvents openedFile).last? (.ofString "/a.js")).isSome = true := by
  decide +kernel

/-- The editor shows the one problem of the file. -/
theorem editor_shows_record_openedFile :
    (ofEvents []).server.phase ≠ .initialized ∧
      Method.ofName? (Message.modeChanged rootFileUri).method = some .modeChanged ∧
      start.after (.message configAlone (.modeChanged rootFileUri)) = start ∧
      (ofEvents openedFile).server.phase = .initialized ∧ (ofEvents openedFile).publishing = none ∧
      (Path.ofString "/a.js").isAbsolute = true ∧
      ((ofEvents openedFile).record.listAt (.ofString "/a.js")).length = 1 ∧
      ∃ sourceId, shown rootFileUri (ofEvents openedFile).notices =
        ((ofEvents openedFile).record.listAt (.ofString "/a.js")).map (diagnosticJson sourceId) := by
  obtain ⟨hphase, hidle, hlength, hlast⟩ := end_openedFile
  have hidle := Option.isNone_iff_eq_none.mp hidle
  have habsolute : (Path.ofString "/a.js").isAbsolute = true := by decide
  have hstart : (ofEvents []).server.phase ≠ .initialized := by decide
  have hmethod := method_modeChanged rootFileUri
  have hkept := (editor_shows_record []).1 hstart configAlone (.modeChanged rootFileUri) hmethod
  obtain ⟨u, hu, hshown⟩ := (editor_shows_record openedFile).2 hphase hidle _ habsolute
  obtain rfl : rootFileUri = u := Option.some.inj (ofFile?_rootFile.symm.trans hu)
  refine ⟨hstart, hmethod, hkept, hphase, hidle, habsolute, hlength, ?_⟩
  rcases hshown with ⟨hnone, -⟩ | ⟨d, -, -, -, hshown⟩
  · exact absurd hlast (by simp [hnone])
  · exact ⟨_, hshown⟩

end Traffic
end Server
end LintRelay
