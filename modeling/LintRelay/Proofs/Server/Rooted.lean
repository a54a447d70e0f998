import LintRelay.Proofs.Server.Shown
import LintRelay.Proofs.Session.Rooted

/-!
# No publication is dropped

A publication whose path is not absolute has no URI, and the editor would never hear of it. There is
none: the files of documents come from URIs and are absolute or no files, so every call is made for
an absolute file (`Message.rooted_effect`), and from such calls only absolute paths come
(`Traffic.Rooted`). So the editor is told of every publication that it can hear of
(`no_publication_dropped`).
-/

namespace LintRelay
namespace Server

/-! ## What messages make of URIs -/

theorem rooted_bufferEvent (kind : BufferEventKind) (u : Uri) :
    (bufferEvent kind u).call.Rooted := by
  have hfile : ∀ p ∈ u.file?, p.isAbsolute = true ∨ p = .empty :=
    fun p hp => Uri.isAbsolute_of_file? hp
  cases kind <;> exact hfile

/-- Whether an effect spawns no call or one whose file is absolute. -/
def Effect.Rooted : Effect → Prop
  | .lint call => call.Rooted
  | _ => True

namespace Message

variable (m : Message)

theorem rooted_asNotification {α : Type} (decode : Json.Decoder α) {act : α → Effect}
    (h : ∀ a, (act a).Rooted) : (m.asNotification decode act).Rooted := by
  unfold asNotification
  split
  · exact h _
  · trivial

theorem rooted_asRequest {α : Type} (decode : Json.Decoder α) {act : α → Effect}
    (h : ∀ a, (act a).Rooted) : (m.asRequest decode act).Rooted := by
  unfold asRequest
  split
  · exact h _
  · trivial

theorem rooted_served (method : Method) : (m.served method).Rooted := by
  cases method with
  | didSave => exact m.rooted_asNotification _ fun u => rooted_bufferEvent .saved u
  | modeChanged => exact m.rooted_asNotification _ fun u => rooted_bufferEvent .modeChanged u
  | executeCommand =>
      refine m.rooted_asRequest _ fun command => ?_
      split <;> trivial
  | didChangeWatchedFiles =>
      refine m.rooted_asNotification _ fun us => ?_
      split <;> trivial
  | initialized | didOpen | didChange | didClose =>
      exact m.rooted_asNotification _ fun _ => trivial
  | _ => trivial

/-- No message spawns a call for a file that is not absolute. -/
theorem rooted_effect (phase : Phase) : (m.effect phase).Rooted := by
  unfold effect
  split
  · trivial
  · split
    · trivial
    · split
      · exact m.rooted_asRequest _ fun _ => trivial
      · trivial
    · split <;> trivial
    · trivial
    · trivial
    · split
      · exact m.rooted_served _
      · trivial

end Message

/-! ## Servers -/

/-- All paths in a server are absolute: those that are remembered, and those that calls will be
about. -/
structure Rooted (s : Server) : Prop where
  session : s.session.Rooted
  spawned : ∀ call ∈ s.spawned, call.Rooted
  waiting : ∀ p ∈ s.waiting, p.Rooted
  timers : ∀ timer ∈ s.timers, timer.event.call.Rooted

namespace Rooted

variable {s : Server}

theorem fresh : Rooted fresh where
  session := Session.IsNew.standard.rooted
  spawned _ h := absurd h List.not_mem_nil
  waiting _ h := absurd h List.not_mem_nil
  timers _ h := absurd h List.not_mem_nil

theorem spawn (h : Rooted s) {call : LintCall} (hcall : call.Rooted) : Rooted (s.spawn call) where
  session := h.session
  spawned := List.forall_mem_append.mpr ⟨h.spawned, List.forall_mem_singleton.mpr hcall⟩
  waiting := h.waiting
  timers := h.timers

theorem applySettings (h : Rooted s) (source : Except SettingsError Settings) :
    Rooted (s.applySettings source).1 := by
  unfold Server.applySettings
  split
  · exact h
  · split
    · rename_i hx
      exact ⟨h.session.update hx, h.spawned, h.waiting, h.timers⟩
    · exact h

theorem reloadSettings (h : Rooted s) (t : FileTree) : Rooted (s.reloadSettings t) := by
  unfold Server.reloadSettings
  split
  · exact h.applySettings _
  · exact h

theorem chooseSettings (h : Rooted s) (t : FileTree) (options : Option Json) :
    Rooted (s.chooseSettings t options) := by
  unfold Server.chooseSettings
  dsimp only
  split
  · rename_i o _
    have happlied := h.applySettings (Settings.ofJson o)
    split
    · rename_i heq
      rwa [heq] at happlied
    · rename_i heq
      rw [heq] at happlied
      exact happlied.reloadSettings t
  · exact h.reloadSettings t

/-- A message leaves no path that is not absolute. -/
theorem apply (h : Rooted s) (t : FileTree) {e : Effect} (he : e.Rooted) :
    Rooted (e.apply s t) := by
  cases e with
  | nothing | greeting | closed => exact ⟨h.session, h.spawned, h.waiting, h.timers⟩
  | shutDown | exit => exact ⟨h.session, h.spawned, h.waiting, h.timers⟩
  | setUp i =>
      have hroot : Rooted { s with root := ((i.rootUri <|> (i.folders.getD []).head?).bind
          Uri.file?) <|> s.root } := ⟨h.session, h.spawned, h.waiting, h.timers⟩
      have hchosen := hroot.chooseSettings t i.options
      exact ⟨hchosen.session, hchosen.spawned, hchosen.waiting, hchosen.timers⟩
  | opened u version =>
      have htracked : Rooted (s.track u version) := ⟨h.session, h.spawned, h.waiting, h.timers⟩
      exact htracked.spawn (rooted_bufferEvent .entered u)
  | changed u version =>
      refine ⟨h.session, h.spawned, h.waiting, ?_⟩
      exact List.forall_mem_append.mpr
        ⟨h.timers, List.forall_mem_singleton.mpr (rooted_bufferEvent .changed u)⟩
  | lint call => exact h.spawn he
  | reload => exact h.reloadSettings t

theorem startCall (h : Rooted s) (t : FileTree) (i : Nat) : Rooted (s.startCall t i) := by
  unfold Server.startCall
  split
  · exact h
  · rename_i call hcall
    have hspawned : ∀ call ∈ s.spawned.eraseIdx i, call.Rooted :=
      fun call hcall => h.spawned call (List.mem_of_mem_eraseIdx hcall)
    obtain ⟨hsession, hpending⟩ := h.session.start t (h.spawned call (List.mem_of_getElem? hcall))
    dsimp only
    generalize s.session.start t call = result at hsession hpending
    obtain ⟨x, started⟩ := result
    cases started with
    | ended result => exact ⟨hsession, hspawned, h.waiting, h.timers⟩
    | waiting p =>
        exact ⟨hsession, hspawned, List.forall_mem_append.mpr ⟨h.waiting, hpending⟩, h.timers⟩

theorem expire (h : Rooted s) (i : Nat) : Rooted (s.expire i) := by
  unfold Server.expire
  split
  · exact h
  · rename_i timer htimer
    have hrest : Rooted { s with timers := s.timers.eraseIdx i } :=
      ⟨h.session, h.spawned, h.waiting, fun x hx => h.timers x (List.mem_of_mem_eraseIdx hx)⟩
    dsimp only
    split
    · exact hrest.spawn (h.timers timer (List.mem_of_getElem? htimer))
    · exact hrest

end Rooted

/-! ## Servers at work -/

namespace Traffic

open Session.Activity (configAlone)

/-- All paths in a server at work are absolute, and all that were sent. -/
structure Rooted (c : Traffic) : Prop where
  server : c.server.Rooted
  queue : ∀ result ∈ c.queue, result.1.Rooted ∧ result.2.Rooted
  publishing : ∀ x, c.publishing = some x →
    (∀ q ∈ x.rest, q.path.isAbsolute = true) ∧ x.record.Rooted
  log : ∀ d ∈ c.log, d.sent.publication.path.isAbsolute = true

namespace Rooted

variable {c : Traffic}

theorem start : Rooted start where
  server := .fresh
  queue _ h := absurd h List.not_mem_nil
  publishing _ h := by cases h
  log _ h := absurd h List.not_mem_nil

theorem answer (h : Rooted c) (i : Nat) (output : Except LintError String) :
    Rooted (c.answer i output) := by
  unfold Traffic.answer
  split
  · exact h
  · rename_i p hp
    have hpending := h.server.waiting p (List.mem_of_getElem? hp)
    have hserver : Server.Rooted { c.server with waiting := c.server.waiting.eraseIdx i } :=
      ⟨h.server.session, h.server.spawned,
        fun q hq => h.server.waiting q (List.mem_of_mem_eraseIdx hq), h.server.timers⟩
    dsimp only
    split
    · exact ⟨hserver, h.queue, h.publishing, h.log⟩
    · rename_i set hread
      have hresult := Session.rooted_of_readOutput hpending hread
      exact ⟨hserver, List.forall_mem_append.mpr
        ⟨h.queue, List.forall_mem_singleton.mpr ⟨hpending, hresult⟩⟩, h.publishing, h.log⟩

theorem enter (h : Rooted c) (i : Nat) : Rooted (c.enter i) := by
  rcases c.enter_cases i with hkept | ⟨p, set, hfree, hi⟩
  · rwa [hkept]
  · obtain ⟨hp, hset⟩ := h.queue _ (List.mem_of_getElem? hi)
    obtain ⟨hsent, hrecord⟩ := Session.paths_publish (P := fun q => q.isAbsolute = true)
      h.server.session.recorded hset (fun _ => hp.file)
    rw [enter_eq hfree hi]
    refine ⟨h.server, fun r hr => h.queue r (List.mem_of_mem_eraseIdx hr), ?_, h.log⟩
    rintro x ⟨⟩
    refine ⟨fun q hq => ?_, hrecord⟩
    obtain ⟨s, hs, rfl⟩ := List.mem_map.mp hq
    exact hsent s hs

theorem tell (h : Rooted c) : Rooted c.tell := by
  rcases c.tell_cases with hkept | ⟨q, rest, record, generation, hpublishing⟩
  · rwa [hkept]
  · obtain ⟨hrest, hrecord⟩ := h.publishing _ hpublishing
    obtain ⟨hq, hrest⟩ := List.forall_mem_cons.mp hrest
    rw [tell_eq hpublishing]
    refine ⟨h.server, h.queue, ?_,
      List.forall_mem_append.mpr ⟨h.log, List.forall_mem_singleton.mpr hq⟩⟩
    rintro x ⟨⟩
    exact ⟨hrest, hrecord⟩

theorem leave (h : Rooted c) : Rooted c.leave := by
  rcases c.leave_cases with hkept | ⟨record, generation, hpublishing⟩
  · rwa [hkept]
  · have hrecord := (h.publishing _ hpublishing).2
    rw [leave_eq hpublishing]
    refine ⟨⟨⟨h.server.session.last, hrecord⟩, h.server.spawned, h.server.waiting,
      h.server.timers⟩, h.queue, ?_, h.log⟩
    rintro x ⟨⟩

theorem after (h : Rooted c) (e : Event) : Rooted (c.after e) := by
  cases e with
  | message t m =>
      have hserver : (c.server.receive t m).server.Rooted := by
        rw [server_receive]
        exact h.server.apply t (m.rooted_effect _)
      exact ⟨hserver, h.queue, h.publishing, h.log⟩
  | start t i => exact ⟨h.server.startCall t i, h.queue, h.publishing, h.log⟩
  | expiry i => exact ⟨h.server.expire i, h.queue, h.publishing, h.log⟩
  | answer i output => exact h.answer i output
  | enter i => exact h.enter i
  | tell => exact h.tell
  | leave => exact h.leave

theorem run (h : Rooted c) (events : List Event) : Rooted (c.run events) := by
  induction events generalizing c with
  | nil => exact h
  | cons e events ih => exact ih (h.after e)

end Rooted

theorem rooted_ofEvents (events : List Event) : Rooted (ofEvents events) :=
  Rooted.start.run events

/-! ## What is told -/

/-- An absolute path has a URI, so what is sent for it becomes a notification. -/
theorem isSome_publication? {s : Sent} (h : s.publication.path.isAbsolute = true) :
    (publication? s).isSome = true := by
  rw [publication?, Uri.ofFile?_of_isAbsolute h]
  rfl

/-- Of publications with absolute paths, each is told. -/
theorem shows?_of_rooted {log : List Delivery}
    (h : ∀ d ∈ log, d.sent.publication.path.isAbsolute = true) :
    (log.filterMap fun d => (publication? d.sent).bind (·.shows?)).map
        (fun shows => (some shows.1, shows.2)) =
      log.map fun d => (Uri.ofFile? d.sent.publication.path, converted d.sent) := by
  induction log with
  | nil => rfl
  | cons d log ih =>
      obtain ⟨hd, hlog⟩ := List.forall_mem_cons.mp h
      obtain ⟨u, hu⟩ : ∃ u, Uri.ofFile? d.sent.publication.path = some u :=
        ⟨_, Uri.ofFile?_of_isAbsolute hd⟩
      have hshows : (publication? d.sent).bind (·.shows?) = some (u, converted d.sent) := by
        rw [shows?_publication, hu, Option.map_some]
      rw [List.filterMap_cons, hshows, List.map_cons, ih hlog, List.map_cons, hu]

/-- **No publication is dropped.** A session that is asked for absolute files sends and records
absolute paths only, whatever the settings, the files and the output of the linter are, and in
whichever order calls start and end. So does the session of a server, whatever messages come: every
publication has a URI, and the editor is told of exactly those it can hear of, in order. -/
theorem no_publication_dropped (x : Session) (hnew : x.IsNew) (calls : List Session.Event)
    (hcalls : ∀ e ∈ calls, e.Rooted) (events : List Event) :
    let a := Session.Activity.ofEvents x calls
    let c := ofEvents events
    (∀ s ∈ a.sent, s.publication.path.isAbsolute = true ∧ (publication? s).isSome = true) ∧
    (∀ p ∈ a.session.reconciler.published.paths, p.isAbsolute = true) ∧
    (∀ d ∈ c.log, d.sent.publication.path.isAbsolute = true ∧
      (publication? d.sent).isSome = true) ∧
    (∀ p ∈ c.record.paths, p.isAbsolute = true) ∧
    (c.notices.filterMap (·.shows?)).map (fun shows => (some shows.1, shows.2)) =
      (c.log.filter (·.heard)).map fun d =>
        (Uri.ofFile? d.sent.publication.path, converted d.sent) := by
  intro a c
  have ha : a.Rooted := Session.Activity.rooted_ofEvents hnew hcalls
  have hc : c.Rooted := rooted_ofEvents events
  refine ⟨fun s hs => ⟨ha.sent s hs, isSome_publication? (ha.sent s hs)⟩, ha.session.recorded,
    fun d hd => ⟨hc.log d hd, isSome_publication? (hc.log d hd)⟩, hc.server.session.recorded, ?_⟩
  rw [(faithful_ofEvents events).told]
  exact shows?_of_rooted fun d hd => hc.log d (List.mem_filter.mp hd).1

/-- A report of one failure in a file. -/
def failureIn (name : String) : String :=
  "[\x7b\"ruleName\":\"r\",\"failure\":\"f\",\"name\":\"" ++ name ++
    "\",\"startPosition\":\x7b\"line\":0,\"character\":0\x7d," ++
    "\"endPosition\":\x7b\"line\":0,\"character\":1\x7d\x7d]"

/-- The project of a file is linted, and the report names a file that is above the root. -/
def climbingReport : List Session.Event := [
  .start configAlone (.project (some (.ofString "/p/q/a.js")) false),
  .answer 0 (.ok (failureIn "../../../x.js"))]

/-- A file at the root is opened and linted, and the report names no file. -/
def namelessReport : List Event := [
  .message configAlone (.setUp rootFileUri .null),
  .message configAlone (.didOpen rootFileUri 1 ""),
  .start configAlone 0,
  .answer 0 (.ok (failureIn "")),
  .enter 0,
  .tell,
  .leave]

theorem sent_climbingReport :
    (Session.Activity.ofEvents .standard climbingReport).sent.map (·.publication.path) =
      [.ofString "/../x.js"] := by
  decide +kernel

theorem heard_namelessReport :
    ((ofEvents namelessReport).log.filter (·.heard)).map
      (fun d => Uri.ofFile? d.sent.publication.path) = [some "file:///"] := by
  decide +kernel

/-- A name that climbs over the root stays absolute, and an empty one gets the URI of the
directory. -/
theorem no_publication_dropped_climbing :
    Session.standard.IsNew ∧ (∀ e ∈ climbingReport, e.Rooted) ∧
    (Session.Activity.ofEvents .standard climbingReport).sent.map (·.publication.path) =
      [.ofString "/../x.js"] ∧
    (∀ s ∈ (Session.Activity.ofEvents .standard climbingReport).sent,
      (publication? s).isSome = true) ∧
    ((ofEvents namelessReport).notices.filterMap (·.shows?)).map (some ·.1) =
      [some "file:///"] := by
  have hcalls : ∀ e ∈ climbingReport, e.Rooted := by
    have hcall : LintCall.Rooted (.project (some (.ofString "/p/q/a.js")) false) := by
      rintro p ⟨⟩
      exact .inl (by decide)
    exact List.forall_mem_cons.mpr ⟨hcall, List.forall_mem_singleton.mpr trivial⟩
  obtain ⟨hsent, -, -, -, htold⟩ :=
    no_publication_dropped .standard .standard climbingReport hcalls namelessReport
  have huris := congrArg (List.map Prod.fst) htold
  rw [List.map_map, List.map_map] at huris
  exact ⟨.standard, hcalls, sent_climbingReport, fun s hs => (hsent s hs).2,
    huris.trans heard_namelessReport⟩

end Traffic
end Server
end LintRelay
