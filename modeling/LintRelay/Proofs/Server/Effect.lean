import LintRelay.Proofs.Session.Halves
import LintRelay.Server.Basic

/-!
# What messages come to

Handling a message changes the server in one of few ways, whatever the message is called and however
its parameters are written. `Message.effect` says in which, from the message and the phase alone;
`server_receive` and `notices_receive` say that this is all that handling does besides answering.
Later proofs go by the cases of `Effect` and do not open `Server.receive`. A server that is not
initialized is set up, exits or stays as it is (`Message.effect_of_not_initialized`).
-/

namespace LintRelay
namespace Server

/-- What handling a message comes to, apart from the answer. -/
inductive Effect where
  | nothing
  | greeting
  | setUp (i : Initialization)
  | shutDown
  | exit
  | opened (u : Uri) (version : Int)
  | changed (u : Uri) (version : Int)
  | closed (u : Uri)
  | lint (call : LintCall)
  | reload

/-- What a notification comes to. As a request, or with bad parameters, it comes to nothing. -/
def Message.asNotification (m : Message) (decode : Json.Decoder α) (act : α → Effect) : Effect :=
  match m.id, Server.params decode m with
  | none, .ok a => act a
  | _, _ => .nothing

/-- What a request comes to. As a notification, or with bad parameters, it comes to nothing. -/
def Message.asRequest (m : Message) (decode : Json.Decoder α) (act : α → Effect) : Effect :=
  match m.id, Server.params decode m with
  | some _, .ok a => act a
  | _, _ => .nothing

/-- What a message comes to by a method that is served only while the server is initialized. -/
def Message.served (m : Message) : Method → Effect
  | .initialized => m.asNotification initializedParams.decoder fun _ => .greeting
  | .didOpen => m.asNotification openParams.decoder fun d => .opened d.1 d.2
  | .didChange => m.asNotification changeParams.decoder fun d => .changed d.1 d.2
  | .didSave => m.asNotification saveParams.decoder fun u => .lint (bufferEvent .saved u).call
  | .didClose => m.asNotification closeParams.decoder .closed
  | .modeChanged => m.asNotification modeParams.decoder fun u =>
    .lint (bufferEvent .modeChanged u).call
  | .didChangeWatchedFiles => m.asNotification watchedFilesParams.decoder fun us =>
    if us.any namesSettings then .reload else .nothing
  | .executeCommand => m.asRequest commandParams.decoder fun command =>
    if command == fixCommand then .lint .fixLast else .nothing
  | _ => .nothing

/-- What a message comes to in a phase. The server is set up once, and lints nothing before. -/
def Message.effect (m : Message) (phase : Phase) : Effect :=
  if phase == .exited then .nothing
  else
    match Method.ofName? m.method with
    | none => .nothing
    | some .setUp =>
      if phase == .uninitialized then m.asRequest initializeParams.decoder .setUp else .nothing
    | some .shutdown => if phase == .initialized then .shutDown else .nothing
    | some .exit => .exit
    | some .cancel => .nothing
    | some method => if phase == .initialized then m.served method else .nothing

namespace Effect

/-- The server after an effect. -/
def apply (s : Server) (t : FileTree) : Effect → Server
  | .nothing | .greeting => s
  | .setUp i => { s.setUp t i with phase := .initialized }
  | .shutDown => { s with phase := .shutDown }
  | .exit => { s with phase := .exited }
  | .opened u version => (s.track u version).spawn (bufferEvent .entered u).call
  | .changed u version => (s.track u version).setTimer u version
  | .closed u => s.forget u
  | .lint call => s.spawn call
  | .reload => s.reloadSettings t

/-- What the editor is told besides the answer. -/
def notices (s : Server) : Effect → List Notice
  | .greeting => s.notify [Server.greeting]
  | _ => []

/-- The phase after an effect. -/
def phase (before : Phase) : Effect → Phase
  | .setUp _ => .initialized
  | .shutDown => .shutDown
  | .exit => .exited
  | _ => before

/-- A reaction is what an effect leaves and tells. -/
def Explains (e : Effect) (s : Server) (t : FileTree) (r : Reaction) : Prop :=
  r.server = e.apply s t ∧ r.notices = e.notices s

end Effect

/-! ## Handling has its effect -/

section Handling

variable {s : Server} {t : FileTree} {m : Message}

theorem explains_quietly : Effect.nothing.Explains s t s.quietly := ⟨rfl, rfl⟩

theorem explains_notification {α : Type} {decode : Json.Decoder α} {act : α → Effect}
    {react : α → Reaction} (h : ∀ a, (act a).Explains s t (react a)) :
    (m.asNotification decode act).Explains s t (s.onNotification m decode react) := by
  unfold Message.asNotification onNotification
  cases m.id with
  | some id => exact ⟨rfl, rfl⟩
  | none =>
      cases params decode m with
      | ok a => exact h a
      | error e => exact explains_quietly

/-- A notification that nothing is done for. -/
theorem explains_passed : Effect.nothing.Explains s t (s.onNotification m .any fun _ => s.quietly) := by
  unfold onNotification
  cases m.id with
  | some id => exact ⟨rfl, rfl⟩
  | none => cases params .any m <;> exact explains_quietly

theorem explains_request {α : Type} {decode : Json.Decoder α} {act : α → Effect}
    {respond : α → Server × Except Refusal Json}
    (hserver : ∀ a, (respond a).1 = (act a).apply s t) (hsilent : ∀ a, (act a).notices s = []) :
    (m.asRequest decode act).Explains s t (s.onRequest m decode respond) := by
  unfold Message.asRequest onRequest
  cases m.id with
  | none => exact explains_quietly
  | some id =>
      cases params decode m with
      | error e => exact ⟨rfl, rfl⟩
      | ok a =>
          dsimp only
          rw [Effect.Explains, hsilent a, ← hserver a]
          cases respond a with
          | mk x result => cases result <;> exact ⟨rfl, rfl⟩

theorem explains_shutdown (h : s.phase = .initialized) :
    Effect.shutDown.Explains s t (s.onShutdown m) := by
  unfold onShutdown
  rw [h, if_pos (by rfl)]
  cases m.id with
  | none => exact ⟨rfl, rfl⟩
  | some id => cases m.params <;> exact ⟨rfl, rfl⟩

theorem explains_served (method : Method) :
    (m.served method).Explains s t (s.onServed t m method) := by
  cases method with
  | initialized => exact explains_notification fun _ => ⟨rfl, rfl⟩
  | didOpen => exact explains_notification fun _ => ⟨rfl, rfl⟩
  | didChange => exact explains_notification fun _ => ⟨rfl, rfl⟩
  | didSave => exact explains_notification fun _ => ⟨rfl, rfl⟩
  | didClose => exact explains_notification fun _ => ⟨rfl, rfl⟩
  | modeChanged => exact explains_notification fun _ => ⟨rfl, rfl⟩
  | didChangeWatchedFiles =>
      refine explains_notification fun us => ?_
      by_cases hnames : us.any namesSettings = true
      · rw [if_pos hnames, if_pos hnames]
        exact ⟨rfl, rfl⟩
      · rw [if_neg hnames, if_neg hnames]
        exact explains_quietly
  | executeCommand =>
      apply explains_request
      · intro command
        unfold onCommand
        split <;> rfl
      · intro command
        split <;> rfl
  | otherRequest shape =>
      have h : (m.asRequest shape.decoder fun _ => .nothing).Explains s t
          (s.onRequest m shape.decoder fun _ => (s, .error (.methodNotFound none))) :=
        explains_request (fun _ => rfl) (fun _ => rfl)
      have hnothing : m.asRequest shape.decoder (fun _ => .nothing) = .nothing := by
        unfold Message.asRequest
        split <;> rfl
      rwa [hnothing] at h
  | setUp | shutdown | exit | cancel | otherNotification => exact explains_passed

/-- Only an initialized server serves the other methods. -/
theorem explains_when_initialized (method : Method) :
    (if s.phase == .initialized then m.served method else .nothing).Explains s t
      (if s.phase == .initialized then s.onServed t m method else s.notReady m) := by
  by_cases hphase : (s.phase == .initialized) = true
  · rw [if_pos hphase, if_pos hphase]
    exact explains_served method
  · rw [if_neg hphase, if_neg hphase]
    exact ⟨rfl, rfl⟩

/-- Handling a message does what the message comes to in the phase of the server, and nothing
else. -/
theorem receive_explained (s : Server) (t : FileTree) (m : Message) :
    (m.effect s.phase).Explains s t (s.receive t m) := by
  unfold Message.effect receive
  by_cases hexited : (s.phase == .exited) = true
  · rw [if_pos hexited, if_pos hexited]
    exact ⟨rfl, rfl⟩
  · rw [if_neg hexited, if_neg hexited]
    cases Method.ofName? m.method with
    | none =>
        dsimp only [onUnknown]
        split <;> exact ⟨rfl, rfl⟩
    | some method =>
        cases method with
        | setUp =>
            dsimp only [onInitialize]
            by_cases hphase : (s.phase == .uninitialized) = true
            · rw [if_pos hphase, if_pos hphase]
              exact explains_request (fun _ => rfl) (fun _ => rfl)
            · rw [if_neg hphase, if_neg hphase]
              exact ⟨rfl, rfl⟩
        | shutdown =>
            dsimp only
            by_cases hphase : (s.phase == .initialized) = true
            · rw [if_pos hphase]
              exact explains_shutdown (eq_of_beq hphase)
            · rw [if_neg hphase, onShutdown, if_neg hphase]
              exact ⟨rfl, rfl⟩
        | exit => exact ⟨rfl, rfl⟩
        | cancel => exact explains_passed
        | initialized | didOpen | didChange | didSave | didClose | didChangeWatchedFiles
          | executeCommand | modeChanged | otherNotification => exact explains_when_initialized _
        | otherRequest shape => exact explains_when_initialized _

end Handling

theorem server_receive (s : Server) (t : FileTree) (m : Message) :
    (s.receive t m).server = (m.effect s.phase).apply s t :=
  (receive_explained s t m).1

theorem notices_receive (s : Server) (t : FileTree) (m : Message) :
    (s.receive t m).notices = (m.effect s.phase).notices s :=
  (receive_explained s t m).2

/-! ## The workspace is taken up once -/

theorem asNotification_ne {α : Type} (m : Message) (decode : Json.Decoder α) {act : α → Effect}
    {e : Effect} (hact : ∀ a, act a ≠ e) (he : e ≠ .nothing) : m.asNotification decode act ≠ e := by
  unfold Message.asNotification
  split
  · exact hact _
  · exact he.symm

theorem asRequest_ne {α : Type} (m : Message) (decode : Json.Decoder α) {act : α → Effect}
    {e : Effect} (hact : ∀ a, act a ≠ e) (he : e ≠ .nothing) : m.asRequest decode act ≠ e := by
  unfold Message.asRequest
  split
  · exact hact _
  · exact he.symm

theorem served_ne_setUp (m : Message) (method : Method) (i : Initialization) :
    m.served method ≠ .setUp i := by
  cases method with
  | initialized | didOpen | didChange | didSave | didClose | modeChanged =>
      exact asNotification_ne _ _ (by simp) (by simp)
  | didChangeWatchedFiles => exact asNotification_ne _ _ (by intro us; split <;> simp) (by simp)
  | executeCommand => exact asRequest_ne _ _ (by intro us; split <;> simp) (by simp)
  | _ => simp [Message.served]

/-- The workspace is taken up by the first message that is served. -/
theorem phase_of_setUp {m : Message} {phase : Phase} {i : Initialization}
    (h : m.effect phase = .setUp i) : phase = .uninitialized := by
  -- in the order of the methods in `Message.effect`; only the second case sets anything up
  unfold Message.effect at h
  split at h
  · cases h
  · split at h
    · cases h
    · split at h
      · exact eq_of_beq ‹_›
      · cases h
    · split at h <;> cases h
    · cases h
    · cases h
    · split at h
      · exact absurd h (served_ne_setUp _ _ _)
      · cases h

/-! ## Servers that are not initialized -/

/-- A server that is not initialized is set up, exits or stays as it is. -/
theorem Message.effect_of_not_initialized (m : Message) {phase : Phase} (h : phase ≠ .initialized) :
    m.effect phase = .nothing ∨ m.effect phase = .exit ∨ ∃ i, m.effect phase = .setUp i := by
  have hphase : ¬ (phase == .initialized) = true := by simpa using h
  unfold Message.effect
  by_cases hexited : (phase == .exited) = true
  · exact .inl (if_pos hexited)
  · rw [if_neg hexited]
    cases Method.ofName? m.method with
    | none => exact .inl rfl
    | some method =>
        cases method with
        | setUp =>
            dsimp only [Message.asRequest]
            split
            · split
              · exact .inr (.inr ⟨_, rfl⟩)
              · exact .inl rfl
            · exact .inl rfl
        | exit => exact .inr (.inl rfl)
        | cancel => exact .inl rfl
        | _ => exact .inl (if_neg hphase)

/-- That a buffer is shown in another mode comes to nothing unless the server is initialized. -/
theorem Message.effect_modeChanged (m : Message) {phase : Phase}
    (hmethod : Method.ofName? m.method = some .modeChanged) (h : phase ≠ .initialized) :
    m.effect phase = .nothing := by
  have hphase : ¬ (phase == .initialized) = true := by simpa using h
  unfold Message.effect
  by_cases hexited : (phase == .exited) = true
  · exact if_pos hexited
  · rw [if_neg hexited, hmethod]
    exact if_neg hphase

/-! ## New settings -/

/-- The settings of a source that can be put in force: they are read, and no pattern is refused. -/
def accepted? : Except SettingsError Settings → Option Settings
  | .ok x => if x.admission.isOk then some x else none
  | .error _ => none

/-- A server differs from another at most in the settings in force, and with them in the name under
which it publishes. -/
structure SettledAs (s s' : Server) : Prop where
  server : s' = { s with session := s'.session }
  reconciler : ∃ sourceId, s'.session.reconciler = s.session.reconciler.setSourceId sourceId

theorem SettledAs.refl (s : Server) : SettledAs s s :=
  ⟨rfl, s.session.reconciler.sourceId, rfl⟩

theorem SettledAs.phase {s s' : Server} (h : SettledAs s s') : s'.phase = s.phase := by
  rw [h.server]

theorem SettledAs.root {s s' : Server} (h : SettledAs s s') : s'.root = s.root := by
  rw [h.server]

theorem SettledAs.documents {s s' : Server} (h : SettledAs s s') :
    s'.documents = s.documents := by
  rw [h.server]

theorem SettledAs.timers {s s' : Server} (h : SettledAs s s') : s'.timers = s.timers := by
  rw [h.server]

section Settings

variable {s : Server} {source : Except SettingsError Settings}

/-- Settings that are accepted are put in force. -/
theorem applySettings_of_accepted {x : Settings} (h : accepted? source = some x) :
    SettledAs s (s.applySettings source).1 ∧ (s.applySettings source).2 = true ∧
      (s.applySettings source).1.session.InForce x := by
  cases source with
  | error e => exact absurd h (by simp [accepted?])
  | ok y =>
      cases ha : y.admission with
      | error r => exact absurd h (by simp [accepted?, ha, Except.isOk, Except.toBool])
      | ok a =>
          obtain rfl : y = x := by simpa [accepted?, ha, Except.isOk, Except.toBool] using h
          simp only [applySettings, Session.updateSettings, ha]
          exact ⟨⟨rfl, y.sourceId, rfl⟩, trivial, ⟨rfl, ha, rfl⟩⟩

/-- Settings that are not accepted change nothing. -/
theorem applySettings_of_refused (h : accepted? source = none) :
    s.applySettings source = (s, false) := by
  cases source with
  | error e => rfl
  | ok y =>
      cases ha : y.admission with
      | ok a => exact absurd h (by simp [accepted?, ha, Except.isOk, Except.toBool])
      | error r => simp only [applySettings, Session.updateSettings, ha]

theorem settledAs_applySettings (s : Server) (source : Except SettingsError Settings) :
    SettledAs s (s.applySettings source).1 := by
  cases h : accepted? source with
  | some x => exact (applySettings_of_accepted h).1
  | none =>
      rw [applySettings_of_refused h]
      exact .refl s

theorem settledAs_reloadSettings (s : Server) (t : FileTree) :
    SettledAs s (s.reloadSettings t) := by
  unfold reloadSettings
  split
  · exact settledAs_applySettings s _
  · exact .refl s

theorem settledAs_chooseSettings (s : Server) (t : FileTree) (options : Option Json) :
    SettledAs s (s.chooseSettings t options) := by
  unfold chooseSettings
  dsimp only
  split
  · rename_i o _
    cases h : accepted? (Settings.ofJson o) with
    | none =>
        rw [applySettings_of_refused h]
        exact settledAs_reloadSettings s t
    | some x =>
        obtain ⟨hsettled, htaken, -⟩ := applySettings_of_accepted (s := s) h
        generalize s.applySettings (Settings.ofJson o) = result at hsettled htaken
        obtain ⟨s', taken⟩ := result
        obtain rfl : taken = true := htaken
        exact hsettled
  · exact settledAs_reloadSettings s t

end Settings

/-! ## What effects leave alone -/

namespace Effect

variable (e : Effect) (s : Server) (t : FileTree)

@[simp] theorem phase_apply : (e.apply s t).phase = e.phase s.phase := by
  cases e with
  | reload => exact (settledAs_reloadSettings s t).phase
  | _ => rfl

/-- No server becomes uninitialized. -/
theorem uninitialized_of_phase {e : Effect} {before : Phase}
    (h : e.phase before = .uninitialized) : before = .uninitialized := by
  cases e <;> first | exact h | cases h

/-- A message touches of the reconciler at most the name of the source. -/
theorem reconciler_apply :
    ∃ sourceId, (e.apply s t).session.reconciler = s.session.reconciler.setSourceId sourceId := by
  cases e with
  | setUp i => exact (settledAs_chooseSettings _ t i.options).reconciler
  | reload => exact (settledAs_reloadSettings s t).reconciler
  | _ => exact ⟨s.session.reconciler.sourceId, rfl⟩

end Effect

end Server
end LintRelay
