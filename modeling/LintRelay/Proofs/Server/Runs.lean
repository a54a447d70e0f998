import LintRelay.Proofs.Server.Effect

/-!
# Runs of a server

A run is a list of moments: something happens, with the files as they are then. What the messages of
a run come to depends on the phase in which each of them arrives (`Server.effects`). The version of a
document after a run is that of the last effect that concerns the document (`version?_run`), and a
timer keeps its place in the list until it expires, but for the timers before it that expire earlier
(`timer_at_place`).
-/

namespace LintRelay
namespace Server

/-- Something that happens to a server, with the files as they are then. -/
structure Moment where
  files : FileTree
  happening : Happening

/-- What a moment comes to if it is a message. -/
def Moment.effect (e : Moment) (phase : Phase) : Effect :=
  match e.happening with
  | .message m => m.effect phase
  | .start _ | .finish _ _ | .expiry _ => .nothing

/-- The server after a moment. -/
def after (s : Server) (e : Moment) : Server := (s.step e.files e.happening).server

/-- The server after a run. -/
def run (s : Server) (es : List Moment) : Server := es.foldl after s

/-- What the moments of a run come to. -/
def effects : Server → List Moment → List Effect
  | _, [] => []
  | s, e :: es => e.effect s.phase :: effects (s.after e) es

@[simp] theorem run_nil (s : Server) : s.run [] = s := rfl

@[simp] theorem run_cons (s : Server) (e : Moment) (es : List Moment) :
    s.run (e :: es) = (s.after e).run es :=
  rfl

theorem run_append (s : Server) (es fs : List Moment) : s.run (es ++ fs) = (s.run es).run fs :=
  List.foldl_append

theorem effects_append (s : Server) (es fs : List Moment) :
    s.effects (es ++ fs) = s.effects es ++ (s.run es).effects fs := by
  induction es generalizing s with
  | nil => rfl
  | cons e es ih =>
      show e.effect s.phase :: (s.after e).effects (es ++ fs) = _
      rw [ih]
      rfl

/-! ## What calls and timers leave alone -/

/-- The start of a call concerns the session and the calls. -/
theorem startCall_eq (s : Server) (t : FileTree) (i : Nat) :
    s.startCall t i = { s with
      session := (s.startCall t i).session
      spawned := (s.startCall t i).spawned
      waiting := (s.startCall t i).waiting } := by
  unfold startCall
  split
  · rfl
  · dsimp only
    split <;> rfl

/-- The end of a call concerns the session and the waiting calls. -/
theorem finishCall_eq (s : Server) (i : Nat) (output : Except LintError String) :
    (s.finishCall i output).1 = { s with
      session := (s.finishCall i output).1.session
      waiting := (s.finishCall i output).1.waiting } := by
  unfold finishCall
  split <;> rfl

/-- The expiry of a timer concerns the timers and the spawned calls. -/
theorem expire_eq (s : Server) (i : Nat) :
    s.expire i = { s with spawned := (s.expire i).spawned, timers := (s.expire i).timers } := by
  unfold expire
  split
  · rfl
  · dsimp only
    split <;> rfl

/-- Only messages change the phase. -/
theorem phase_after (s : Server) (e : Moment) :
    (s.after e).phase = (e.effect s.phase).phase s.phase := by
  obtain ⟨t, happening⟩ := e
  cases happening with
  | message m =>
      show (s.receive t m).server.phase = (m.effect s.phase).phase s.phase
      rw [server_receive, Effect.phase_apply]
  | start i =>
      show (s.startCall t i).phase = s.phase
      rw [startCall_eq]
  | finish i output =>
      show (s.finishCall i output).1.phase = s.phase
      rw [finishCall_eq]
  | expiry i =>
      show (s.expire i).phase = s.phase
      rw [expire_eq]

/-- A message that comes to something does just that. -/
theorem after_eq_apply {s : Server} {e : Moment} {effect : Effect}
    (h : e.effect s.phase = effect) (hne : effect ≠ .nothing) :
    s.after e = effect.apply s e.files := by
  obtain ⟨t, happening⟩ := e
  cases happening with
  | message m =>
      show (s.receive t m).server = effect.apply s t
      rw [server_receive]
      exact congrArg (Effect.apply s t) h
  | start i => exact absurd h.symm hne
  | finish i output => exact absurd h.symm hne
  | expiry i => exact absurd h.symm hne

theorem effects_cons (s : Server) (e : Moment) (es : List Moment) :
    s.effects (e :: es) = e.effect s.phase :: (s.after e).effects es :=
  rfl

/-! ## Versions -/

namespace Effect

/-- The version that an effect notes for a document. -/
def noted? (u : Uri) : Effect → Option Int
  | .opened w version | .changed w version => if w = u then some version else none
  | _ => none

/-- The version of a document after an effect. -/
def latest (u : Uri) (current : Option Int) : Effect → Option Int
  | .opened w version | .changed w version => if w = u then some version else current
  | .closed w => if w = u then none else current
  | _ => current

theorem latest_of_noted {u : Uri} {e : Effect} {version : Int} (h : e.noted? u = some version)
    (current : Option Int) : e.latest u current = some version := by
  cases e <;> simp_all [noted?, latest]

/-- What neither notes a version nor closes the document leaves its version alone. -/
theorem latest_of_other {u : Uri} {e : Effect} (hnoted : e.noted? u = none) (hopen : e ≠ .closed u)
    (current : Option Int) : e.latest u current = current := by
  cases e <;> simp_all [noted?, latest]

end Effect

/-- The versions that effects note for a document, first one first. -/
def versions (u : Uri) (es : List Effect) : List Int := es.filterMap (·.noted? u)

/-- The version of a document after effects. -/
def latest (u : Uri) (current : Option Int) (es : List Effect) : Option Int :=
  es.foldl (fun version e => e.latest u version) current

theorem version?_track (s : Server) (u w : Uri) (version : Int) :
    (s.track u version).version? w = if u = w then some version else s.version? w := by
  unfold version? track
  by_cases huw : u = w
  · subst huw
    simp
  · have hfilter : (s.documents.filter (·.1 != u)).find? (·.1 == w) =
        s.documents.find? (·.1 == w) := by
      rw [List.find?_filter]
      congr 1
      funext d
      by_cases hd : d.1 = w <;> simp [hd, Ne.symm huw]
    rw [List.find?_cons_of_neg (by simpa using huw), hfilter, if_neg huw]

theorem version?_forget (s : Server) (u w : Uri) :
    (s.forget u).version? w = if u = w then none else s.version? w := by
  unfold version? forget
  rw [List.find?_filter]
  by_cases huw : u = w
  · subst huw
    simp
  · rw [if_neg huw]
    congr 2
    funext d
    by_cases hd : d.1 = w <;> simp [hd, Ne.symm huw]

theorem version?_congr {s s' : Server} (h : s'.documents = s.documents) (u : Uri) :
    s'.version? u = s.version? u := by
  rw [version?, h, version?]

theorem Effect.version?_apply (e : Effect) (s : Server) (t : FileTree) (u : Uri) :
    (e.apply s t).version? u = e.latest u (s.version? u) := by
  cases e with
  | opened w version => exact s.version?_track w u version
  | changed w version => exact s.version?_track w u version
  | closed w => exact s.version?_forget w u
  | setUp i => exact version?_congr (settledAs_chooseSettings _ t i.options).documents u
  | reload => exact version?_congr (settledAs_reloadSettings s t).documents u
  | _ => rfl

theorem version?_after (s : Server) (e : Moment) (u : Uri) :
    (s.after e).version? u = (e.effect s.phase).latest u (s.version? u) := by
  obtain ⟨t, happening⟩ := e
  cases happening with
  | message m =>
      show (s.receive t m).server.version? u = (m.effect s.phase).latest u (s.version? u)
      rw [server_receive, Effect.version?_apply]
  | start i => exact version?_congr (congrArg Server.documents (s.startCall_eq t i)) u
  | finish i output => exact version?_congr (congrArg Server.documents (s.finishCall_eq i output)) u
  | expiry i => exact version?_congr (congrArg Server.documents (s.expire_eq i)) u

theorem version?_run (s : Server) (es : List Moment) (u : Uri) :
    (s.run es).version? u = latest u (s.version? u) (s.effects es) := by
  induction es generalizing s with
  | nil => rfl
  | cons e es ih =>
      rw [run_cons, ih, version?_after]
      rfl

/-! ## Timers -/

/-- The timers that an effect sets: one for a changed document. -/
def Effect.timers (s : Server) : Effect → List Timer
  | .changed u version => [⟨u, version, s.session.settings.debounceMs, bufferEvent .changed u⟩]
  | _ => []

theorem Effect.timers_apply (e : Effect) (s : Server) (t : FileTree) :
    (e.apply s t).timers = s.timers ++ e.timers s := by
  cases e with
  | changed u version => rfl
  | setUp i =>
      exact (settledAs_chooseSettings _ t i.options).timers.trans (List.append_nil _).symm
  | reload => exact (settledAs_reloadSettings s t).timers.trans (List.append_nil _).symm
  | _ => exact (List.append_nil _).symm

theorem timers_expire (s : Server) (i : Nat) : (s.expire i).timers = s.timers.eraseIdx i := by
  unfold expire
  split
  · rename_i hnone
    exact (List.eraseIdx_of_length_le (List.getElem?_eq_none_iff.mp hnone)).symm
  · dsimp only
    split <;> rfl

/-- The place of a timer after something happened, unless it expired. -/
def Happening.place (place : Nat) : Happening → Option Nat
  | .expiry i => if i < place then some (place - 1) else if i = place then none else some place
  | _ => some place

/-- The place of a timer after a run, unless it expired. -/
def place (start : Nat) : List Moment → Option Nat
  | [] => some start
  | e :: es => (e.happening.place start).bind fun n => place n es

theorem timer_after {s : Server} {e : Moment} {timer : Timer} {n m : Nat}
    (h : s.timers[n]? = some timer) (hplace : e.happening.place n = some m) :
    (s.after e).timers[m]? = some timer := by
  obtain ⟨t, happening⟩ := e
  cases happening with
  | message msg =>
      obtain rfl : n = m := Option.some.inj hplace
      show (s.receive t msg).server.timers[n]? = some timer
      rw [server_receive, Effect.timers_apply]
      exact (List.getElem?_append_left (List.getElem?_eq_some_iff.mp h).1).trans h
  | start i =>
      obtain rfl : n = m := Option.some.inj hplace
      exact (congrArg (·.timers[n]?) (s.startCall_eq t i)).trans h
  | finish i output =>
      obtain rfl : n = m := Option.some.inj hplace
      exact (congrArg (·.timers[n]?) (s.finishCall_eq i output)).trans h
  | expiry i =>
      show (s.expire i).timers[m]? = some timer
      rw [timers_expire, List.getElem?_eraseIdx]
      -- the timers behind the one that expires move up
      dsimp only [Happening.place] at hplace
      split at hplace
      · rename_i hlt
        obtain rfl : n - 1 = m := Option.some.inj hplace
        rw [if_neg (by omega), Nat.sub_add_cancel (by omega), h]
      · split at hplace
        · exact absurd hplace (by simp)
        · obtain rfl : n = m := Option.some.inj hplace
          rw [if_pos (by omega), h]

/-- A timer that did not expire is found at its place. -/
theorem timer_at_place {s : Server} {es : List Moment} {timer : Timer} {n m : Nat}
    (h : s.timers[n]? = some timer) (hplace : place n es = some m) :
    (s.run es).timers[m]? = some timer := by
  induction es generalizing s n with
  | nil =>
      obtain rfl : n = m := Option.some.inj hplace
      exact h
  | cons e es ih =>
      obtain ⟨k, hk, hplace⟩ := Option.bind_eq_some_iff.mp hplace
      exact ih (timer_after h hk) hplace

/-- A timer that expires spawns its lint if its version is that of the document. -/
theorem spawned_expire {s : Server} {i : Nat} {timer : Timer} (h : s.timers[i]? = some timer) :
    (s.expire i).spawned =
      s.spawned ++
        if s.version? timer.document = some timer.version then [timer.event.call] else [] := by
  have hfires : ∀ x : List Timer,
      ({ s with timers := x } : Server).fires timer =
        (s.version? timer.document == some timer.version) :=
    fun _ => rfl
  simp only [expire, h, hfires, beq_iff_eq]
  split
  · rfl
  · exact (List.append_nil _).symm

theorem after_of_expiry {s : Server} {e : Moment} {i : Nat} (h : e.happening = .expiry i) :
    s.after e = s.expire i := by
  unfold Server.after
  rw [h]
  rfl

/-- The document of a timer that lints is at the version of the timer. -/
theorem version?_of_spawned {s : Server} {i : Nat} {timer : Timer} (h : s.timers[i]? = some timer)
    (hspawned : (s.expire i).spawned = s.spawned ++ [timer.event.call]) :
    s.version? timer.document = some timer.version := by
  rw [spawned_expire h] at hspawned
  have hcalls := List.append_cancel_left hspawned
  by_contra hother
  rw [if_neg hother] at hcalls
  exact List.cons_ne_nil _ _ hcalls.symm

end Server
end LintRelay
