import LintRelay.Proofs.Server.Editor

/-!
# Debounced changes

A change of a document sets a timer, and the timer lints the document when it expires if the document
is then at the version that the change made. So a timer is known by its document and its version
alone. As long as versions ascend and the document stays open, this keeps exactly the last change of
a burst (`lints_last_of_burst`), unless the document is opened once more after its last change
(`last_change_silent`). Where the document is closed in between, the timer comes to nothing unless the
document is opened again and is back at the same version when it expires (`closed_change_lints_iff`).
The protocol allows that (`lints_after_reopening`).
-/

namespace LintRelay
namespace Server

/-! ## The life of a timer -/

/-- The life of a timer: a change sets it, other things happen, and it expires. -/
structure TimerLife (s : Server) (u : Uri) (version : Int) where
  change : Moment
  between : List Moment
  expiry : Moment
  /-- Where the timer stands in the list when it expires. -/
  stand : Nat
  changes : change.effect s.phase = .changed u version
  waits : place s.timers.length between = some stand
  expires : expiry.happening = .expiry stand

namespace TimerLife

variable {s : Server} {u : Uri} {version : Int} (life : TimerLife s u version)

/-- What happens in the life of a timer, from the change to the expiry. -/
def moments : List Moment := life.change :: (life.between ++ [life.expiry])

/-- What is handled while the timer runs. -/
def later : List Effect := (s.after life.change).effects life.between

/-- The server when the timer is about to expire. -/
def eve : Server := (s.after life.change).run life.between

/-- The expiry spawns these calls. -/
def Spawns (calls : List LintCall) : Prop :=
  (life.eve.after life.expiry).spawned = life.eve.spawned ++ calls

end TimerLife

/-- A timer that expires lints its document exactly if nothing that was handled since the change
brought the document to another version, or closed it. -/
theorem TimerLife.spawns_latest {s : Server} {u : Uri} {version : Int}
    (life : TimerLife s u version) :
    life.Spawns
      (if latest u (some version) life.later = some version then [.file u.file?] else []) := by
  have hchange : s.after life.change = Effect.apply s life.change.files (.changed u version) :=
    after_eq_apply life.changes (by simp)
  -- the new timer stands behind those that were set before it
  let timer : Timer := ⟨u, version, s.session.settings.debounceMs, bufferEvent .changed u⟩
  have hset : (s.after life.change).timers[s.timers.length]? = some timer := by
    rw [hchange, Effect.timers_apply]
    exact List.getElem?_concat_length
  have hwaits : life.eve.timers[life.stand]? = some timer := timer_at_place hset life.waits
  have hversion : life.eve.version? u = latest u (some version) life.later := by
    unfold TimerLife.eve
    rw [version?_run, version?_after, life.changes, Effect.latest, if_pos rfl]
    rfl
  unfold TimerLife.Spawns
  rw [after_of_expiry life.expires, spawned_expire hwaits, ← hversion]
  rfl

/-! ## Ascending versions -/

/-- Every version that is noted for a document is above the one that the document is at. A document
that is closed is at none, and may start again at any version. -/
def Ascends (u : Uri) : Option Int → List Effect → Prop
  | _, [] => True
  | current, e :: es =>
    (∀ v ∈ e.noted? u, ∀ w ∈ current, w < v) ∧ Ascends u (e.latest u current) es

theorem Ascends.append {u : Uri} {current : Option Int} {es fs : List Effect} :
    Ascends u current (es ++ fs) ↔ Ascends u current es ∧ Ascends u (latest u current es) fs := by
  induction es generalizing current with
  | nil => exact ⟨fun h => ⟨trivial, h⟩, fun h => h.2⟩
  | cons e es ih =>
      show (_ ∧ Ascends u _ (es ++ fs)) ↔ (_ ∧ Ascends u _ es) ∧ _
      rw [ih, and_assoc]
      rfl

theorem versions_cons_of_noted {u : Uri} {e : Effect} {v : Int} (h : e.noted? u = some v)
    (es : List Effect) : versions u (e :: es) = v :: versions u es :=
  List.filterMap_cons_some h

theorem versions_cons_of_other {u : Uri} {e : Effect} (h : e.noted? u = none) (es : List Effect) :
    versions u (e :: es) = versions u es :=
  List.filterMap_cons_none h

theorem latest_cons (u : Uri) (current : Option Int) (e : Effect) (es : List Effect) :
    latest u current (e :: es) = latest u (e.latest u current) es :=
  rfl

/-- An open document is at the version that was noted last. -/
theorem latest_eq_getLast? {u : Uri} {es : List Effect} (hopen : ∀ e ∈ es, e ≠ .closed u)
    (current : Option Int) :
    latest u current es = (versions u es).getLast?.or current := by
  induction es generalizing current with
  | nil => rfl
  | cons e es ih =>
      obtain ⟨he, hes⟩ := List.forall_mem_cons.mp hopen
      rw [latest_cons, ih hes]
      cases hnoted : e.noted? u with
      | none => rw [versions_cons_of_other hnoted, Effect.latest_of_other hnoted he]
      | some v =>
          rw [versions_cons_of_noted hnoted, Effect.latest_of_noted hnoted, List.getLast?_cons]
          cases (versions u es).getLast? <;> rfl

/-- While a document stays open, its version only goes up. -/
theorem Ascends.le_latest {u : Uri} {v : Int} {es : List Effect} (h : Ascends u (some v) es)
    (hopen : ∀ e ∈ es, e ≠ .closed u) :
    ∃ w, latest u (some v) es = some w ∧ v ≤ w ∧ (versions u es ≠ [] → v < w) := by
  -- a version that is noted is a new start, above the old one; the weak bound carries it on
  induction es generalizing v with
  | nil => exact ⟨v, rfl, Int.le_refl v, fun hne => absurd rfl hne⟩
  | cons e es ih =>
      obtain ⟨he, hes⟩ := List.forall_mem_cons.mp hopen
      obtain ⟨hstep, hrest⟩ := h
      cases hnoted : e.noted? u with
      | none =>
          rw [Effect.latest_of_other hnoted he] at hrest
          obtain ⟨w, hw, hle, hlt⟩ := ih hrest hes
          refine ⟨w, ?_, hle, ?_⟩
          · rwa [latest_cons, Effect.latest_of_other hnoted he]
          · rwa [versions_cons_of_other hnoted]
      | some x =>
          have hvx : v < x := hstep x hnoted v rfl
          rw [Effect.latest_of_noted hnoted] at hrest
          obtain ⟨w, hw, hle, -⟩ := ih hrest hes
          refine ⟨w, ?_, by omega, fun _ => by omega⟩
          rwa [latest_cons, Effect.latest_of_noted hnoted]

/-- While a document stays open and its versions ascend, it comes back to a version only by staying
at it. -/
theorem Ascends.latest_eq_self_iff {u : Uri} {v : Int} {es : List Effect}
    (h : Ascends u (some v) es) (hopen : ∀ e ∈ es, e ≠ .closed u) :
    latest u (some v) es = some v ↔ versions u es = [] := by
  obtain ⟨w, hw, -, hlt⟩ := h.le_latest hopen
  constructor
  · intro hsame
    obtain rfl : w = v := Option.some.inj (hw.symm.trans hsame)
    cases hnoted : versions u es with
    | nil => rfl
    | cons x xs => exact absurd (hlt (by simp [hnoted])) (Int.lt_irrefl w)
  · intro hnone
    rw [latest_eq_getLast? hopen, hnone]
    rfl

/-! ## The timers of a document -/

/-- A timer of a document expires and spawns its lint. -/
def Lints (s : Server) (u : Uri) (e : Moment) : Prop :=
  ∃ i timer, e.happening = .expiry i ∧ s.timers[i]? = some timer ∧ timer.document = u ∧
    (s.after e).spawned = s.spawned ++ [timer.event.call]

/-- The timers of a document are in the order of the versions for which they were set, and none is
for a version above that of the document. -/
structure Ranked (u : Uri) (s : Server) : Prop where
  ordered : s.timers.Pairwise fun a b => a.document = u → b.document = u → a.version < b.version
  reached : ∀ timer ∈ s.timers, timer.document = u →
    ∃ v, s.version? u = some v ∧ timer.version ≤ v

/-- All timers of a document are for versions below that of the document. -/
def Overtaken (u : Uri) (s : Server) : Prop :=
  ∀ timer ∈ s.timers, timer.document = u → ∃ v, s.version? u = some v ∧ timer.version < v

/-- Timers expire, and a change sets a new one behind the others. -/
theorem timers_after (s : Server) (e : Moment) :
    ∃ kept, kept.Sublist s.timers ∧ (s.after e).timers = kept ++ (e.effect s.phase).timers s := by
  obtain ⟨t, happening⟩ := e
  cases happening with
  | message m =>
      refine ⟨s.timers, List.Sublist.refl _, ?_⟩
      show (s.receive t m).server.timers = s.timers ++ (m.effect s.phase).timers s
      rw [server_receive, Effect.timers_apply]
  | start i =>
      exact ⟨s.timers, List.Sublist.refl _,
        (congrArg Server.timers (s.startCall_eq t i)).trans (List.append_nil _).symm⟩
  | finish i output =>
      exact ⟨s.timers, List.Sublist.refl _,
        (congrArg Server.timers (s.finishCall_eq i output)).trans (List.append_nil _).symm⟩
  | expiry i =>
      exact ⟨s.timers.eraseIdx i, List.eraseIdx_sublist ..,
        (s.timers_expire i).trans (List.append_nil _).symm⟩

/-- A new timer of a document is for the version that is noted. -/
theorem Effect.noted?_of_timer {e : Effect} {s : Server} {timer : Timer} (h : timer ∈ e.timers s) :
    e.noted? timer.document = some timer.version := by
  cases e with
  | changed u version =>
      obtain rfl := List.mem_singleton.mp h
      exact if_pos rfl
  | _ => exact absurd h List.not_mem_nil

theorem Effect.timers_pairwise (e : Effect) (s : Server) (R : Timer → Timer → Prop) :
    (e.timers s).Pairwise R := by
  cases e with
  | changed u version => exact List.pairwise_singleton ..
  | _ => exact List.Pairwise.nil

/-- Timers stay ranked while the document is open and its versions ascend. -/
theorem Ranked.after {u : Uri} {s : Server} {e : Moment} (h : Ranked u s)
    (hopen : e.effect s.phase ≠ .closed u)
    (hascends : ∀ v ∈ (e.effect s.phase).noted? u, ∀ w ∈ s.version? u, w < v) :
    Ranked u (s.after e) := by
  obtain ⟨kept, hkept, htimers⟩ := timers_after s e
  have below : ∀ a ∈ kept, a.document = u → ∀ b ∈ (e.effect s.phase).timers s, b.document = u →
      a.version < b.version := by
    intro a ha hau b hb hbu
    obtain ⟨w, hw, hle⟩ := h.reached a (hkept.subset ha) hau
    have hlt := hascends b.version (hbu ▸ Effect.noted?_of_timer hb) w hw
    omega
  constructor
  · rw [htimers, List.pairwise_append]
    exact ⟨h.ordered.sublist hkept, Effect.timers_pairwise .., fun a ha b hb hau hbu =>
      below a ha hau b hb hbu⟩
  · intro timer htimer hu
    rw [version?_after]
    rw [htimers, List.mem_append] at htimer
    rcases htimer with hold | hnew
    · obtain ⟨w, hw, hle⟩ := h.reached timer (hkept.subset hold) hu
      cases hnoted : (e.effect s.phase).noted? u with
      | none => exact ⟨w, by rw [Effect.latest_of_other hnoted hopen, hw], hle⟩
      | some v =>
          have hlt := hascends v hnoted w hw
          exact ⟨v, Effect.latest_of_noted hnoted _, by omega⟩
    · exact ⟨timer.version, Effect.latest_of_noted (hu ▸ Effect.noted?_of_timer hnew) _,
        Int.le_refl _⟩

theorem Ranked.run {u : Uri} {s : Server} {es : List Moment} (h : Ranked u s)
    (hopen : ∀ e ∈ s.effects es, e ≠ .closed u)
    (hascends : Ascends u (s.version? u) (s.effects es)) : Ranked u (s.run es) := by
  induction es generalizing s with
  | nil => exact h
  | cons e es ih =>
      obtain ⟨he, hes⟩ := List.forall_mem_cons.mp hopen
      obtain ⟨hstep, hrest⟩ := hascends
      rw [← version?_after] at hrest
      exact ih (h.after he hstep) hes hrest

/-- The timer that lints is the last one of its document: all others are overtaken. -/
theorem Ranked.overtaken_after_lint {u : Uri} {s : Server} {e : Moment} (h : Ranked u s)
    (hlints : Lints s u e) : Overtaken u (s.after e) := by
  obtain ⟨i, timer, hexpiry, hi, rfl, hspawned⟩ := hlints
  rw [after_of_expiry hexpiry] at hspawned ⊢
  have hversion := version?_of_spawned hi hspawned
  intro other hother hou
  have hsame := version?_congr (congrArg Server.documents (s.expire_eq i)) timer.document
  refine ⟨timer.version, hsame.trans hversion, ?_⟩
  rw [timers_expire, List.mem_eraseIdx_iff_getElem?] at hother
  obtain ⟨j, hne, hj⟩ := hother
  obtain ⟨hjlt, hjeq⟩ := List.getElem?_eq_some_iff.mp hj
  obtain ⟨hilt, hieq⟩ := List.getElem?_eq_some_iff.mp hi
  have hpair := List.pairwise_iff_getElem.mp h.ordered
  rcases Nat.lt_or_gt_of_ne hne with hlt | hgt
  · have hbefore := hpair j i hjlt hilt hlt
    rw [hjeq, hieq] at hbefore
    exact hbefore hou rfl
  · -- a timer behind it would be for a version that the document has not reached
    have hbehind := hpair i j hilt hjlt hgt
    rw [hjeq, hieq] at hbehind
    obtain ⟨v, hv, hle⟩ := h.reached other (List.mem_of_getElem? hj) hou
    obtain rfl : timer.version = v := Option.some.inj (hversion.symm.trans hv)
    exact absurd (hbehind rfl hou) (by omega)

/-- Timers stay overtaken until a version is noted. -/
theorem Overtaken.run {u : Uri} {s : Server} {es : List Moment} (h : Overtaken u s)
    (hopen : ∀ e ∈ s.effects es, e ≠ .closed u) (hnone : versions u (s.effects es) = []) :
    Overtaken u (s.run es) := by
  induction es generalizing s with
  | nil => exact h
  | cons e es ih =>
      obtain ⟨he, hes⟩ := List.forall_mem_cons.mp hopen
      have hnoted : (e.effect s.phase).noted? u = none := by
        cases hnoted : (e.effect s.phase).noted? u with
        | none => rfl
        | some v => exact absurd ((versions_cons_of_noted hnoted _).symm.trans hnone) (by simp)
      refine ih ?_ hes ((versions_cons_of_other hnoted _).symm.trans hnone)
      obtain ⟨kept, hkept, htimers⟩ := timers_after s e
      intro timer htimer hu
      rw [version?_after, Effect.latest_of_other hnoted he]
      rw [htimers, List.mem_append] at htimer
      rcases htimer with hold | hnew
      · exact h timer (hkept.subset hold) hu
      · exact absurd ((Effect.noted?_of_timer hnew).symm.trans (hu ▸ hnoted)) (by simp)

theorem Overtaken.not_lints {u : Uri} {s : Server} {e : Moment} (h : Overtaken u s) :
    ¬ Lints s u e := by
  rintro ⟨i, timer, hexpiry, hi, rfl, hspawned⟩
  rw [after_of_expiry hexpiry] at hspawned
  have hversion := version?_of_spawned hi hspawned
  obtain ⟨v, hv, hlt⟩ := h timer (List.mem_of_getElem? hi) rfl
  obtain rfl : timer.version = v := Option.some.inj (hversion.symm.trans hv)
  exact Int.lt_irrefl _ hlt

/-! ## Bursts -/

/-- What is neither an opening nor a change of a document notes no version of it. -/
theorem versions_eq_nil {u : Uri} {es : List Effect} (hopened : ∀ e ∈ es, ∀ v, e ≠ .opened u v)
    (hchanged : ∀ e ∈ es, ∀ v, e ≠ .changed u v) : versions u es = [] := by
  refine List.filterMap_eq_nil_iff.mpr fun e he => ?_
  cases e with
  | opened w v =>
      refine if_neg ?_
      rintro rfl
      exact hopened _ he v rfl
  | changed w v =>
      refine if_neg ?_
      rintro rfl
      exact hchanged _ he v rfl
  | _ => rfl

/-- What the life of a timer comes to in a run. -/
theorem effects_life {s : Server} {u : Uri} {version : Int} (life : TimerLife s u version)
    (rest : List Moment) :
    s.effects (life.moments ++ rest) =
      .changed u version :: (life.later ++ life.eve.effects (life.expiry :: rest)) := by
  have hmoments : life.moments ++ rest = life.change :: (life.between ++ life.expiry :: rest) := by
    simp [TimerLife.moments]
  show s.effects _ = _
  rw [hmoments, effects, life.changes, effects_append]
  rfl

section Burst

variable {u : Uri} {version : Int} {before rest : List Moment}
  {life : TimerLife (fresh.run before) u version}

/-- From a change on, the versions of its document ascend from the version of the change. -/
theorem ascends_from_change
    (h : Ascends u none (fresh.effects (before ++ (life.moments ++ rest)))) :
    Ascends u (some version) (life.later ++ life.eve.effects (life.expiry :: rest)) := by
  rw [effects_append, effects_life, Ascends.append] at h
  have hrest := h.2.2
  rwa [Effect.latest, if_pos rfl] at hrest

theorem open_from_change
    (h : ∀ e ∈ fresh.effects (before ++ (life.moments ++ rest)), e ≠ .closed u) :
    ∀ e ∈ life.later ++ life.eve.effects (life.expiry :: rest), e ≠ .closed u := by
  intro e he
  apply h
  rw [effects_append, effects_life]
  exact List.mem_append_right _ (List.mem_cons_of_mem _ he)

end Burst

/-- **Debouncing keeps the last change of a burst.** In a run in which a document is not closed and
its versions ascend, a timer that a change of the document set lints it when it expires exactly if
neither an opening nor a change of the document was handled in between. So the last change of the
document in the run lints it when its timer expires; only opening the document once more, which an
editor does not do while it is open, lints it earlier instead. And between two lints that timers of
the document start, a version of it is noted. Other documents, lint calls and settings may do
meanwhile what they like. -/
theorem lints_last_of_burst (events : List Moment) (u : Uri)
    (hascends : Ascends u none (fresh.effects events))
    (hopen : ∀ e ∈ fresh.effects events, e ≠ .closed u) :
    (∀ before rest version (life : TimerLife (fresh.run before) u version),
      events = before ++ (life.moments ++ rest) →
      life.Spawns (if versions u life.later = [] then [.file u.file?] else []) ∧
      ((∀ e ∈ life.later ++ life.eve.effects (life.expiry :: rest), ∀ v, e ≠ .changed u v) →
        (∀ e ∈ life.later, ∀ v, e ≠ .opened u v) → life.Spawns [.file u.file?])) ∧
    (∀ before first between second rest,
      events = before ++ (first :: between ++ second :: rest) →
      Lints (fresh.run before) u first →
      Lints (fresh.run (before ++ first :: between)) u second →
      versions u (((fresh.run before).after first).effects between) ≠ []) := by
  refine ⟨?_, ?_⟩
  · rintro before rest version life rfl
    have hlater := (Ascends.append.mp (ascends_from_change hascends)).1
    have hopen' : ∀ e ∈ life.later, e ≠ .closed u := fun e he =>
      open_from_change hopen e (List.mem_append_left _ he)
    have hspawns := life.spawns_latest
    simp only [hlater.latest_eq_self_iff hopen'] at hspawns
    refine ⟨hspawns, fun hlast hopened => ?_⟩
    have hnone : versions u life.later = [] :=
      versions_eq_nil hopened fun e he => hlast e (List.mem_append_left _ he)
    rwa [if_pos hnone] at hspawns
  · -- the first lint leaves only overtaken timers, and nothing in between sets another one
    rintro before first between second rest rfl hfirst hsecond hnone
    rw [effects_append] at hascends hopen
    have hbefore := (Ascends.append.mp hascends).1
    have hranked : Ranked u (fresh.run before) :=
      Ranked.run ⟨List.Pairwise.nil, fun _ h => absurd h List.not_mem_nil⟩
        (fun e he => hopen e (List.mem_append_left _ he)) hbefore
    have hafter : (fresh.run before).effects (first :: between ++ second :: rest) =
        first.effect (fresh.run before).phase ::
          (((fresh.run before).after first).effects between ++
            (((fresh.run before).after first).run between).effects (second :: rest)) := by
      rw [List.cons_append, effects, effects_append]
    have hovertaken : Overtaken u (((fresh.run before).after first).run between) := by
      refine (hranked.overtaken_after_lint hfirst).run (fun e he => hopen e ?_) hnone
      rw [hafter]
      exact List.mem_append_right _ (List.mem_cons_of_mem _ (List.mem_append_left _ he))
    rw [run_append, run_cons] at hsecond
    exact hovertaken.not_lints hsecond

def opening : List Moment := [told (.setUp rootFileUri .null), told (.didOpen rootFileUri 1 "")]

theorem effects_opening :
    fresh.effects opening = [.setUp ⟨some rootFile, none, none⟩, .opened rootFile 1] := by
  have hsetUp : (Message.setUp rootFileUri .null).effect .uninitialized = _ :=
    effect_setUp parse_rootFileUri rfl
  have hopened := effect_didOpen "" parse_rootFileUri (show IsVersion 1 by decide)
  simp only [opening, effects_cons, phase_after, effect_told, phase_fresh, hsetUp, hopened,
    Effect.phase]
  rfl

theorem phase_opening : (fresh.run opening).phase = .initialized := rfl

theorem effect_changed_two :
    (Message.didChange rootFileUri 2 "").effect .initialized = .changed rootFile 2 :=
  effect_didChange "" parse_rootFileUri (by decide)

/-- A document is changed twice, and then both timers expire. -/
def burst : List Moment :=
  opening ++ [
    told (.didChange rootFileUri 2 ""),
    told (.didChange rootFileUri 3 ""),
    ⟨.bare, .expiry 0⟩,
    ⟨.bare, .expiry 0⟩]

theorem effects_burst :
    fresh.effects burst = [.setUp ⟨some rootFile, none, none⟩, .opened rootFile 1,
      .changed rootFile 2, .changed rootFile 3, .nothing, .nothing] := by
  have hthird := effect_didChange "" parse_rootFileUri (show IsVersion 3 by decide)
  rw [burst, effects_append, effects_opening]
  simp only [effects_cons, phase_after, effect_told, phase_opening, effect_changed_two, hthird,
    Effect.phase]
  rfl

/-- The timer of the first change of a document, when it is the first to expire. -/
def firstTimer (between : List Moment) (waits : place 0 between = some 0) :
    TimerLife (fresh.run opening) rootFile 2 where
  change := told (.didChange rootFileUri 2 "")
  between := between
  expiry := ⟨.bare, .expiry 0⟩
  stand := 0
  changes := effect_changed_two
  waits := waits
  expires := rfl

/-- The timer of the first of two changes. -/
def firstOfBurst : TimerLife (fresh.run opening) rootFile 2 :=
  firstTimer [told (.didChange rootFileUri 3 "")] rfl

/-- The timer of the second of two changes. -/
def secondOfBurst : TimerLife (fresh.run (burst.take 3)) rootFile 3 where
  change := told (.didChange rootFileUri 3 "")
  between := [⟨.bare, .expiry 0⟩]
  expiry := ⟨.bare, .expiry 0⟩
  stand := 0
  changes := effect_didChange "" parse_rootFileUri (by decide)
  waits := rfl
  expires := rfl

/-- Of two changes only the second one lints. -/
theorem lints_last_of_burst_two :
    Ascends rootFile none (fresh.effects burst) ∧
      (∀ e ∈ fresh.effects burst, e ≠ .closed rootFile) ∧
      firstOfBurst.Spawns [] ∧ secondOfBurst.Spawns [.file (some (.ofString "/a.js"))] := by
  have hascends : Ascends rootFile none (fresh.effects burst) := by
    rw [effects_burst]
    simp [Ascends, Effect.noted?, Effect.latest]
  have hopen : ∀ e ∈ fresh.effects burst, e ≠ .closed rootFile := by
    rw [effects_burst]
    simp
  have hburst := (lints_last_of_burst burst rootFile hascends hopen).1
  refine ⟨hascends, hopen, ?_, ?_⟩
  · have hlater : versions rootFile firstOfBurst.later = [3] := rfl
    have h := (hburst opening [⟨.bare, .expiry 0⟩] 2 firstOfBurst rfl).1
    rwa [if_neg (by simp [hlater])] at h
  · have hlater : secondOfBurst.later = [.nothing] := rfl
    have hrest : secondOfBurst.eve.effects [secondOfBurst.expiry] = [.nothing] := rfl
    exact (hburst (burst.take 3) [] 3 secondOfBurst rfl).2 (by simp [hlater, hrest])
      (by simp [hlater])

/-- A document is changed, and opened once more before the timer expires. -/
def openedOver : List Moment :=
  opening ++ [
    told (.didChange rootFileUri 2 ""),
    told (.didOpen rootFileUri 3 ""),
    ⟨.bare, .expiry 0⟩]

theorem effects_openedOver :
    fresh.effects openedOver = [.setUp ⟨some rootFile, none, none⟩, .opened rootFile 1,
      .changed rootFile 2, .opened rootFile 3, .nothing] := by
  have hthird := effect_didOpen "" parse_rootFileUri (show IsVersion 3 by decide)
  rw [openedOver, effects_append, effects_opening]
  simp only [effects_cons, phase_after, effect_told, phase_opening, effect_changed_two, hthird,
    Effect.phase]
  rfl

/-- The timer of a change whose document is opened once more. -/
def acrossOpening : TimerLife (fresh.run opening) rootFile 2 :=
  firstTimer [told (.didOpen rootFileUri 3 "")] rfl

theorem later_acrossOpening : acrossOpening.later = [.opened rootFile 3] := rfl

/-- In a run in which no document is closed and the versions of every document ascend, the last
change of a document does not lint when its timer expires. -/
theorem last_change_silent :
    openedOver = opening ++ acrossOpening.moments ∧
      (∀ u, Ascends u none (fresh.effects openedOver)) ∧
      (∀ u, ∀ e ∈ fresh.effects openedOver, e ≠ .closed u) ∧
      (∀ e ∈ acrossOpening.later ++ acrossOpening.eve.effects [acrossOpening.expiry],
        ∀ v, e ≠ .changed rootFile v) ∧
      acrossOpening.Spawns [] := by
  refine ⟨rfl, fun u => ?_, fun u => ?_, ?_, ?_⟩
  · rw [effects_openedOver]
    by_cases hu : rootFile = u <;> simp [Ascends, Effect.noted?, Effect.latest, hu]
  · rw [effects_openedOver]
    simp
  · have hrest : acrossOpening.eve.effects [acrossOpening.expiry] = [.nothing] := rfl
    simp [later_acrossOpening, hrest]
  · have hspawns := acrossOpening.spawns_latest
    rwa [later_acrossOpening, if_neg (by simp [latest, Effect.latest])] at hspawns

/-! ## Closed documents -/

/-- After a document was closed for the last time, its version is the one noted last since. -/
theorem latest_since_close {u : Uri} (current : Option Int) (prior : List Effect)
    {since : List Effect} (hopen : ∀ e ∈ since, e ≠ .closed u) :
    latest u current (prior ++ .closed u :: since) = (versions u since).getLast? := by
  have hclose : latest u current (prior ++ .closed u :: since) = latest u none since := by
    simp [latest, Effect.latest]
  rw [hclose, latest_eq_getLast? hopen, Option.or_none]

/-- **A change of a document that was closed lints only if the document is back at its version.**
Whatever else happens while the timer of a change runs: if the document is closed meanwhile, the
timer lints it exactly if the version noted last since it was last closed is that of the change. So a
document that is not opened again is not linted, nor is one that has come to another version. -/
theorem closed_change_lints_iff {s : Server} {u : Uri} {version : Int}
    (life : TimerLife s u version) (hclosed : .closed u ∈ life.later) :
    ∃ prior since, life.later = prior ++ .closed u :: since ∧ (∀ e ∈ since, e ≠ .closed u) ∧
      life.Spawns
        (if (versions u since).getLast? = some version then [.file u.file?] else []) := by
  obtain ⟨since, prior, hlater, hsince⟩ :=
    List.eq_append_cons_of_mem (List.mem_reverse.mpr hclosed)
  have hlater : life.later = prior.reverse ++ .closed u :: since.reverse := by
    simpa using congrArg List.reverse hlater
  have hopen : ∀ e ∈ since.reverse, e ≠ .closed u := by
    rintro e he rfl
    exact hsince (List.mem_reverse.mp he)
  refine ⟨prior.reverse, since.reverse, hlater, hopen, ?_⟩
  have hspawns := life.spawns_latest
  rwa [hlater, latest_since_close _ _ hopen] at hspawns

/-- A document is changed, closed, and opened again at the version of the change. -/
def reopened : List Moment :=
  opening ++ [
    told (.didChange rootFileUri 2 ""),
    told (.didClose rootFileUri),
    told (.didOpen rootFileUri 2 ""),
    ⟨.bare, .expiry 0⟩]

theorem effects_reopened :
    fresh.effects reopened = [.setUp ⟨some rootFile, none, none⟩, .opened rootFile 1,
      .changed rootFile 2, .closed rootFile, .opened rootFile 2, .nothing] := by
  have hagain := effect_didOpen "" parse_rootFileUri (show IsVersion 2 by decide)
  rw [reopened, effects_append, effects_opening]
  simp only [effects_cons, phase_after, effect_told, phase_opening, effect_changed_two,
    effect_didClose parse_rootFileUri, hagain, Effect.phase]
  rfl

/-- The timer of a change whose document is closed and opened again. -/
def acrossClose : TimerLife (fresh.run opening) rootFile 2 :=
  firstTimer [told (.didClose rootFileUri), told (.didOpen rootFileUri 2 "")] rfl

theorem later_acrossClose : acrossClose.later = [.closed rootFile, .opened rootFile 2] := rfl

/-- The document was closed, and comes back to the version of the change. -/
theorem closed_change_lints_iff_reopened :
    .closed rootFile ∈ acrossClose.later ∧ acrossClose.Spawns [.file (some (.ofString "/a.js"))] := by
  have hclosed : .closed rootFile ∈ acrossClose.later := by simp [later_acrossClose]
  obtain ⟨prior, since, hlater, -, hspawns⟩ := closed_change_lints_iff acrossClose hclosed
  rw [later_acrossClose] at hlater
  cases prior with
  | nil =>
      obtain rfl : [.opened rootFile 2] = since := (List.cons.inj hlater).2
      exact ⟨hclosed, hspawns⟩
  | cons e prior => cases prior <;> simp at hlater

/-- In a run in which the versions of every document ascend from each opening to the next closing, a
change is linted after its document was closed. -/
theorem lints_after_reopening :
    reopened = opening ++ acrossClose.moments ∧
      (∀ u, Ascends u none (fresh.effects reopened)) ∧ .closed rootFile ∈ acrossClose.later ∧
      acrossClose.Spawns [.file (some (.ofString "/a.js"))] := by
  refine ⟨rfl, fun u => ?_, by simp [later_acrossClose], ?_⟩
  · rw [effects_reopened]
    by_cases hu : rootFile = u <;> simp [Ascends, Effect.noted?, Effect.latest, hu]
  · have hspawns := acrossClose.spawns_latest
    rwa [later_acrossClose, if_pos (by simp [latest, Effect.latest])] at hspawns

end Server
end LintRelay
