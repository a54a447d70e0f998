import LintRelay.Proofs.Session.Settings

/-!
# Updates that overlap

New settings come into force in two places, one after the other: the reconciler gets the name of the
source, and the session gets the settings with the admission that was made of them before. Each is
one step, and nothing keeps the steps of one update together. An `Updating` is a session with any
number of updates at their several stages; a turn takes one update one step further.

Settings and admission never part, since they are put in force together. The name of the source is
that of the last update that named it, the settings are those of the last update that came to its end
(`overlapping_updates`); where these are two updates with different names, the session is left with
the settings of the one under the name of the other (`overlapping_updates_split`).
-/

namespace LintRelay
namespace Session

inductive UpdateStage where
  | unmade
  | prepared (admission : Admission)
  /-- It has named the source, and has yet to put its settings in force. -/
  | named (admission : Admission)
  | done (result : Except LintError Unit)

/-- What the stage of an update with the settings `s` says: what the update has written, and what
became of its settings. -/
def UpdateStage.Fits (s : Settings) (hasNamed hasEnforced : Prop) : UpdateStage → Prop
  | .unmade => ¬hasNamed ∧ ¬hasEnforced
  | .prepared a => s.admission = .ok a ∧ ¬hasNamed ∧ ¬hasEnforced
  | .named a => s.admission = .ok a ∧ hasNamed ∧ ¬hasEnforced
  | .done (.ok _) => (∃ a, s.admission = .ok a) ∧ hasNamed ∧ hasEnforced
  | .done (.error e) => (∃ r, s.admission = .error r ∧ e = .settings (.badGlob r)) ∧
      ¬hasNamed ∧ ¬hasEnforced

/-- A session of which updates are asked at the same time, with those that named the source and those
that put their settings in force, in the order in which they did. -/
structure Updating where
  session : Session
  stage : Nat → UpdateStage
  named : List Nat
  enforced : List Nat

namespace Updating

/-- A session of which no update is asked yet. -/
def start (x : Session) : Updating := ⟨x, fun _ => .unmade, [], []⟩

/-- Update `i` comes to a stage. -/
def move (c : Updating) (i : Nat) (s : UpdateStage) : Updating :=
  { c with stage := Function.update c.stage i s }

/-- Update `i` names the source. -/
def name (c : Updating) (i : Nat) (s : Settings) : Updating :=
  { c with
    session := { c.session with reconciler := c.session.reconciler.setSourceId s.sourceId }
    named := c.named ++ [i] }

/-- Update `i` puts its settings in force, with the admission that was made of them. -/
def enforce (c : Updating) (i : Nat) (s : Settings) (a : Admission) : Updating :=
  { c with
    session := { c.session with settings := s, admission := a }
    enforced := c.enforced ++ [i] }

/-- Update `i`, which asks for the settings `asked i`, takes its next step. -/
def step (asked : Nat → Settings) (c : Updating) (i : Nat) : Updating :=
  match c.stage i with
  | .unmade =>
    match (asked i).admission with
    | .ok a => c.move i (.prepared a)
    | .error r => c.move i (.done (.error (.settings (.badGlob r))))
  | .prepared a => (c.name i (asked i)).move i (.named a)
  | .named a => (c.enforce i (asked i) a).move i (.done (.ok ()))
  | .done _ => c

/-- What turns make of a session, first one first. -/
def ofTurns (x : Session) (asked : Nat → Settings) (turns : List Nat) : Updating :=
  turns.foldl (step asked) (start x)

/-- Whether every update that was asked for has returned. -/
def Finished (c : Updating) : Prop :=
  ∀ i, c.stage i = .unmade ∨ ∃ result, c.stage i = .done result

/-! ## One update -/

variable {x : Session} {asked : Nat → Settings} {c : Updating}

theorem stage_move_self (c : Updating) (i : Nat) (s : UpdateStage) : (c.move i s).stage i = s :=
  Function.update_self ..

theorem stage_move_of_ne (c : Updating) {i j : Nat} (s : UpdateStage) (h : j ≠ i) :
    (c.move i s).stage j = c.stage j :=
  Function.update_of_ne h ..

theorem step_refused {i : Nat} {r : Glob.Refusal} (hi : c.stage i = .unmade)
    (h : (asked i).admission = .error r) :
    c.step asked i = c.move i (.done (.error (.settings (.badGlob r)))) := by
  rw [step, hi]
  dsimp only
  rw [h]

theorem step_accepted {i : Nat} {a : Admission} (hi : c.stage i = .unmade)
    (h : (asked i).admission = .ok a) : c.step asked i = c.move i (.prepared a) := by
  rw [step, hi]
  dsimp only
  rw [h]

theorem step_prepared {i : Nat} {a : Admission} (hi : c.stage i = .prepared a) :
    c.step asked i = (c.name i (asked i)).move i (.named a) := by
  rw [step, hi]

theorem step_named {i : Nat} {a : Admission} (hi : c.stage i = .named a) :
    c.step asked i = (c.enforce i (asked i) a).move i (.done (.ok ())) := by
  rw [step, hi]

theorem step_done {i : Nat} {result : Except LintError Unit} (hi : c.stage i = .done result) :
    c.step asked i = c := by
  rw [step, hi]

/-- A step leaves the stages of the other updates alone. -/
theorem stage_step_of_ne {i j : Nat} (h : j ≠ i) : (c.step asked i).stage j = c.stage j := by
  unfold step
  split
  · split <;> exact stage_move_of_ne _ _ h
  · exact stage_move_of_ne _ _ h
  · exact stage_move_of_ne _ _ h
  · rfl

/-- An update that has no turn was not asked for. -/
theorem stage_ofTurns_of_not_mem {turns : List Nat} {i : Nat} (h : i ∉ turns) :
    (ofTurns x asked turns).stage i = .unmade := by
  induction turns using List.reverseRecOn with
  | nil => rfl
  | append_singleton turns j ih =>
      obtain ⟨hturns, hj⟩ : i ∉ turns ∧ i ≠ j := by simpa using h
      rw [ofTurns, List.foldl_concat, stage_step_of_ne hj]
      exact ih hturns

theorem finished_of_turns {turns : List Nat}
    (h : ∀ i ∈ turns, ∃ result, (ofTurns x asked turns).stage i = .done result) :
    (ofTurns x asked turns).Finished := by
  intro i
  by_cases hi : i ∈ turns
  · exact .inr (h i hi)
  · exact .inl (stage_ofTurns_of_not_mem hi)

/-- The steps of an update that nothing comes in between of are an update as a whole. -/
theorem steps_alone {i : Nat} (hi : c.stage i = .unmade) :
    let d := [i, i, i].foldl (step asked) c
    (d.session, d.stage i) =
      match c.session.updateSettings (asked i) with
      | .ok y => (y, .done (.ok ()))
      | .error e => (c.session, .done (.error e)) := by
  dsimp only [List.foldl_cons, List.foldl_nil]
  cases h : (asked i).admission with
  | error r =>
      rw [updateSettings_refused h, step_refused hi h, step_done (stage_move_self ..),
        step_done (stage_move_self ..), stage_move_self]
      rfl
  | ok a =>
      rw [updateSettings_accepted h, step_accepted hi h, step_prepared (stage_move_self ..),
        step_named (stage_move_self ..), stage_move_self]
      rfl

/-! ## What the steps keep -/

/-- The name of the source: that of the last update that named it, or else the first one. -/
def lastSource (x : Session) (asked : Nat → Settings) (c : Updating) : String :=
  (c.named.getLast?.map fun i => (asked i).sourceId).getD x.reconciler.sourceId

/-- The settings of the last update that put them in force, or else the first ones. -/
def lastSettings (x : Session) (asked : Nat → Settings) (c : Updating) : Settings :=
  (c.enforced.getLast?.map asked).getD x.settings

/-- What a session with updates comes to: each of its places is as the last update to write there
has left it, and every update has written what its stage says. -/
structure Written (x : Session) (asked : Nat → Settings) (c : Updating) : Prop where
  settings : c.session.settings = c.lastSettings x asked
  admission : c.session.settings.admission = .ok c.session.admission
  reconciler : c.session.reconciler = x.reconciler.setSourceId (c.lastSource x asked)
  lastProjectFile : c.session.lastProjectFile = x.lastProjectFile
  named_once : c.named.Nodup
  enforced_once : c.enforced.Nodup
  fits : ∀ i, (c.stage i).Fits (asked i) (i ∈ c.named) (i ∈ c.enforced)

/-- A step that writes nothing. -/
theorem Written.move (h : Written x asked c) {i : Nat} {s : UpdateStage}
    (hs : s.Fits (asked i) (i ∈ c.named) (i ∈ c.enforced)) : Written x asked (c.move i s) where
  settings := h.settings
  admission := h.admission
  reconciler := h.reconciler
  lastProjectFile := h.lastProjectFile
  named_once := h.named_once
  enforced_once := h.enforced_once
  fits j := by
    by_cases hj : j = i
    · rw [hj, stage_move_self]
      exact hs
    · rw [stage_move_of_ne c s hj]
      exact h.fits j

/-- One more update in a list of those that have written changes nothing for the others. -/
theorem mem_concat_of_ne {i j : Nat} (h : j ≠ i) (is : List Nat) :
    (j ∈ is ++ [i]) = (j ∈ is) := by
  simp [h]

/-- The update that names the source is the last one that did. -/
theorem Written.name (h : Written x asked c) {i : Nat} {a : Admission}
    (hi : c.stage i = .prepared a) :
    Written x asked ((c.name i (asked i)).move i (.named a)) := by
  obtain ⟨haccepted, hnamed, henforced⟩ :
      (UpdateStage.prepared a).Fits (asked i) (i ∈ c.named) (i ∈ c.enforced) := hi ▸ h.fits i
  refine ⟨h.settings, h.admission, ?_, h.lastProjectFile, ?_, h.enforced_once, fun j => ?_⟩
  · show c.session.reconciler.setSourceId (asked i).sourceId = x.reconciler.setSourceId
      (((c.named ++ [i]).getLast?.map fun i => (asked i).sourceId).getD x.reconciler.sourceId)
    rw [h.reconciler, List.getLast?_concat]
    rfl
  · exact List.nodup_append_comm.mp (List.nodup_cons.mpr ⟨hnamed, h.named_once⟩)
  · show ((c.move i (.named a)).stage j).Fits (asked j) (j ∈ c.named ++ [i]) (j ∈ c.enforced)
    by_cases hj : j = i
    · rw [hj, stage_move_self]
      exact ⟨haccepted, List.mem_concat_self, henforced⟩
    · rw [stage_move_of_ne c _ hj, mem_concat_of_ne hj]
      exact h.fits j

/-- The update that puts its settings in force is the last one that did. -/
theorem Written.enforce (h : Written x asked c) {i : Nat} {a : Admission}
    (hi : c.stage i = .named a) :
    Written x asked ((c.enforce i (asked i) a).move i (.done (.ok ()))) := by
  obtain ⟨haccepted, hnamed, henforced⟩ :
      (UpdateStage.named a).Fits (asked i) (i ∈ c.named) (i ∈ c.enforced) := hi ▸ h.fits i
  refine ⟨?_, haccepted, h.reconciler, h.lastProjectFile, h.named_once, ?_, fun j => ?_⟩
  · show asked i = ((c.enforced ++ [i]).getLast?.map asked).getD x.settings
    rw [List.getLast?_concat]
    rfl
  · exact List.nodup_append_comm.mp (List.nodup_cons.mpr ⟨henforced, h.enforced_once⟩)
  · show ((c.move i (.done (.ok ()))).stage j).Fits (asked j) (j ∈ c.named)
      (j ∈ c.enforced ++ [i])
    by_cases hj : j = i
    · rw [hj, stage_move_self]
      exact ⟨⟨a, haccepted⟩, hnamed, List.mem_concat_self⟩
    · rw [stage_move_of_ne c _ hj, mem_concat_of_ne hj]
      exact h.fits j

theorem Written.start (hforce : InForce x.settings x) (asked : Nat → Settings) :
    Written x asked (start x) where
  settings := rfl
  admission := hforce.admission
  reconciler := rfl
  lastProjectFile := rfl
  named_once := List.nodup_nil
  enforced_once := List.nodup_nil
  fits _ := ⟨List.not_mem_nil, List.not_mem_nil⟩

theorem Written.step (h : Written x asked c) (i : Nat) : Written x asked (c.step asked i) := by
  cases hi : c.stage i with
  | unmade =>
      have hfits : ¬i ∈ c.named ∧ ¬i ∈ c.enforced := by simpa [hi, UpdateStage.Fits] using h.fits i
      cases ha : (asked i).admission with
      | error r =>
          rw [step_refused hi ha]
          exact h.move ⟨⟨r, ha, rfl⟩, hfits⟩
      | ok a =>
          rw [step_accepted hi ha]
          exact h.move ⟨ha, hfits⟩
  | prepared a =>
      rw [step_prepared hi]
      exact h.name hi
  | named a =>
      rw [step_named hi]
      exact h.enforce hi
  | done result =>
      rw [step_done hi]
      exact h

theorem Written.ofTurns (hforce : InForce x.settings x) (asked : Nat → Settings)
    (turns : List Nat) : Written x asked (ofTurns x asked turns) := by
  induction turns using List.reverseRecOn with
  | nil => exact .start hforce asked
  | append_singleton turns i ih =>
      rw [Updating.ofTurns, List.foldl_concat]
      exact ih.step i

/-! ## When all have returned -/

/-- Every update that has returned has written in both places, or was refused. -/
theorem Written.mem_iff (h : Written x asked c) (hfinished : c.Finished) (i : Nat) :
    i ∈ c.named ↔ i ∈ c.enforced := by
  have hfits := h.fits i
  -- by the stage of the update: not asked for, refused, accepted
  rcases hfinished i with hi | ⟨_ | _, hi⟩ <;> rw [hi] at hfits
  · exact iff_of_false hfits.1 hfits.2
  · exact iff_of_false hfits.2.1 hfits.2.2
  · exact iff_of_true hfits.2.1 hfits.2.2

theorem Written.mem_enforced_iff (h : Written x asked c) (hfinished : c.Finished) (i : Nat) :
    i ∈ c.enforced ↔ c.stage i = .done (.ok ()) := by
  have hfits := h.fits i
  rcases hfinished i with hi | ⟨_ | _, hi⟩ <;> rw [hi] at hfits ⊢
  · exact iff_of_false hfits.2 (by simp)
  · exact iff_of_false hfits.2.2 (by simp)
  · exact iff_of_true hfits.2.2 rfl

/-- Source and settings agree exactly if the last update that named the one and the last that put
the other in force have the same name for the source. -/
theorem Written.agrees_iff (h : Written x asked c) (hforce : InForce x.settings x)
    (hfinished : c.Finished) :
    c.session.reconciler.sourceId = c.session.settings.sourceId ↔
      ∀ i j, c.named.getLast? = some i → c.enforced.getLast? = some j →
        (asked i).sourceId = (asked j).sourceId := by
  rw [h.reconciler, h.settings]
  show c.lastSource x asked = (c.lastSettings x asked).sourceId ↔ _
  unfold lastSource lastSettings
  have hmem := h.mem_iff hfinished
  rcases List.eq_nil_or_concat' c.named with hnamed | ⟨before, i, hnamed⟩
  · -- no update was accepted, so that both are as they were at first
    have henforced : c.enforced = [] :=
      List.eq_nil_iff_forall_not_mem.mpr fun j hj => by
        rw [← hmem, hnamed] at hj
        exact absurd hj List.not_mem_nil
    rw [hnamed, henforced]
    exact iff_of_true hforce.source fun i j hi => by simp at hi
  · rcases List.eq_nil_or_concat' c.enforced with henforced | ⟨before', j, henforced⟩
    · have hi : i ∈ c.enforced := (hmem i).mp (hnamed ▸ List.mem_concat_self)
      rw [henforced] at hi
      exact absurd hi List.not_mem_nil
    · rw [hnamed, henforced]
      simp

/-- **Updates that overlap may leave the settings of one under the name of another.** Whatever turns
the updates take, the session has the settings of the last one that put its settings in force, with
the admission that is made of them, and the name of the last one that named the source; what is
published and which file would be fixed stay. An update that nothing comes in between of is an
update as a whole. Once all have returned, the same updates have written in both places, each once:
those that were accepted. Name and settings agree then exactly if the last update to write the one
and the last to write the other have the same name for the source. -/
theorem overlapping_updates (x : Session) (hforce : InForce x.settings x)
    (asked : Nat → Settings) (turns : List Nat) :
    let c := ofTurns x asked turns
    c.session.settings = c.lastSettings x asked ∧
    c.session.settings.admission = .ok c.session.admission ∧
    c.session.reconciler = x.reconciler.setSourceId (c.lastSource x asked) ∧
    c.session.lastProjectFile = x.lastProjectFile ∧
    (∀ i, c.stage i = .unmade →
      let d := [i, i, i].foldl (step asked) c
      (d.session, d.stage i) =
        match c.session.updateSettings (asked i) with
        | .ok y => (y, .done (.ok ()))
        | .error e => (c.session, .done (.error e))) ∧
    (c.Finished →
      c.named.Perm c.enforced ∧ c.enforced.Nodup ∧
      (∀ i, i ∈ c.enforced ↔ c.stage i = .done (.ok ())) ∧
      (c.session.reconciler.sourceId = c.session.settings.sourceId ↔
        ∀ i j, c.named.getLast? = some i → c.enforced.getLast? = some j →
          (asked i).sourceId = (asked j).sourceId)) := by
  intro c
  have h : Written x asked c := .ofTurns hforce asked turns
  refine ⟨h.settings, h.admission, h.reconciler, h.lastProjectFile, fun i => steps_alone,
    fun hfinished => ⟨?_, h.enforced_once, h.mem_enforced_iff hfinished,
      h.agrees_iff hforce hfinished⟩⟩
  exact (List.perm_ext_iff_of_nodup h.named_once h.enforced_once).mpr (h.mem_iff hfinished)

/-- Two updates that differ in the name of the source. -/
def firstAndSecond (i : Nat) : Settings :=
  { Settings.standard with sourceId := if i = 0 then "first" else "second" }

/-- Both update at the same time, and neither comes in between the steps of the other that write. -/
theorem overlapping_updates_agree :
    let c := ofTurns .standard firstAndSecond [0, 1, 0, 0, 1, 1]
    c.Finished ∧ c.session.settings = firstAndSecond 1 ∧
      c.session.reconciler.sourceId = c.session.settings.sourceId := by
  intro c
  have hdone : ∀ i < 2, c.stage i = .done (.ok ())
    | 0, _ => rfl
    | 1, _ => rfl
  have hturns : ∀ i ∈ [0, 1, 0, 0, 1, 1], i < 2 := by decide
  have hfinished : c.Finished := finished_of_turns fun i hi => ⟨_, hdone i (hturns i hi)⟩
  obtain ⟨hsettings, -, -, -, -, hend⟩ :=
    overlapping_updates .standard .standard firstAndSecond [0, 1, 0, 0, 1, 1]
  obtain ⟨-, -, -, hagrees⟩ := hend hfinished
  have hnamed : c.named = [0, 1] := by rfl
  have henforced : c.enforced = [0, 1] := by rfl
  refine ⟨hfinished, hsettings, hagrees.mpr fun i j hi hj => ?_⟩
  rw [show ofTurns _ _ _ = c from rfl, hnamed] at hi
  rw [show ofTurns _ _ _ = c from rfl, henforced] at hj
  rw [Option.some.inj (hi.symm.trans hj)]

/-- The second update comes in between the steps of the first, and the session is left with the
settings of the first under the name of the second. -/
theorem overlapping_updates_split :
    let c := ofTurns .standard firstAndSecond [0, 1, 0, 1, 1, 0]
    c.Finished ∧ (∀ i < 2, c.stage i = .done (.ok ())) ∧
      c.session.settings = firstAndSecond 0 ∧
      c.session.settings.sourceId = "first" ∧ c.session.reconciler.sourceId = "second" := by
  intro c
  have hdone : ∀ i < 2, c.stage i = .done (.ok ())
    | 0, _ => rfl
    | 1, _ => rfl
  have hturns : ∀ i ∈ [0, 1, 0, 1, 1, 0], i < 2 := by decide
  exact ⟨finished_of_turns fun i hi => ⟨_, hdone i (hturns i hi)⟩, hdone, by rfl, by rfl, by rfl⟩

end Updating
end Session
end LintRelay
