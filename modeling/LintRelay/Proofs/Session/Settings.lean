import LintRelay.Proofs.Session.Requests

/-!
# One notion of settings

A session keeps its settings in three places: as they were given, as the admission that they
describe, and in the name under which the reconciler publishes. Both ways to make a session fill all
three, new settings replace all three or nothing, and no call touches any of them
(`Session.InForce`). So the three never disagree, whatever calls and updates follow each other
(`settings_never_disagree`).
-/

namespace LintRelay
namespace Session

/-! ## One update -/

section Update

variable {x : Session} {s : Settings}

/-- Settings with a pattern that is refused are refused for it. -/
theorem updateSettings_refused {r : Glob.Refusal} (h : s.admission = .error r) :
    x.updateSettings s = .error (.settings (.badGlob r)) := by
  rw [updateSettings, h]

/-- All other settings are accepted. -/
theorem updateSettings_accepted {a : Admission} (h : s.admission = .ok a) :
    x.updateSettings s =
      .ok { x with settings := s, admission := a,
                   reconciler := x.reconciler.setSourceId s.sourceId } := by
  rw [updateSettings, h]

end Update

/-- Settings in force describe the admission of the session. -/
theorem InForce.admits {x : Session} (h : InForce x.settings x) :
    ∃ fresh, x.settings.admission = .ok fresh ∧ ∀ p, x.admits p = fresh.admits p :=
  ⟨x.admission, h.admission, fun _ => rfl⟩

namespace Activity

/-! ## Updates among other events -/

/-- Settings that are refused leave everything as it was. -/
theorem after_update_refused (a : Activity) {s : Settings} {r : Glob.Refusal}
    (h : s.admission = .error r) : a.after (.update s) = a := by
  rw [after, updateSettings_refused h]

/-- Settings that are accepted change what is said of settings, and nothing else. -/
theorem after_update_accepted (a : Activity) {s : Settings} {fresh : Admission}
    (h : s.admission = .ok fresh) :
    a.after (.update s) = { a with session := { a.session with
      settings := s
      admission := fresh
      reconciler := a.session.reconciler.setSourceId s.sourceId } } := by
  rw [after, updateSettings_accepted h]

/-- **Settings, admission and source never disagree.** However a session was made and whatever
calls, answers and updates followed, its settings are the last ones accepted, or else those it was
made with. It admits every path as an admission does that is made from these settings now, and it
publishes under their name. An update is refused exactly if a pattern is, and then the session is as
it was in every respect; otherwise the new settings are in force, and what is published, which
project run is in force and which file would be fixed stay as they were. -/
theorem settings_never_disagree (x : Session) (hnew : x.IsNew) (events : List Event) :
    let a := ofEvents x events
    let y := a.session
    y.settings = settingsAfter x.settings events ∧
    (∃ fresh, y.settings.admission = .ok fresh ∧ ∀ p, y.admits p = fresh.admits p) ∧
    y.reconciler.sourceId = y.settings.sourceId ∧
    (∀ s r, s.admission = .error r →
      y.updateSettings s = .error (.settings (.badGlob r)) ∧ a.after (.update s) = a) ∧
    (∀ s fresh, s.admission = .ok fresh →
      let z := (a.after (.update s)).session
      y.updateSettings s = .ok z ∧ z.settings = s ∧ (∀ p, z.admits p = fresh.admits p) ∧
      z.reconciler.sourceId = s.sourceId ∧
      z.reconciler.published = y.reconciler.published ∧
      z.reconciler.generation = y.reconciler.generation ∧
      z.lastProjectFile = y.lastProjectFile) := by
  intro a y
  have hforce : InForce (settingsAfter x.settings events) y := inForce_ofEvents hnew events
  have hown : InForce y.settings y := hforce.settings ▸ hforce
  refine ⟨hforce.settings, hown.admits, hown.source, ?_, ?_⟩
  · intro s r hrefused
    exact ⟨updateSettings_refused hrefused, a.after_update_refused hrefused⟩
  · intro s fresh haccepted z
    have hz : z = _ := congrArg Activity.session (a.after_update_accepted haccepted)
    rw [hz]
    exact ⟨updateSettings_accepted haccepted, rfl, fun _ => rfl, rfl, rfl, rfl, rfl⟩

/-- Settings for other files and under another name, with a pattern. -/
def scriptSettings : Settings :=
  { Settings.standard with extensions := ["..ts"], exclude := ["/b.*"], sourceId := "scripts" }

/-- The same with a pattern that is refused. -/
def brokenSettings : Settings :=
  { scriptSettings with exclude := ["["], sourceId := "broken" }

/-- A lint waits while settings are accepted and others are refused, and is answered then. -/
def settingsChanged : List Event := [
  .start configAlone (.project (some (.ofString "/a.js")) false),
  .update scriptSettings,
  .update brokenSettings,
  .answer 0 (.ok "[]")]

/-- The settings that were accepted rule which files are linted, and the others are refused
again. -/
theorem settings_never_disagree_changed :
    Session.standard.IsNew ∧
    let a := ofEvents .standard settingsChanged
    a.session.settings = scriptSettings ∧
    a.session.reconciler.sourceId = "scripts" ∧
    a.session.admits (.ofString "/a.ts") = true ∧
    a.session.admits (.ofString "/b.ts") = false ∧
    a.session.admits (.ofString "/a.js") = false ∧
    a.after (.update brokenSettings) = a := by
  obtain ⟨hsettings, ⟨fresh, hfresh, hadmits⟩, hsource, hrefused, -⟩ :=
    settings_never_disagree .standard .standard settingsChanged
  obtain ⟨r, hbroken⟩ : ∃ r, brokenSettings.admission = .error r := ⟨_, rfl⟩
  have hlast : settingsAfter Settings.standard settingsChanged = scriptSettings := by rfl
  rw [show Session.standard.settings = Settings.standard from rfl, hlast] at hsettings
  rw [hsettings] at hfresh hsource
  obtain rfl : fresh = _ := Except.ok.inj (hfresh.symm.trans rfl)
  refine ⟨.standard, hsettings, hsource, ?_, ?_, ?_, (hrefused _ r hbroken).2⟩
  · rw [hadmits]
    decide +kernel
  · rw [hadmits]
    decide +kernel
  · rw [hadmits]
    decide +kernel

end Activity
end Session
end LintRelay
