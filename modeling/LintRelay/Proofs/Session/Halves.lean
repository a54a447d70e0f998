import LintRelay.Proofs.Reconciler.Display
import LintRelay.Session.Basic

/-!
# The two halves of a lint call

Everything that the start of a call can come to (`Starts`, `start_starts`), and everything that its
end can come to (`finish_failed`, `finish_stale`, `finish_applied`, `finish_file`). Later proofs go
by these cases and do not open the functions.
-/

namespace LintRelay

namespace LintCall

/-- The file that a call is about. -/
def file? (x : Session) : LintCall → Option Path
  | .project p _ => p
  | .file p => p
  | .fixLast => x.lastProjectFile

/-- Whether a call lints a project with fixing; nothing for a call that lints one file. -/
def projectFix? : LintCall → Option Bool
  | .project _ fix => some fix
  | .file _ => none
  | .fixLast => some true

end LintCall

namespace Session

/-! ## The start -/

/-- What the start of a project lint of an admitted file comes to. The ticket is taken once there is
a configuration, so it is taken also where the run cannot be planned. -/
inductive StartsProject (x : Session) (t : FileTree) (file : Path) (fix : Bool) :
    Session → Started → Prop
  | lookupFails (e : LintError) :
      lookupLintConfig t x.settings (workingDirFor file) = .error e →
      StartsProject x t file fix { x with lastProjectFile := some file } (.ended (.error e))
  | noConfig :
      lookupLintConfig t x.settings (workingDirFor file) = .ok none →
      StartsProject x t file fix { x with lastProjectFile := some file } (.ended (.ok .noConfig))
  | targetFails (config : Path) (e : LintError) :
      lookupLintConfig t x.settings (workingDirFor file) = .ok (some config) →
      projectTarget t x.settings file (workingDirFor file) = .error e →
      StartsProject x t file fix
        { x with lastProjectFile := some file, reconciler := x.reconciler.begin.1 }
        (.ended (.error e))
  | planFails (config : Path) (target : LintTarget) (e : LintError) :
      lookupLintConfig t x.settings (workingDirFor file) = .ok (some config) →
      projectTarget t x.settings file (workingDirFor file) = .ok target →
      planRun t x.settings config target (workingDirFor file) fix = .error e →
      StartsProject x t file fix
        { x with lastProjectFile := some file, reconciler := x.reconciler.begin.1 }
        (.ended (.error e))
  | asks (config : Path) (target : LintTarget) (invocation : Invocation) :
      lookupLintConfig t x.settings (workingDirFor file) = .ok (some config) →
      projectTarget t x.settings file (workingDirFor file) = .ok target →
      planRun t x.settings config target (workingDirFor file) fix = .ok invocation →
      StartsProject x t file fix
        { x with lastProjectFile := some file, reconciler := x.reconciler.begin.1 }
        (.waiting ⟨file, workingDirFor file, x.settings.useRuleSeverity,
          some x.reconciler.begin.2, invocation⟩)

/-- What the start of the lint of an admitted file comes to. The session is left as it is. -/
inductive StartsFile (x : Session) (t : FileTree) (file : Path) : Started → Prop
  | lookupFails (e : LintError) :
      lookupLintConfig t x.settings (workingDirFor file) = .error e →
      StartsFile x t file (.ended (.error e))
  | noConfig :
      lookupLintConfig t x.settings (workingDirFor file) = .ok none →
      StartsFile x t file (.ended (.ok .noConfig))
  | planFails (config : Path) (e : LintError) :
      lookupLintConfig t x.settings (workingDirFor file) = .ok (some config) →
      planRun t x.settings config (.file file) (workingDirFor file) false = .error e →
      StartsFile x t file (.ended (.error e))
  | asks (config : Path) (invocation : Invocation) :
      lookupLintConfig t x.settings (workingDirFor file) = .ok (some config) →
      planRun t x.settings config (.file file) (workingDirFor file) false = .ok invocation →
      StartsFile x t file
        (.waiting ⟨file, workingDirFor file, x.settings.useRuleSeverity, none, invocation⟩)

/-- What the start of a call comes to. -/
inductive Starts (x : Session) (t : FileTree) (call : LintCall) : Session → Started → Prop
  | skipped :
      (∀ file, call.file? x = some file → x.admits file = false) →
      Starts x t call x (.ended (.ok .skipped))
  | project {file : Path} {fix : Bool} {x' : Session} {started : Started} :
      call.file? x = some file → x.admits file = true → call.projectFix? = some fix →
      StartsProject x t file fix x' started → Starts x t call x' started
  | file {file : Path} {started : Started} :
      call.file? x = some file → x.admits file = true → call.projectFix? = none →
      StartsFile x t file started → Starts x t call x started

theorem startProject_starts (x : Session) (t : FileTree) (file : Path) (fix : Bool) :
    StartsProject x t file fix (x.startProject t file fix).1 (x.startProject t file fix).2 := by
  dsimp only [startProject, bind, Except.bind]
  cases hlookup : lookupLintConfig t x.settings (workingDirFor file) with
  | error e => exact .lookupFails e hlookup
  | ok found =>
      cases found with
      | none => exact .noConfig hlookup
      | some config =>
          cases htarget : projectTarget t x.settings file (workingDirFor file) with
          | error e => exact .targetFails config e hlookup htarget
          | ok target =>
              dsimp only
              cases hplan : planRun t x.settings config target (workingDirFor file) fix with
              | error e => exact .planFails config target e hlookup htarget hplan
              | ok invocation => exact .asks config target invocation hlookup htarget hplan

theorem startFile_session (x : Session) (t : FileTree) (file : Path) :
    (x.startFile t file).1 = x := by
  dsimp only [startFile]
  cases lookupLintConfig t x.settings (workingDirFor file) with
  | error e => rfl
  | ok found =>
      cases found with
      | none => rfl
      | some config =>
          dsimp only
          cases planRun t x.settings config (.file file) (workingDirFor file) false <;> rfl

theorem startFile_starts (x : Session) (t : FileTree) (file : Path) :
    StartsFile x t file (x.startFile t file).2 := by
  dsimp only [startFile]
  cases hlookup : lookupLintConfig t x.settings (workingDirFor file) with
  | error e => exact .lookupFails e hlookup
  | ok found =>
      cases found with
      | none => exact .noConfig hlookup
      | some config =>
          dsimp only
          cases hplan : planRun t x.settings config (.file file) (workingDirFor file) false with
          | error e => exact .planFails config e hlookup hplan
          | ok invocation => exact .asks config invocation hlookup hplan

/-- A call starts with its file if that is admitted, and is skipped otherwise. -/
private theorem startAdmitted_cases (x : Session) (file : Option Path)
    (go : Path → Session × Started) :
    (∃ p, file = some p ∧ x.admits p = true ∧ x.startAdmitted file go = go p) ∨
      ((∀ p, file = some p → x.admits p = false) ∧
        x.startAdmitted file go = (x, .ended (.ok .skipped))) := by
  cases file with
  | none => exact .inr ⟨fun p hp => by simp at hp, rfl⟩
  | some p =>
      by_cases hadmits : x.admits p = true
      · exact .inl ⟨p, rfl, hadmits, if_pos hadmits⟩
      · refine .inr ⟨?_, if_neg hadmits⟩
        intro q hq
        rw [← Option.some.inj hq]
        exact Bool.eq_false_iff.mpr hadmits

theorem start_starts (x : Session) (t : FileTree) (call : LintCall) :
    Starts x t call (x.start t call).1 (x.start t call).2 := by
  cases call with
  | project file fix =>
      rcases x.startAdmitted_cases file fun p => x.startProject t p fix with
        ⟨p, rfl, hadmits, heq⟩ | ⟨hskip, heq⟩
      · rw [start, heq]
        exact .project rfl hadmits rfl (x.startProject_starts t p fix)
      · rw [start, heq]
        exact .skipped hskip
  | file file =>
      rcases x.startAdmitted_cases file fun p => x.startFile t p with
        ⟨p, rfl, hadmits, heq⟩ | ⟨hskip, heq⟩
      · rw [start, heq, x.startFile_session]
        exact .file rfl hadmits rfl (x.startFile_starts t p)
      · rw [start, heq]
        exact .skipped hskip
  | fixLast =>
      rcases x.startAdmitted_cases x.lastProjectFile fun p => x.startProject t p true with
        ⟨p, hlast, hadmits, heq⟩ | ⟨hskip, heq⟩
      · rw [start, heq]
        exact .project hlast hadmits rfl (x.startProject_starts t p true)
      · rw [start, heq]
        exact .skipped hskip

section Waiting

variable {x : Session} {t : FileTree} {file config program : Path}

/-- The lint of a file waits for the linter once there is a configuration and a program. -/
theorem startFile_waits
    (hconfig : findUp t x.settings.lintConfigFile (workingDirFor file) = .ok (some config))
    (hprogram : resolveProgram t x.settings.linterCommand (workingDirFor file) = .ok program) :
    x.startFile t file = (x, .waiting ⟨file, workingDirFor file, x.settings.useRuleSeverity, none,
      .make program config (.file file) (workingDirFor file) false⟩) := by
  simp only [startFile, lookupLintConfig, hconfig, planRun, hprogram, Except.map]

end Waiting

/-- A start either leaves the reconciler alone, and then a call that waits holds no ticket, or takes
one ticket, and then a call that waits holds this one. -/
theorem start_ticket (x : Session) (t : FileTree) (call : LintCall) :
    ((x.start t call).1.reconciler = x.reconciler ∧
      ∀ p, (x.start t call).2 = .waiting p → p.ticket = none) ∨
    ((x.start t call).1.reconciler = x.reconciler.begin.1 ∧
      ∀ p, (x.start t call).2 = .waiting p → p.ticket = some x.reconciler.begin.2) := by
  generalize hx : (x.start t call).1 = x'
  generalize hstarted : (x.start t call).2 = started
  have hstarts := x.start_starts t call
  rw [hx, hstarted] at hstarts
  cases hstarts with
  | skipped => exact .inl ⟨rfl, by simp⟩
  | project _ _ _ hproject =>
      cases hproject with
      | lookupFails => exact .inl ⟨rfl, by simp⟩
      | noConfig => exact .inl ⟨rfl, by simp⟩
      | targetFails => exact .inr ⟨rfl, by simp⟩
      | planFails => exact .inr ⟨rfl, by simp⟩
      | asks => exact .inr ⟨rfl, by rintro p ⟨rfl⟩; rfl⟩
  | file _ _ _ hfile =>
      cases hfile with
      | lookupFails => exact .inl ⟨rfl, by simp⟩
      | noConfig => exact .inl ⟨rfl, by simp⟩
      | planFails => exact .inl ⟨rfl, by simp⟩
      | asks => exact .inl ⟨rfl, by rintro p ⟨rfl⟩; rfl⟩

/-! ## The end -/

section Finish

variable {x : Session} {p : Pending} {output : Except LintError String} {set : FileDiagnostics}

/-- A linter that fails or prints no report changes nothing. -/
theorem finish_failed {e : LintError} (h : readOutput p output = .error e) :
    x.finish p output = (x, [], .error e) := by
  rw [finish, h]

/-- The result of a project run that is older than the one in force is dropped. -/
theorem finish_stale {ticket : Ticket} (h : readOutput p output = .ok set)
    (hticket : p.ticket = some ticket) (hold : ticket < x.reconciler.generation) :
    x.finish p output = (x, [], .ok .stale) := by
  simp only [finish, h, publish, hticket, Reconciler.reconcileRun_stale set hold]

/-- The result of any other project run is published and in force afterwards. -/
theorem finish_applied {ticket : Ticket} (h : readOutput p output = .ok set)
    (hticket : p.ticket = some ticket) (hfresh : ¬ ticket < x.reconciler.generation) :
    x.finish p output =
      ({ x with reconciler := { x.reconciler with published := set, generation := ticket } },
        x.reconciler.send (announcements set ++ clears x.reconciler.published set),
        .ok (.published set.size (clears x.reconciler.published set).length)) := by
  simp only [finish, h, publish, hticket, Reconciler.reconcileRun_applied set hfresh]

/-- The result of a run over one file is published for that file. -/
theorem finish_file (h : readOutput p output = .ok set) (hticket : p.ticket = none) :
    x.finish p output =
      ({ x with reconciler :=
          (x.reconciler.reconcileFile p.file (pickFile set p.file p.workingDir)).1 },
        (x.reconciler.reconcileFile p.file (pickFile set p.file p.workingDir)).2,
        .ok (.published 1 0)) := by
  simp only [finish, h, publish, hticket]

end Finish

/-! ## New settings -/

/-- Settings that are accepted replace the old ones, with what they say about admission and the
source, and leave everything else alone. -/
theorem updateSettings_ok {x x' : Session} {s : Settings} (h : x.updateSettings s = .ok x') :
    ∃ a, s.admission = .ok a ∧
      x' = { x with settings := s, admission := a,
                    reconciler := x.reconciler.setSourceId s.sourceId } := by
  unfold updateSettings at h
  split at h
  · rename_i a ha
    exact ⟨a, ha, (Except.ok.inj h).symm⟩
  · exact absurd h (by simp)

/-- Settings are in force in a session: it admits files as they say, and publishes under their
name. -/
structure InForce (s : Settings) (x : Session) : Prop where
  settings : x.settings = s
  admission : s.admission = .ok x.admission
  source : x.reconciler.sourceId = s.sourceId

theorem InForce.standard : InForce .standard .standard := ⟨rfl, rfl, rfl⟩

/-- No call puts other settings in force when it starts. -/
theorem InForce.start {s : Settings} {x : Session} (h : InForce s x) (t : FileTree)
    (call : LintCall) : InForce s (x.start t call).1 := by
  have hstarts := x.start_starts t call
  generalize (x.start t call).1 = x' at hstarts
  generalize (x.start t call).2 = started at hstarts
  cases hstarts with
  | skipped => exact h
  | project _ _ _ hproject => cases hproject <;> exact ⟨h.settings, h.admission, h.source⟩
  | file => exact h

/-- No call puts other settings in force when it ends. -/
theorem InForce.finish {s : Settings} {x : Session} (h : InForce s x) (p : Pending)
    (output : Except LintError String) : InForce s (x.finish p output).1 := by
  cases hread : readOutput p output with
  | error e =>
      rw [finish_failed hread]
      exact h
  | ok set =>
      cases hticket : p.ticket with
      | none =>
          rw [finish_file hread hticket]
          exact ⟨h.settings, h.admission, h.source⟩
      | some ticket =>
          by_cases hold : ticket < x.reconciler.generation
          · rw [finish_stale hread hticket hold]
            exact h
          · rw [finish_applied hread hticket hold]
            exact ⟨h.settings, h.admission, h.source⟩

end Session
end LintRelay
