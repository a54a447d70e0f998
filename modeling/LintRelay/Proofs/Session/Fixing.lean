import LintRelay.Proofs.Session.Requests

/-!
# Repeating the last project lint

The file that a fix is about is that of the latest project lint that was asked for while the file was
admitted (`lastProjectFile_ofEvents`). Which one this is follows from the events alone, going by the
session in which each of them happens (`lastAsked?`); neither what the lint came to nor anything
else that happened since then matters. The fix starts as a project lint of this file starts, and what
it asks of the linter has `--fix` in front (`startProject_fixing`). So it ends as that lint would end
(`fix_repeats_last`).
-/

namespace LintRelay

/-- The same run with fixing. -/
def Invocation.fixing (i : Invocation) : Invocation :=
  { i with arguments := Text.bytesOf "--fix" :: i.arguments }

/-- The same call with fixing. -/
def Pending.fixing (p : Pending) : Pending := { p with invocation := p.invocation.fixing }

/-- The same start with fixing: a call that ended has ended alike. -/
def Started.fixing : Started → Started
  | .ended result => .ended result
  | .waiting p => .waiting p.fixing

theorem planRun_fixing (t : FileTree) (s : Settings) (config : Path) (target : LintTarget)
    (dir : Path) :
    planRun t s config target dir true =
      (planRun t s config target dir false).map Invocation.fixing := by
  unfold planRun
  cases resolveProgram t s.linterCommand dir with
  | error e => rfl
  | ok program => rfl

namespace Session

/-! ## The start of a fix -/

/-- A project lint with fixing starts as one without, and asks for the same run with fixing. -/
theorem startProject_fixing (x : Session) (t : FileTree) (file : Path) :
    x.startProject t file true =
      ((x.startProject t file false).1, (x.startProject t file false).2.fixing) := by
  dsimp only [startProject, bind, Except.bind]
  cases lookupLintConfig t x.settings (workingDirFor file) with
  | error e => rfl
  | ok found =>
      cases found with
      | none => rfl
      | some config =>
          dsimp only
          cases projectTarget t x.settings file (workingDirFor file) with
          | error e => rfl
          | ok target =>
              dsimp only
              rw [planRun_fixing]
              cases planRun t x.settings config target (workingDirFor file) false <;> rfl

/-- A fix is the lint of the project of the last file, with fixing. -/
theorem start_fixLast {x : Session} {file : Path} (h : x.lastProjectFile = some file)
    (t : FileTree) :
    x.start t .fixLast =
      ((x.start t (.project (some file) false)).1,
        (x.start t (.project (some file) false)).2.fixing) := by
  dsimp only [start]
  rw [h]
  dsimp only [startAdmitted]
  cases x.admits file with
  | true => exact x.startProject_fixing t file
  | false => rfl

/-- The answer of the linter is taken alike. -/
theorem finish_fixing (x : Session) (p : Pending) (output : Except LintError String) :
    x.finish p.fixing output = x.finish p output := rfl

/-! ## The last project lint -/

/-- The file for whose project an event asks a lint, if the session admits it. A fix asks for
none of its own. -/
def Event.projectFile? (x : Session) : Event → Option Path
  | .start _ (.project (some file) _) => if x.admits file then some file else none
  | _ => none

namespace Activity

/-- The file of the latest project lint that events ask for and that is admitted. -/
def lastAsked? : Activity → List Event → Option Path
  | _, [] => none
  | a, e :: events => ((a.after e).lastAsked? events).or (e.projectFile? a.session)

theorem lastAsked?_concat (a : Activity) (events : List Event) (e : Event) :
    a.lastAsked? (events ++ [e]) =
      (e.projectFile? (events.foldl after a).session).or (a.lastAsked? events) := by
  induction events generalizing a with
  | nil => simp [lastAsked?]
  | cons first events ih =>
      rw [List.cons_append, lastAsked?, ih, lastAsked?, List.foldl_cons, Option.or_assoc]

/-- Whatever happens, the file that would be fixed stays, or it is the one that the event asks
for. -/
theorem lastProjectFile_after (a : Activity) (e : Event) :
    (a.after e).session.lastProjectFile =
      (e.projectFile? a.session).or a.session.lastProjectFile := by
  cases e with
  | answer i output =>
      cases hp : a.waiting[i]? with
      | none => rw [after_answer_none output hp]; rfl
      | some p =>
          rw [after_answer output hp]
          exact lastProjectFile_finish a.session p output
  | update s => exact a.lastProjectFile_update s
  | start t call =>
      show (a.session.start t call).1.lastProjectFile = _
      rcases lastProjectFile_start a.session t call with
        ⟨file, ⟨hfile, hadmits, hproject⟩, hlast, -⟩ | ⟨hnone, hkept⟩
      · rw [hlast]
        cases call with
        | project named fix =>
            obtain rfl : named = some file := hfile
            rw [Event.projectFile?, if_pos hadmits, Option.some_or]
        | file named => exact absurd hproject Bool.false_ne_true
        | fixLast => exact hfile.symm
      · rw [hkept]
        cases call with
        | project named fix =>
            cases named with
            | none => rfl
            | some file =>
                have hadmits : ¬a.session.admits file = true :=
                  fun hadmits => hnone file ⟨rfl, hadmits, rfl⟩
                rw [Event.projectFile?, if_neg hadmits, Option.none_or]
        | file named => rfl
        | fixLast => rfl

/-- The file that would be fixed is that of the latest project lint. -/
theorem lastProjectFile_ofEvents {x : Session} (hnew : x.IsNew) (events : List Event) :
    (ofEvents x events).session.lastProjectFile = (start x).lastAsked? events := by
  induction events using List.reverseRecOn with
  | nil => exact hnew.lastProjectFile
  | append_singleton events e ih =>
      rw [lastAsked?_concat, ← ofEvents, ← ih, ← lastProjectFile_after, ofEvents,
        List.foldl_concat]
      rfl

/-- **A fix repeats the last project lint.** Whatever calls, answers and new settings came before, a
fix is skipped and asks for no run if no project lint was asked for a file that was admitted then.
Otherwise let `file` be that of the latest such lint. The fix starts, with the files and settings as
they are now, just as a lint of the project of `file` does: it leaves the same session and ends
alike, or asks for the same run with `--fix` in front, and it takes every answer alike. Nothing but
another such lint changes which file this is. -/
theorem fix_repeats_last (x : Session) (hnew : x.IsNew) (events : List Event) (t : FileTree) :
    let y := (ofEvents x events).session
    ((start x).lastAsked? events = none → y.start t .fixLast = (y, .ended (.ok .skipped))) ∧
    (∀ file, (start x).lastAsked? events = some file →
      let lint := y.start t (.project (some file) false)
      y.start t .fixLast = (lint.1, lint.2.fixing) ∧
      ∀ z p output, Session.finish z p.fixing output = z.finish p output) ∧
    ∀ e, (∀ t' p fix, e = .start t' (.project (some p) fix) → y.admits p = false) →
      (start x).lastAsked? (events ++ [e]) = (start x).lastAsked? events := by
  intro y
  have hlast : y.lastProjectFile = (start x).lastAsked? events := lastProjectFile_ofEvents hnew events
  refine ⟨fun hnone => ?_, fun file hsome => ?_, fun e he => ?_⟩
  · rw [Session.start, hlast, hnone]
    rfl
  · exact ⟨start_fixLast (hlast.trans hsome) t, finish_fixing⟩
  · have hno : e.projectFile? y = none := by
      unfold Event.projectFile?
      split
      · rename_i t' p fix
        rw [he t' p fix rfl, if_neg Bool.false_ne_true]
      · rfl
    rw [lastAsked?_concat, ← ofEvents, hno, Option.none_or]

/-- A project lint that fails, and then two calls that lint no project. -/
def failedLint : List Event := [
  .start configAlone (.project (some (.ofString "/a.js")) false),
  .answer 0 (.error (.spawn .notFound)),
  .start configAlone (.file (some (.ofString "/b.js"))),
  .start configAlone (.project (some (.ofString "/c.txt")) false)]

/-- The project lint that failed is the one that is fixed. -/
theorem fix_repeats_last_failedLint :
    (start .standard).lastAsked? failedLint = some (.ofString "/a.js") ∧
    ∃ p, ((ofEvents .standard failedLint).session.start configAlone .fixLast).2 = .waiting p ∧
      p.invocation = ⟨.ofString "tslint",
        ["--fix", "--force", "--format", "json", "--config", "/tslint.json", "/a.js"].map
          Text.bytesOf, .ofString "/"⟩ := by
  obtain ⟨-, hfix, -⟩ := fix_repeats_last .standard .standard failedLint configAlone
  have hlast : (start .standard).lastAsked? failedLint = some (.ofString "/a.js") := by rfl
  obtain ⟨hstart, -⟩ := hfix _ hlast
  obtain ⟨p, hwaits, hp⟩ : ∃ p,
      ((ofEvents .standard failedLint).session.start configAlone
        (.project (some (.ofString "/a.js")) false)).2 = .waiting p ∧
      p.invocation.fixing = ⟨.ofString "tslint",
        ["--fix", "--force", "--format", "json", "--config", "/tslint.json", "/a.js"].map
          Text.bytesOf, .ofString "/"⟩ :=
    ⟨_, rfl, by rfl⟩
  refine ⟨hlast, p.fixing, ?_, hp⟩
  rw [hstart, hwaits]
  rfl

end Activity
end Session
end LintRelay
