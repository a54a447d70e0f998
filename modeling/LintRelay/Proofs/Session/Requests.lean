import LintRelay.Proofs.Discovery.Search
import LintRelay.Proofs.Session.Outcomes

/-!
# What the linter is asked to do

A run of the linter is asked for by the start of a call and by nothing else. So what holds of every
run in every activity (`runs_permitted`) is what holds of a start: the call has a file, the settings
in force admit it, and program, arguments and directory follow from the file and from what the
upward search finds. Which settings are in force is said by the events alone (`settingsAfter`): the
last ones that were accepted, or those with which the session was made.
-/

namespace LintRelay

/-! ## What a start asks for -/

theorem planRun_ok {t : FileTree} {s : Settings} {config dir : Path} {target : LintTarget}
    {fix : Bool} {i : Invocation} (h : planRun t s config target dir fix = .ok i) :
    ∃ program, i = .make program config target dir fix := by
  unfold planRun at h
  cases hprogram : resolveProgram t s.linterCommand dir with
  | error e => simp [hprogram, Except.map] at h
  | ok program =>
      rw [hprogram] at h
      exact ⟨program, (Except.ok.inj h).symm⟩

/-- A project run covers the nearest project, or else the file alone. -/
theorem projectTarget_ok {t : FileTree} {s : Settings} {file dir : Path} {target : LintTarget}
    (h : projectTarget t s file dir = .ok target) :
    target = .file file ∨
      ∃ project, target = .project project ∧ IsNearest t s.projectConfigFile dir project := by
  unfold projectTarget at h
  cases hfind : findUp t s.projectConfigFile dir with
  | error e => simp [hfind, Except.map] at h
  | ok found =>
      rw [hfind] at h
      cases found with
      | none => exact .inl (Except.ok.inj h).symm
      | some project => exact .inr ⟨project, (Except.ok.inj h).symm, isNearest_of_findUp hfind⟩

namespace LintCall

def LintsProject (call : LintCall) : Prop := call = .fixLast ∨ ∃ file fix, call = .project file fix

/-- Whether a call fixes what it can. -/
def Fixes (call : LintCall) : Prop := call = .fixLast ∨ ∃ file, call = .project file true

theorem projectFix?_isSome_iff {call : LintCall} :
    call.projectFix?.isSome = true ↔ call.LintsProject := by
  cases call <;> simp [projectFix?, LintsProject]

theorem projectFix?_eq_true_iff {call : LintCall} :
    call.projectFix? = some true ↔ call.Fixes := by
  cases call <;> simp [projectFix?, Fixes]

/-- No event of a buffer fixes anything. -/
theorem not_fixes_call (e : BufferEvent) : ¬e.call.Fixes := by
  unfold BufferEvent.call Fixes
  cases e.kind <;> simp

/-- What a call about `file` may cover: only one that lints a project covers a project. -/
def MayCover (call : LintCall) (t : FileTree) (s : Settings) (file : Path) : LintTarget → Prop
  | .file p => p = file
  | .project p =>
    call.LintsProject ∧ IsNearest t s.projectConfigFile (workingDirFor file) p

end LintCall

/-- The arguments in front of the configuration. -/
def leadingArguments (fix : Bool) : List Bytes :=
  (if fix then [Text.bytesOf "--fix"] else []) ++
    ["--force", "--format", "json", "--config"].map Text.bytesOf

/-- The first argument tells whether a run fixes. -/
theorem head?_leadingArguments (fix : Bool) (behind : List Bytes) :
    (leadingArguments fix ++ behind).head? = some (Text.bytesOf "--fix") ↔ fix = true := by
  have hforce : Text.bytesOf "--force" ≠ Text.bytesOf "--fix" := by decide
  cases fix <;> simp [leadingArguments, hforce]

namespace Session

/-- A call that waits has an admitted file, and its run is made from the nearest configuration and a
target that the call may cover. -/
theorem invocation_of_waiting {x : Session} {t : FileTree} {call : LintCall} {p : Pending}
    (h : (x.start t call).2 = .waiting p) :
    ∃ file program config target, call.file? x = some file ∧ x.admits file = true ∧
      IsNearest t x.settings.lintConfigFile (workingDirFor file) config ∧
      call.MayCover t x.settings file target ∧
      p.invocation =
        .make program config target (workingDirFor file) (call.projectFix? == some true) := by
  have hstarts := x.start_starts t call
  generalize (x.start t call).1 = x' at hstarts
  rw [h] at hstarts
  cases hstarts with
  | @project file fix _ _ hfile hadmits hfix hproject =>
      cases hproject with
      | asks config target invocation hlookup htarget hplan =>
          obtain ⟨program, rfl⟩ := planRun_ok hplan
          have hcovers : call.MayCover t x.settings file target := by
            rcases projectTarget_ok htarget with rfl | ⟨project, rfl, hnearest⟩
            · rfl
            · exact ⟨LintCall.projectFix?_isSome_iff.mp (by rw [hfix]; rfl), hnearest⟩
          refine ⟨file, program, config, target, hfile, hadmits, isNearest_of_findUp hlookup,
            hcovers, ?_⟩
          rw [hfix]
          cases fix <;> rfl
  | @file file _ hfile hadmits hfix hasks =>
      cases hasks with
      | asks config invocation hlookup hplan =>
          obtain ⟨program, rfl⟩ := planRun_ok hplan
          refine ⟨file, program, config, .file file, hfile, hadmits,
            isNearest_of_findUp hlookup, rfl, ?_⟩
          rw [hfix]
          rfl

/-- An admitted file has an extension, so it is not spelled like the option for projects. -/
theorem bytes_ne_project_of_admits {a : Admission} {p : Path} (h : a.admits p = true) :
    p.bytes ≠ Text.bytesOf "--project" := by
  intro hbytes
  have hextension : p.extension? = none := by
    rw [show p = ⟨Text.bytesOf "--project"⟩ from congrArg Path.mk hbytes]
    decide
  simp [Admission.admits, Admission.hasExtension, hextension] at h

/-- The end of a call keeps the file for which a project lint was last asked. -/
theorem lastProjectFile_finish (x : Session) (p : Pending) (output : Except LintError String) :
    (x.finish p output).1.lastProjectFile = x.lastProjectFile := by
  cases hread : readOutput p output with
  | error e => rw [finish_failed hread]
  | ok set =>
      cases hticket : p.ticket with
      | none => rw [finish_file hread hticket]
      | some ticket =>
          by_cases hold : ticket < x.reconciler.generation
          · rw [finish_stale hread hticket hold]
          · rw [finish_applied hread hticket hold]

theorem ofSettings_ok {s : Settings} {x : Session} (h : ofSettings s = .ok x) :
    ∃ a, s.admission = .ok a ∧ x = ⟨s, a, .start s.sourceId, none⟩ := by
  unfold ofSettings at h
  split at h
  · rename_i a ha
    exact ⟨a, ha, (Except.ok.inj h).symm⟩
  · exact absurd h (by simp)

theorem IsNew.inForce {x : Session} (h : x.IsNew) : InForce x.settings x := by
  cases h with
  | ofSettings h =>
      obtain ⟨a, ha, rfl⟩ := ofSettings_ok h
      exact ⟨rfl, ha, rfl⟩
  | standard => exact .standard

theorem IsNew.lastProjectFile {x : Session} (h : x.IsNew) : x.lastProjectFile = none := by
  cases h with
  | ofSettings h =>
      obtain ⟨a, -, rfl⟩ := ofSettings_ok h
      rfl
  | standard => rfl

/-! ## The settings in force -/

/-- The settings that an event puts in force: new ones without a pattern that is refused. -/
def Event.accepted? : Event → Option Settings
  | .update s => if s.admission.isOk then some s else none
  | _ => none

namespace Activity

/-- The settings in force after events: the last ones accepted, or else the first ones. -/
def settingsAfter (first : Settings) (events : List Event) : Settings :=
  (events.filterMap Event.accepted?).getLast?.getD first

theorem settingsAfter_concat (first : Settings) (events : List Event) (e : Event) :
    settingsAfter first (events ++ [e]) = e.accepted?.getD (settingsAfter first events) := by
  unfold settingsAfter
  rw [List.filterMap_append]
  cases he : e.accepted? with
  | none => rw [List.filterMap_cons_none he, List.filterMap_nil, List.append_nil, Option.getD_none]
  | some s =>
      rw [List.filterMap_cons_some he, List.filterMap_nil, List.getLast?_concat, Option.getD_some,
        Option.getD_some]

theorem inForce_after {s : Settings} {a : Activity} (h : InForce s a.session) (e : Event) :
    InForce (e.accepted?.getD s) (a.after e).session := by
  cases e with
  | start t call => exact h.start t call
  | answer i output =>
      cases hp : a.waiting[i]? with
      | none => rwa [after_answer_none output hp]
      | some p =>
          rw [after_answer output hp]
          exact h.finish p output
  | update new =>
      cases ha : new.admission with
      | ok admission =>
          have haccepted : (Event.update new).accepted? = some new := by
            simp [Event.accepted?, ha, Except.isOk, Except.toBool]
          rw [haccepted, Option.getD_some, after, updateSettings, ha]
          exact ⟨rfl, ha, rfl⟩
      | error refusal =>
          have hrefused : (Event.update new).accepted? = none := by
            simp [Event.accepted?, ha, Except.isOk, Except.toBool]
          rw [hrefused, Option.getD_none, after, updateSettings, ha]
          exact h

theorem inForce_foldl_after {s : Settings} {a : Activity} (h : InForce s a.session)
    (events : List Event) : InForce (settingsAfter s events) (events.foldl after a).session := by
  induction events using List.reverseRecOn with
  | nil => exact h
  | append_singleton events e ih =>
      rw [settingsAfter_concat, List.foldl_append]
      exact inForce_after ih e

theorem inForce_ofEvents {x : Session} (hnew : x.IsNew) (events : List Event) :
    InForce (settingsAfter x.settings events) (ofEvents x events).session :=
  inForce_foldl_after hnew.inForce events

/-! ## The file to fix -/

/-- Whether one of the events asks for the lint of the project of a file. -/
def ProjectAsked (events : List Event) (file : Path) : Prop :=
  ∃ t fix, Event.start t (.project (some file) fix) ∈ events

theorem ProjectAsked.concat {events : List Event} {file : Path} (h : ProjectAsked events file)
    (e : Event) : ProjectAsked (events ++ [e]) file := by
  obtain ⟨t, fix, hmem⟩ := h
  exact ⟨t, fix, List.mem_append_left _ hmem⟩

/-- The file that would be fixed is one for whose project a lint was asked. -/
theorem projectAsked_lastProjectFile {x : Session} (hnew : x.IsNew) (events : List Event)
    {file : Path} (h : (ofEvents x events).session.lastProjectFile = some file) :
    ProjectAsked events file := by
  -- From the last event backwards: the last start of a project lint decides the file.
  induction events using List.reverseRecOn with
  | nil =>
      have hnone : x.lastProjectFile = some file := h
      rw [hnew.lastProjectFile] at hnone
      cases hnone
  | append_singleton events e ih =>
      rw [ofEvents, List.foldl_append, List.foldl_cons, List.foldl_nil] at h
      change ((ofEvents x events).after e).session.lastProjectFile = some file at h
      generalize ofEvents x events = a at h ih
      cases e with
      | answer i output =>
          refine (ih ?_).concat _
          cases hp : a.waiting[i]? with
          | none => rwa [after_answer_none output hp] at h
          | some p =>
              rw [after_answer output hp] at h
              rwa [← lastProjectFile_finish a.session p output]
      | update s =>
          rw [lastProjectFile_update] at h
          exact (ih h).concat _
      | start t call =>
          change (a.session.start t call).1.lastProjectFile = some file at h
          rcases lastProjectFile_start a.session t call with ⟨other, hlints, hlast, -⟩ | ⟨-, hkept⟩
          · obtain rfl : other = file := Option.some.inj (hlast.symm.trans h)
            obtain ⟨hfile, -, hproject⟩ := hlints
            cases call with
            | project p fix =>
                obtain rfl : p = some other := hfile
                exact ⟨t, fix, List.mem_append_right _ (List.mem_singleton_self _)⟩
            | file p => exact absurd hproject (by simp [LintCall.projectFix?])
            -- A repeated fix takes the file that is there, so it was asked for before.
            | fixLast => exact (ih hfile).concat _
          · exact (ih (hkept.symm.trans h)).concat _

/-! ## Every run that is asked for -/

/-- The runs of the linter that an event asks for. -/
def asked (a : Activity) : Event → List Invocation
  | .start t call => (a.session.start t call).2.pending.map (·.invocation)
  | _ => []

/-- The runs of the linter that events ask for, first one first. -/
def runs : Activity → List Event → List Invocation
  | _, [] => []
  | a, e :: events => a.asked e ++ (a.after e).runs events

/-- A run is asked for by the start of a call. -/
theorem start_of_mem_runs {a : Activity} {events : List Event} {i : Invocation}
    (h : i ∈ a.runs events) :
    ∃ before t call later p, events = before ++ .start t call :: later ∧
      ((before.foldl after a).session.start t call).2 = .waiting p ∧ p.invocation = i := by
  induction events generalizing a with
  | nil => exact absurd h List.not_mem_nil
  | cons e events ih =>
      rw [runs, List.mem_append] at h
      rcases h with h | h
      · cases e with
        | start t call =>
            obtain ⟨p, hp, hi⟩ := List.mem_map.mp h
            cases hstarted : (a.session.start t call).2 with
            | ended result =>
                rw [hstarted] at hp
                exact absurd hp List.not_mem_nil
            | waiting q =>
                rw [hstarted] at hp
                obtain rfl := List.mem_singleton.mp hp
                exact ⟨[], t, call, events, p, rfl, hstarted, hi⟩
        | answer i output => exact absurd h List.not_mem_nil
        | update s => exact absurd h List.not_mem_nil
      · obtain ⟨before, t, call, later, p, rfl, hstarted, hi⟩ := ih h
        exact ⟨e :: before, t, call, later, p, rfl, hstarted, hi⟩

/-- A start that leaves its call waiting asked for the run that the call waits for. -/
theorem mem_asked_of_waiting {a : Activity} {t : FileTree} {call : LintCall} {p : Pending}
    (h : (a.session.start t call).2 = .waiting p) : p.invocation ∈ a.asked (.start t call) := by
  rw [asked, h]
  exact List.mem_singleton_self _

/-- A call that waits after events waited before them or asked for its run in them. -/
theorem invocation_mem_runs {a : Activity} {events : List Event} {p : Pending}
    (h : p ∈ (events.foldl after a).waiting) : p ∈ a.waiting ∨ p.invocation ∈ a.runs events := by
  induction events generalizing a with
  | nil => exact .inl h
  | cons e events ih =>
      rw [runs, List.mem_append]
      rcases ih h with hwaits | hruns
      · cases e with
        | start t call =>
            rcases List.mem_append.mp (show p ∈ a.waiting ++ _ from hwaits) with hwaits | hstarted
            · exact .inl hwaits
            · exact .inr (.inl (List.mem_map_of_mem hstarted))
        | answer i output =>
            refine .inl ?_
            cases hi : a.waiting[i]? with
            | none => rwa [after_answer_none output hi] at hwaits
            | some q =>
                rw [after_answer output hi] at hwaits
                exact List.mem_of_mem_eraseIdx hwaits
        | update s =>
            obtain ⟨x, hafter, -⟩ := a.after_update s
            rw [hafter] at hwaits
            exact .inl hwaits
      · exact .inr (.inr hruns)

/-- **Every run of the linter is permitted.** Whatever calls, answers and new settings follow each
other, every call that waits has asked for its run, and every run is one that the start of a call
asked for with a file that the settings in force at that moment admit; where the last project lint
is repeated, this is the file of an earlier one. The run is made in the directory of the file. Its
configuration is the nearest file of the name that these settings give. It begins with `--fix`
exactly if the call is to fix, which no event of a buffer is, and covers a project only if the call
lints one; otherwise it covers the file. -/
theorem runs_permitted (x : Session) (hnew : x.IsNew) (events : List Event) :
    (∀ p ∈ (ofEvents x events).waiting, p.invocation ∈ (start x).runs events) ∧
    ∀ i ∈ (start x).runs events, ∃ before t call later, events = before ++ .start t call :: later ∧
      i ∈ (ofEvents x before).asked (.start t call) ∧
      let s := settingsAfter x.settings before
      ∃ file config behind,
        call.file? (ofEvents x before).session = some file ∧
        (call = .fixLast → ProjectAsked before file) ∧
        (∃ a, s.admission = .ok a ∧ a.admits file = true) ∧
        i.workingDir = workingDirFor file ∧
        IsNearest t s.lintConfigFile (workingDirFor file) config ∧
        (∃ fix, i.arguments = leadingArguments fix ++ config.bytes :: behind) ∧
        (i.arguments.head? = some (Text.bytesOf "--fix") ↔ call.Fixes) ∧
        (∀ e : BufferEvent, call = e.call →
          i.arguments.head? ≠ some (Text.bytesOf "--fix")) ∧
        (behind = [file.bytes] ∨
          call.LintsProject ∧ ∃ project,
            IsNearest t s.projectConfigFile (workingDirFor file) project ∧
            behind = [Text.bytesOf "--project", project.bytes]) ∧
        (Text.bytesOf "--project" ∈ behind → call.LintsProject) := by
  refine ⟨fun p hp => ?_, fun i hi => ?_⟩
  · rcases invocation_mem_runs hp with hwaits | hruns
    · exact absurd hwaits List.not_mem_nil
    · exact hruns
  · obtain ⟨before, t, call, later, p, rfl, hstarted, rfl⟩ := start_of_mem_runs hi
    refine ⟨before, t, call, later, rfl, mem_asked_of_waiting hstarted, ?_⟩
    have hforce := inForce_ofEvents hnew before
    obtain ⟨file, program, config, target, hfile, hadmits, hconfig, hcovers, hinvocation⟩ :=
      invocation_of_waiting hstarted
    rw [← ofEvents, hforce.settings] at hconfig hcovers
    have harguments : p.invocation.arguments =
        leadingArguments (call.projectFix? == some true) ++ config.bytes :: target.arguments := by
      rw [hinvocation]
      rfl
    have hhead : p.invocation.arguments.head? = some (Text.bytesOf "--fix") ↔ call.Fixes := by
      rw [harguments, head?_leadingArguments, beq_iff_eq, LintCall.projectFix?_eq_true_iff]
    refine ⟨file, config, target.arguments, hfile, ?_, ⟨_, hforce.admission, hadmits⟩, ?_, hconfig,
      ⟨_, harguments⟩, hhead, ?_, ?_, ?_⟩
    · rintro rfl
      exact projectAsked_lastProjectFile hnew before hfile
    · rw [hinvocation]
      rfl
    · rintro e rfl hfix
      exact LintCall.not_fixes_call e (hhead.mp hfix)
    · cases target with
      | project project => exact .inr ⟨hcovers.1, project, hcovers.2, rfl⟩
      | file other =>
          obtain rfl : other = file := hcovers
          exact .inl rfl
    · intro hproject
      cases target with
      | project project => exact hcovers.1
      | file other =>
          obtain rfl : other = file := hcovers
          exact absurd (List.mem_singleton.mp hproject).symm (bytes_ne_project_of_admits hadmits)

/-- A fix that is asked for twice: first while its file is excluded, and again after new settings
were refused and others accepted. -/
def fixAskedTwice : List Event := [
  .start configAlone (.project (some (.ofString "/a.js")) false),
  .update { Settings.standard with exclude := ["/a.*"] },
  .start configAlone .fixLast,
  .update { Settings.standard with exclude := ["["] },
  .start configAlone .fixLast,
  .update .standard,
  .start configAlone .fixLast]

/-- The linter is run twice, and the run that fixes was asked for while the file was admitted. -/
theorem runs_permitted_fixAskedTwice :
    Session.standard.IsNew ∧
    ∃ lints fixes, (start .standard).runs fixAskedTwice = [lints, fixes] ∧
      ∃ before t call later, fixAskedTwice = before ++ .start t call :: later ∧
        fixes ∈ (ofEvents .standard before).asked (.start t call) ∧ call.Fixes ∧
        ∃ file a, (settingsAfter .standard before).admission = .ok a ∧ a.admits file = true := by
  obtain ⟨lints, fixes, hruns, hhead⟩ : ∃ lints fixes,
      (start .standard).runs fixAskedTwice = [lints, fixes] ∧
      fixes.arguments.head? = some (Text.bytesOf "--fix") :=
    ⟨_, _, rfl, rfl⟩
  obtain ⟨-, hpermitted⟩ := runs_permitted .standard .standard fixAskedTwice
  obtain ⟨before, t, call, later, hevents, hasked, file, config, behind, -, -, ⟨a, ha, hadmits⟩, -,
    -, -, hfixes, -⟩ := hpermitted fixes (by simp [hruns])
  exact ⟨.standard, lints, fixes, hruns, before, t, call, later, hevents, hasked, hfixes.mp hhead,
    file, a, ha, hadmits⟩

end Activity
end Session
end LintRelay
