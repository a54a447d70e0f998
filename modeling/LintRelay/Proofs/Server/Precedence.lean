import LintRelay.Proofs.Server.Editor

/-!
# Which settings are in force

Settings come from the editor, or from a settings file in the root of the workspace, or they are the
standard ones. `ruled` is the order in which they ought to count. The server keeps to it when the
workspace is taken up. Later it only ever reads the file again, so that the last file that could be
accepted wins (`in_force_of_last_accepted`), also over the settings of the editor, and nothing brings
the standard ones back (`reload_breaks_order`).
-/

namespace LintRelay
namespace Server

/-! ## Sources of settings -/

/-- The settings that the editor gives, if they can be put in force. Null gives none. -/
def given? (options : Option Json) : Option Settings :=
  (options.filter fun o => !o.isNull).bind fun o => accepted? (Settings.ofJson o)

def settingsFile? (root : Option Path) (t : FileTree) : Option Path :=
  root.bind (Settings.discover t)

/-- The settings of the file in a root, if there is one and they can be put in force. -/
def found? (root : Option Path) (t : FileTree) : Option Settings :=
  (settingsFile? root t).bind fun file => accepted? (Settings.ofFile t file)

/-- The root of the workspace that the editor names. -/
def Initialization.root? (i : Initialization) : Option Path :=
  (i.rootUri <|> (i.folders.getD []).head?).bind Uri.file?

/-- The settings that ought to be in force: those of the editor, or else those of the file in the
root, or else the standard ones. A file that is refused leaves the current ones in force. -/
def ruled (options : Option Json) (root : Option Path) (t : FileTree) (current : Settings) :
    Settings :=
  match given? options, settingsFile? root t with
  | some x, _ => x
  | none, some _ => (found? root t).getD current
  | none, none => .standard

section Sources

variable {s : Server} {x : Settings}

theorem inForce_applySettings (h : s.session.InForce x) (source : Except SettingsError Settings) :
    (s.applySettings source).1.session.InForce ((accepted? source).getD x) := by
  cases hsource : accepted? source with
  | some y => exact (applySettings_of_accepted hsource).2.2
  | none =>
      rw [applySettings_of_refused hsource]
      exact h

/-- The settings are read again from the file in the root. -/
theorem inForce_reloadSettings (h : s.session.InForce x) (t : FileTree) :
    (s.reloadSettings t).session.InForce ((found? s.root t).getD x) := by
  unfold reloadSettings found? settingsFile?
  cases s.root.bind (Settings.discover t) with
  | none => exact h
  | some file => exact inForce_applySettings h (Settings.ofFile t file)

/-- The settings of the editor come before those of the file in the root. -/
theorem inForce_chooseSettings (h : s.session.InForce x) (t : FileTree) (options : Option Json) :
    (s.chooseSettings t options).session.InForce
      (((given? options).or (found? s.root t)).getD x) := by
  unfold chooseSettings given?
  cases options.filter fun o => !o.isNull with
  | none => exact inForce_reloadSettings h t
  | some o =>
      rw [Option.bind_some]
      dsimp only
      cases ho : accepted? (Settings.ofJson o) with
      | none =>
          rw [applySettings_of_refused ho]
          exact inForce_reloadSettings h t
      | some y =>
          obtain ⟨-, htaken, hforce⟩ := applySettings_of_accepted (s := s) ho
          generalize s.applySettings (Settings.ofJson o) = result at htaken hforce
          obtain ⟨s', taken⟩ := result
          obtain rfl : taken = true := htaken
          exact hforce

end Sources

/-! ## The life of a server -/

/-- Whether the settings are read again. -/
def Effect.isReload : Effect → Bool
  | .reload => true
  | _ => false

/-- The files as they are when the settings are read again in a run. -/
def reloads : Server → List Moment → List FileTree
  | _, [] => []
  | s, e :: es =>
    if (e.effect s.phase).isReload then e.files :: reloads (s.after e) es
    else reloads (s.after e) es

/-- The workspace with a root was taken up, and settings are in force. -/
structure Underway (root : Option Path) (x : Settings) (s : Server) : Prop where
  phase : s.phase ≠ .uninitialized
  root : s.root = root
  inForce : s.session.InForce x

namespace Underway

variable {root : Option Path} {x : Settings} {s : Server}

/-- Of what is handled after the workspace was taken up, only a reload touches the settings. -/
theorem apply (h : Underway root x s) {e : Effect} (he : ∀ i, e ≠ .setUp i) (t : FileTree) :
    Underway root (if e.isReload then (found? root t).getD x else x) (e.apply s t) := by
  have hphase : (e.apply s t).phase ≠ .uninitialized := by
    rw [Effect.phase_apply]
    cases e <;> simp [Effect.phase, h.phase] at he ⊢
  cases e with
  | setUp i => exact absurd rfl (he i)
  | reload =>
      have hforce := inForce_reloadSettings h.inForce t
      rw [h.root] at hforce
      exact ⟨hphase, (settledAs_reloadSettings s t).root.trans h.root, hforce⟩
  | _ => exact ⟨hphase, h.root, h.inForce⟩

theorem startCall (h : Underway root x s) (t : FileTree) (i : Nat) :
    Underway root x (s.startCall t i) := by
  unfold Server.startCall
  split
  · exact h
  · rename_i call _
    have hforce := h.inForce.start t call
    dsimp only
    generalize s.session.start t call = result at hforce
    obtain ⟨session, started⟩ := result
    cases started <;> exact ⟨h.phase, h.root, hforce⟩

theorem finishCall (h : Underway root x s) (i : Nat) (output : Except LintError String) :
    Underway root x (s.finishCall i output).1 := by
  unfold Server.finishCall
  split
  · exact h
  · exact ⟨h.phase, h.root, h.inForce.finish _ output⟩

theorem expire (h : Underway root x s) (i : Nat) : Underway root x (s.expire i) := by
  rw [expire_eq]
  exact ⟨h.phase, h.root, h.inForce⟩

theorem after (h : Underway root x s) (e : Moment) :
    Underway root (if (e.effect s.phase).isReload then (found? root e.files).getD x else x)
      (s.after e) := by
  obtain ⟨t, happening⟩ := e
  cases happening with
  | message m =>
      have hserver : s.after ⟨t, .message m⟩ = (m.effect s.phase).apply s t := server_receive s t m
      rw [hserver]
      exact h.apply (fun i hi => h.phase (phase_of_setUp hi)) t
  | start i => exact h.startCall t i
  | finish i output => exact h.finishCall i output
  | expiry i => exact h.expire i

/-- Whatever happens, the settings in force are those of the last file that was accepted. -/
theorem run (h : Underway root x s) (es : List Moment) :
    Underway root ((((s.reloads es).filterMap (found? root)).getLast?).getD x) (s.run es) := by
  -- what is in force changes with every file that is accepted, so it is not fixed in the induction
  induction es generalizing s x with
  | nil => exact h
  | cons e es ih =>
      have hrest := ih (h.after e)
      rw [run_cons, reloads]
      by_cases hreload : (e.effect s.phase).isReload = true
      · rw [if_pos hreload] at hrest ⊢
        cases hfound : found? root e.files with
        | none =>
            rw [List.filterMap_cons_none hfound]
            rwa [hfound] at hrest
        | some y =>
            rw [List.filterMap_cons_some hfound, List.getLast?_cons, Option.getD_some]
            rwa [hfound] at hrest
      · rw [if_neg hreload] at hrest ⊢
        exact hrest

end Underway

/-- When the workspace is taken up, the settings are in force that ought to be. -/
theorem underway_setUp {first : Moment} {i : Initialization}
    (hfirst : first.effect .uninitialized = .setUp i) :
    Underway i.root? (ruled i.options i.root? first.files .standard) (fresh.after first) := by
  let s : Server := { fresh with root := i.root? }
  have hsetUp : fresh.setUp first.files i = s.chooseSettings first.files i.options := by
    have hroot : (i.root? <|> fresh.root) = i.root? := by cases i.root? <;> rfl
    show ({ fresh with root := i.root? <|> fresh.root } : Server).chooseSettings _ _ = _
    rw [hroot]
  have hruled : ((given? i.options).or (found? i.root? first.files)).getD .standard =
      ruled i.options i.root? first.files .standard := by
    unfold ruled found?
    cases given? i.options <;> cases settingsFile? i.root? first.files <;> rfl
  have hforce : s.session.InForce .standard := .standard
  have hchosen := inForce_chooseSettings hforce first.files i.options
  rw [hruled] at hchosen
  rw [after_eq_apply hfirst (by simp)]
  show Underway _ _ { fresh.setUp first.files i with phase := .initialized }
  rw [hsetUp]
  exact ⟨by simp, (settledAs_chooseSettings s first.files i.options).root, hchosen⟩

theorem phase_setUp {first : Moment} {i : Initialization}
    (hfirst : first.effect .uninitialized = .setUp i) : (fresh.after first).phase = .initialized := by
  rw [phase_after, phase_fresh, hfirst]
  rfl

/-- Where the editor only ever tells that the settings file was changed, the settings are read again
each time. -/
theorem reloads_of_changes {s : Server} {es : List Moment} (hphase : s.phase = .initialized)
    (hes : ∀ e ∈ es, e.effect .initialized = .reload) : s.reloads es = es.map (·.files) := by
  induction es generalizing s with
  | nil => rfl
  | cons e es ih =>
      obtain ⟨he, hes⟩ := List.forall_mem_cons.mp hes
      have hafter : (s.after e).phase = .initialized := by
        rw [phase_after, hphase, he]
        rfl
      rw [reloads, hphase, he, ih hafter hes]
      rfl

theorem settings_of_changes {first : Moment} {i : Initialization} {es : List Moment}
    (hfirst : first.effect .uninitialized = .setUp i)
    (hes : ∀ e ∈ es, e.effect .initialized = .reload) :
    (fresh.run (first :: es)).session.settings =
      ((es.map (·.files)).filterMap (found? i.root?)).getLast?.getD
        (ruled i.options i.root? first.files .standard) := by
  have hlater := ((underway_setUp hfirst).run es).inForce.settings
  rwa [reloads_of_changes (phase_setUp hfirst) hes] at hlater

/-! ## A workspace in the root directory -/

def rootUri : String := "file:///"

/-- The same in normal form. -/
def rootDirectory : Uri := { noUri with scheme := "file".toList, path := .rooted [[]] }

theorem parse_rootUri : Uri.parse rootUri = .ok rootDirectory := rfl

theorem root?_rootDirectory (options : Option Json) :
    Initialization.root? ⟨some rootDirectory, none, options⟩ = some (.ofString "/") := by
  have hfile : rootDirectory.file? = some (.ofString "/") := by decide +kernel
  exact hfile

def settingsUri : String := "file:///.tslint-bridge.json"

/-- The same in normal form. -/
def settingsDocument : Uri :=
  { noUri with scheme := "file".toList, path := .rooted [".tslint-bridge.json".toList] }

theorem parse_settingsUri : Uri.parse settingsUri = .ok settingsDocument := rfl

/-- The standard settings but for the name of the source. -/
def named (sourceId : String) : Settings := { Settings.standard with sourceId }

/-- Files with nothing but settings that name the source. -/
def settingsAlone : FileTree where
  node? := fun l =>
    if l = [Text.bytesOf ".tslint-bridge.json"] then
      some (.file (Text.bytesOf "\x7b\"sourceId\":\"from-file\"\x7d") false)
    else none
  places := [[Text.bytesOf ".tslint-bridge.json"]]
  base := []

theorem settingsFile?_settingsAlone :
    settingsFile? (some (.ofString "/")) settingsAlone =
      some (.ofString "/.tslint-bridge.json") := by
  decide +kernel

theorem found?_settingsAlone :
    found? (some (.ofString "/")) settingsAlone = some (named "from-file") := by
  decide +kernel

theorem settingsFile?_bare : settingsFile? (some (.ofString "/")) .bare = none := by
  decide +kernel

theorem found?_bare : found? (some (.ofString "/")) .bare = none := by
  rw [found?, settingsFile?_bare]
  rfl

/-- Settings that name the source, as the editor gives them. -/
def editorSettings : Json := .object [("sourceId", .string "from-editor")]

theorem given?_editorSettings : given? (some editorSettings) = some (named "from-editor") := by
  decide +kernel

/-- The root directory is taken up as the workspace. -/
def takenUp (t : FileTree) (options : Json) : Moment := ⟨t, .message (.setUp rootUri options)⟩

/-- The editor tells that the settings file was changed. -/
def fileChanged (t : FileTree) : Moment := ⟨t, .message (.didChangeWatchedFile settingsUri)⟩

theorem effect_takenUp {t : FileTree} {options : Json} {given : Option Json}
    (h : Json.Decoder.nullable .any options = .ok given) :
    (takenUp t options).effect .uninitialized = .setUp ⟨some rootDirectory, none, given⟩ :=
  effect_setUp parse_rootUri h

theorem effect_fileChanged (t : FileTree) : (fileChanged t).effect .initialized = .reload :=
  effect_didChangeWatchedFile parse_settingsUri rfl

/-! ## The last file wins -/

/-- **The last settings file that was accepted is in force.** When the workspace is taken up, the
settings in force are those that ought to be. From then on, whatever happens, they are those of the
last file in the root that was accepted when the settings were read again, if there was one; nothing
else counts. So a reload does what it ought to if the editor gave no settings that were accepted and
the file is still there. -/
theorem in_force_of_last_accepted {first : Moment} {i : Initialization}
    (hfirst : first.effect .uninitialized = .setUp i) :
    (fresh.after first).session.InForce (ruled i.options i.root? first.files .standard) ∧
    (∀ later, (fresh.run (first :: later)).session.InForce
      ((((fresh.after first).reloads later).filterMap (found? i.root?)).getLast?.getD
        (ruled i.options i.root? first.files .standard))) ∧
    (∀ later e current, e.effect (fresh.run (first :: later)).phase = .reload →
      (fresh.run (first :: later)).session.InForce current →
      given? i.options = none → settingsFile? i.root? e.files ≠ none →
      ((fresh.run (first :: later)).after e).session.InForce
        (ruled i.options i.root? e.files current)) := by
  have hunderway := underway_setUp hfirst
  refine ⟨hunderway.inForce, fun later => (hunderway.run later).inForce, ?_⟩
  intro later e current hreload hcurrent hgiven hfile
  rw [run_cons] at hreload hcurrent ⊢
  have hbefore := hunderway.run later
  have hafter := (Underway.mk hbefore.phase hbefore.root hcurrent).after e
  obtain ⟨file, hfile⟩ := Option.ne_none_iff_exists'.mp hfile
  have hruled : ruled i.options i.root? e.files current =
      (found? i.root? e.files).getD current := by
    simp only [ruled, hgiven, hfile]
  rw [hruled]
  have hforce := hafter.inForce
  rwa [hreload] at hforce

/-- A settings file is taken, and stays in force when it is gone. -/
theorem in_force_of_last_accepted_removed :
    (takenUp .bare .null).effect .uninitialized = .setUp ⟨some rootDirectory, none, none⟩ ∧
      (fresh.run [takenUp .bare .null, fileChanged settingsAlone, fileChanged .bare]).session.InForce
        (named "from-file") := by
  have htaken : (takenUp .bare .null).effect .uninitialized =
      .setUp ⟨some rootDirectory, none, none⟩ := effect_takenUp rfl
  have hforce :=
    (in_force_of_last_accepted htaken).2.1 [fileChanged settingsAlone, fileChanged .bare]
  rw [reloads_of_changes (phase_setUp htaken) (by simp [effect_fileChanged]),
    root?_rootDirectory] at hforce
  have hlast : ([fileChanged settingsAlone, fileChanged .bare].map (·.files)).filterMap
      (found? (some (.ofString "/"))) = [named "from-file"] := by
    simp [fileChanged, found?_settingsAlone, found?_bare]
  rw [hlast] at hforce
  exact ⟨htaken, hforce⟩

/-- A reload takes the file although the editor gave settings that were accepted, and keeps the
settings of a file that is gone. Neither ought to be. -/
theorem reload_breaks_order :
    (∀ t, (fileChanged t).effect .initialized = .reload) ∧
    ((takenUp settingsAlone editorSettings).effect .uninitialized =
        .setUp ⟨some rootDirectory, none, some editorSettings⟩ ∧
      (fresh.run [takenUp settingsAlone editorSettings, fileChanged settingsAlone]).session.settings ≠
        ruled (some editorSettings) (some (.ofString "/")) settingsAlone
          (fresh.run [takenUp settingsAlone editorSettings]).session.settings) ∧
    ((takenUp settingsAlone .null).effect .uninitialized =
        .setUp ⟨some rootDirectory, none, none⟩ ∧
      (fresh.run [takenUp settingsAlone .null, fileChanged .bare]).session.settings ≠
        ruled none (some (.ofString "/")) .bare
          (fresh.run [takenUp settingsAlone .null]).session.settings) := by
  have hgiven : (takenUp settingsAlone editorSettings).effect .uninitialized =
      .setUp ⟨some rootDirectory, none, some editorSettings⟩ := effect_takenUp rfl
  have hnone : (takenUp settingsAlone .null).effect .uninitialized =
      .setUp ⟨some rootDirectory, none, none⟩ := effect_takenUp rfl
  refine ⟨effect_fileChanged, ⟨hgiven, ?_⟩, ⟨hnone, ?_⟩⟩
  · rw [settings_of_changes hgiven (by simp [effect_fileChanged]), root?_rootDirectory]
    simp [fileChanged, found?_settingsAlone, ruled, given?_editorSettings, named]
  · rw [settings_of_changes hnone (by simp [effect_fileChanged]), root?_rootDirectory]
    have hgone : ruled none (some (.ofString "/")) .bare
        (fresh.run [takenUp settingsAlone .null]).session.settings = .standard := by
      simp [ruled, settingsFile?_bare, given?]
    rw [hgone]
    simp [takenUp, fileChanged, found?_bare, ruled, given?, settingsFile?_settingsAlone,
      found?_settingsAlone, named, Settings.standard]

end Server
end LintRelay
