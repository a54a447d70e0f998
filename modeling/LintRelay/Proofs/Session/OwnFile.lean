import LintRelay.Proofs.Report.Rendering
import LintRelay.Proofs.Session.Rooted

/-!
# What the run over one file publishes

The linter may report many files when it is run for one. `Own` says which diagnostics count: those
of the failures that lead to the file itself; where there are none, those of the first path that has
the name of the file; otherwise none. A run over one file publishes exactly these, for that file,
and touches nothing else (`own_file_published`).
-/

namespace LintRelay

open Report

/-! ## The failures that count -/

/-- The diagnostics that count for the file `p`, where `lead` says to which path a failure leads. -/
inductive Own (lead : Failure → Path) (useRuleSeverity : Bool) (fs : List Failure) (p : Path) :
    List Diagnostic → Prop
  | itself :
      (∃ g ∈ fs, lead g = p.normalize) →
      Own lead useRuleSeverity fs p
        ((fs.filter fun g => lead g = p.normalize).map fun g => g.toDiagnostic useRuleSeverity)
  /-- None does, and `q` is the first of the paths with the name of the file. -/
  | namesake {q : Path} :
      (∀ g ∈ fs, lead g ≠ p.normalize) → (∃ g ∈ fs, lead g = q) → q.fileName? = p.fileName? →
      (∀ g ∈ fs, (lead g).fileName? = p.fileName? → q.key ≤ (lead g).key) →
      Own lead useRuleSeverity fs p
        ((fs.filter fun g => lead g = q).map fun g => g.toDiagnostic useRuleSeverity)
  | unmentioned :
      (∀ g ∈ fs, lead g ≠ p.normalize) → (∀ g ∈ fs, (lead g).fileName? ≠ p.fileName?) →
      Own lead useRuleSeverity fs p []

/-- The first entry that passes a test has the least path of those that pass it. -/
theorem PathMap.key_le_of_find? {α : Type} (m : PathMap α) {test : Path × α → Bool} {e : Path × α}
    (h : m.entries.find? test = some e) {d : Path × α} (hd : d ∈ m.entries)
    (htest : test d = true) : e.1.key ≤ d.1.key := by
  obtain ⟨-, before, after, hsplit, hbefore⟩ := List.find?_eq_some_iff_append.mp h
  have hsorted := m.increasing
  rw [hsplit] at hd hsorted
  rcases List.mem_append.mp hd with hd | hd
  · have hfails := hbefore d hd
    rw [htest] at hfails
    exact absurd hfails (by simp)
  · rcases List.mem_cons.mp hd with rfl | hd
    · exact List.le_refl _
    · have hbehind := (List.pairwise_cons.mp (List.pairwise_append.mp hsorted).2.1).1 d hd
      exact List.le_of_lt hbehind

namespace Report

variable {dir p : Path} {useRuleSeverity : Bool} {r : Reading} {fs : List Failure}

/-- An entry of a grouped report holds the diagnostics of the failures that lead to its path. -/
theorem entry_group {q : Path} {ds : List Diagnostic} (h : (q, ds) ∈ (group r fs).entries) :
    (∃ g ∈ fs, resolution r.workingDir g.name = q) ∧
      ds = (fs.filter fun g => resolution r.workingDir g.name = q).map
        fun g => g.toDiagnostic r.useRuleSeverity := by
  have hpath : q ∈ (group r fs).paths := List.mem_map_of_mem (f := Prod.fst) h
  obtain ⟨g, hg, hlead⟩ := mem_paths_group.mp hpath
  have hlist : (group r fs).listAt q = ds := PathMap.listAt_of_mem _ h
  rw [listAt_group, diagnosticsOf, filter_same r fs (normalize_of_mem_paths_group hpath)] at hlist
  exact ⟨⟨g, hg, (g.path_eq r).symm.trans hlead⟩, hlist.symm⟩

/-- The path to which a failure leads has an entry. -/
theorem exists_entry_group (r : Reading) {g : Failure} (hg : g ∈ fs) :
    ∃ e ∈ (group r fs).entries, e.1 = resolution r.workingDir g.name := by
  obtain ⟨e, he, hpath, -⟩ := exists_entry_of_mem hg
  exact ⟨e, he, hpath.trans (g.path_eq r)⟩

/-- What is found in a grouped report under a path in normal form is its entry as it is spelled. -/
theorem mem_entries_of_find?_group {q : Path} (hq : q.normalize = q) {ds : List Diagnostic}
    (h : (group r fs).find? q = some ds) : (q, ds) ∈ (group r fs).entries := by
  obtain ⟨q', hmem, hkey⟩ := (PathMap.find?_eq_some_iff _).mp h
  have hq' : q'.normalize = q' :=
    normalize_of_mem_paths_group (List.mem_map_of_mem (f := Prod.fst) hmem)
  rwa [Path.eq_of_key_eq_of_normal hq' hq hkey] at hmem

/-- The diagnostics that are picked for a file from a grouped report are those that count. -/
theorem own_pickFile (habsolute : p.isAbsolute = true) {name : Bytes}
    (hname : p.fileName? = some name) :
    Own (fun g => resolution (some dir) g.name) useRuleSeverity fs p
      (pickFile (group ⟨some dir, useRuleSeverity⟩ fs) p dir) := by
  have hkey : (if p.isRelative = true then dir.resolve p else p.normalize) = p.normalize := by
    simp [Path.isRelative, habsolute]
  unfold pickFile
  dsimp only
  rw [hkey, hname]
  cases hfind : (group ⟨some dir, useRuleSeverity⟩ fs).find? p.normalize with
  | some ds =>
      obtain ⟨hleads, hds⟩ := entry_group (mem_entries_of_find?_group p.normalize_normalize hfind)
      dsimp only
      rw [hds]
      exact .itself hleads
  | none =>
      have hunled : ∀ g ∈ fs, resolution (some dir) g.name ≠ p.normalize := by
        intro g hg hlead
        obtain ⟨e, he, hpath⟩ := exists_entry_group ⟨some dir, useRuleSeverity⟩ hg
        exact (PathMap.find?_eq_none_iff _).mp hfind e he (congrArg Path.key (hpath.trans hlead))
      dsimp only
      cases hother : (group ⟨some dir, useRuleSeverity⟩ fs).entries.find?
          fun e => e.1.fileName? == some name with
      | none =>
          refine .unmentioned hunled fun g hg hgname => ?_
          obtain ⟨e, he, hpath⟩ := exists_entry_group ⟨some dir, useRuleSeverity⟩ hg
          have hfails := List.find?_eq_none.mp hother e he
          rw [hpath, hgname, hname] at hfails
          exact hfails (beq_self_eq_true _)
      | some e =>
          have hename : e.1.fileName? = some name := by simpa using List.find?_some hother
          obtain ⟨hleads, hds⟩ := entry_group (List.mem_of_find?_eq_some hother)
          dsimp only
          rw [hds]
          refine .namesake hunled hleads (hename.trans hname.symm) fun g hg hgname => ?_
          obtain ⟨d, hd, hpath⟩ := exists_entry_group ⟨some dir, useRuleSeverity⟩ hg
          rw [← hpath] at hgname ⊢
          exact PathMap.key_le_of_find? _ hother hd (beq_iff_eq.mpr (hgname.trans hname))

end Report

namespace Session

open Activity (configAlone)

/-- **A run over one file publishes what the linter says of that file, for that file alone.** The
call of an admitted file with a configuration asks for one run of the linter. Whatever session `y`
its end meets, it sends once, for the file as the call spells it, the diagnostics that count; the
entry of the file becomes these, and no other entry changes, nor does the project run in force. -/
theorem own_file_published (x : Session) (t : FileTree) (p config program : Path)
    (hadmits : x.admits p = true) (habsolute : p.isAbsolute = true)
    (hconfig : lookupLintConfig t x.settings (workingDirFor p) = .ok (some config))
    (hprogram : resolveProgram t x.settings.linterCommand (workingDirFor p) = .ok program) :
    ∃ pending, x.start t (.file (some p)) = (x, .waiting pending) ∧
      ∀ (y : Session) (stdout : String) (fs : List Failure), failures stdout = .ok fs →
        ∃ ds y', y.finish pending (.ok stdout) =
            (y', [⟨y.reconciler.sourceId, ⟨p, ds⟩⟩], .ok (.published 1 0)) ∧
          Own (fun g => ((workingDirFor p).join (.ofString g.name)).normalize)
            x.settings.useRuleSeverity fs p ds ∧
          y'.reconciler.published.find? p =
            (if ds = [] then (y.reconciler.published.find? p).map fun _ => [] else some ds) ∧
          (∀ q, q.same p = false →
            y'.reconciler.published.find? q = y.reconciler.published.find? q) ∧
          y'.reconciler.generation = y.reconciler.generation := by
  obtain ⟨name, hname⟩ := Admission.exists_fileName? hadmits
  have hstart : x.start t (.file (some p)) = x.startFile t p := by
    rw [start, startAdmitted, if_pos hadmits]
  refine ⟨_, hstart.trans (startFile_waits hconfig hprogram), ?_⟩
  intro y stdout fs hfailures
  -- What is read of the output is the grouped report, seen from the directory of the file.
  have hread : ∀ pending : Pending, readOutput pending (.ok stdout) =
      .ok (group ⟨some pending.workingDir, pending.useRuleSeverity⟩ fs) := by
    intro pending
    rw [readOutput, parse_of_failures hfailures]
    rfl
  refine ⟨_, _, finish_file (hread _) rfl, own_pickFile habsolute hname, ?_, ?_, rfl⟩
  · exact (find?_recordFile _ _ _ _).trans (if_pos rfl)
  · intro q hq
    have hother : p.key ≠ q.key := fun hkey => by
      rw [Path.same_iff.mpr hkey.symm] at hq
      exact Bool.noConfusion hq
    exact (find?_recordFile _ _ _ _).trans (if_neg hother)

/-- A failure at the start of the file `name`. -/
def failureAt (name : String) : Failure := ⟨"r", "f", name, ⟨0, 0⟩, ⟨0, 1⟩, none⟩

/-- Failures in two files called `a.js`. -/
def namesakes : List Failure := [failureAt "/b/a.js", failureAt "../p/./a.js"]

/-- The report of these. -/
def namesakeReport : String :=
  (Json.array (namesakes.map Failure.toJson)).render

/-- Only the file that was linted is published, though the linter spells it another way, and not
the other one of its name. -/
theorem own_file_published_namesake :
    Session.standard.admits (.ofString "/p/a.js") = true ∧
    (Path.ofString "/p/a.js").isAbsolute = true ∧
    lookupLintConfig configAlone .standard (workingDirFor (.ofString "/p/a.js")) =
      .ok (some (.ofString "/tslint.json")) ∧
    resolveProgram configAlone none (workingDirFor (.ofString "/p/a.js")) =
      .ok (.ofString "tslint") ∧
    ∃ pending y', Session.standard.start configAlone (.file (some (.ofString "/p/a.js"))) =
        (.standard, .waiting pending) ∧
      Session.standard.finish pending (.ok namesakeReport) =
        (y', [⟨"tslint-ts", ⟨.ofString "/p/a.js",
          [⟨"[r] f", .warning, ⟨⟨0, 0⟩, ⟨0, 1⟩⟩, none, some "r"⟩]⟩⟩], .ok (.published 1 0)) ∧
      y'.reconciler.published.find? (.ofString "/b/a.js") = none := by
  have hadmits : Session.standard.admits (.ofString "/p/a.js") = true := by decide +kernel
  have habsolute : (Path.ofString "/p/a.js").isAbsolute = true := by decide
  have hconfig : lookupLintConfig configAlone .standard (workingDirFor (.ofString "/p/a.js")) =
      .ok (some (.ofString "/tslint.json")) := eq_ok_of_toOption (by decide +kernel)
  have hprogram : resolveProgram configAlone none (workingDirFor (.ofString "/p/a.js")) =
      .ok (.ofString "tslint") := eq_ok_of_toOption (by decide +kernel)
  obtain ⟨pending, hstart, hfinish⟩ :=
    own_file_published .standard configAlone _ _ _ hadmits habsolute hconfig hprogram
  obtain ⟨ds, y', hy', hown, -, hothers, -⟩ :=
    hfinish .standard namesakeReport _ (failures_rendering (isRendering_render namesakes))
  have hlead : ((workingDirFor (.ofString "/p/a.js")).join (.ofString "../p/./a.js")).normalize =
      (Path.ofString "/p/a.js").normalize := by decide
  have hds : ds = [⟨"[r] f", .warning, ⟨⟨0, 0⟩, ⟨0, 1⟩⟩, none, some "r"⟩] := by
    cases hown with
    | itself => decide +kernel
    | namesake hunled => exact absurd hlead (hunled (failureAt "../p/./a.js") (by simp [namesakes]))
    | unmentioned hunled =>
      exact absurd hlead (hunled (failureAt "../p/./a.js") (by simp [namesakes]))
  rw [hds] at hy'
  exact ⟨hadmits, habsolute, hconfig, hprogram, pending, y', hstart, hy', hothers _ (by decide)⟩

end Session
end LintRelay
