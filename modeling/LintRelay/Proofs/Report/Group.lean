import LintRelay.Proofs.Path.Normal
import LintRelay.Report
import Mathlib.Data.List.Dedup

/-!
# Grouping a report

Grouping goes through the failures once and puts each one's diagnostic at the end of the list of its
path. So the list of a path holds the diagnostics of exactly the failures that are about it, in
their order (`listAt_group`), the paths are exactly those of the failures, in normal form
(`mem_paths_group`), and no diagnostic is lost or doubled (`total_group`).
-/

namespace LintRelay.Report

variable {r : Reading}

theorem resolveName_none (name : String) :
    resolveName name none = (Path.ofString name).normalize :=
  rfl

/-- A name is seen from the working directory; an absolute one is seen the same from everywhere. -/
theorem resolveName_some (name : String) (dir : Path) :
    resolveName name (some dir) = (dir.join (.ofString name)).normalize := by
  dsimp only [resolveName]
  by_cases habs : (Path.ofString name).isAbsolute = true
  · rw [if_neg (by simp [Path.isRelative, habs]), Path.join, if_pos habs]
  · rw [if_pos (by simp [Path.isRelative, habs]), Path.resolve]

/-- The path of a failure as it is spelled, seen from the directory of the linter. -/
def Failure.spelledPath (f : Failure) (r : Reading) : Path :=
  match r.workingDir with
  | some dir => dir.join (.ofString f.name)
  | none => .ofString f.name

theorem Failure.path_eq_normalize (f : Failure) (r : Reading) :
    f.path r = (f.spelledPath r).normalize := by
  unfold Failure.path Failure.spelledPath
  cases r.workingDir with
  | none => exact resolveName_none f.name
  | some dir => exact resolveName_some f.name dir

/-- The path of a failure is in normal form. -/
theorem Failure.normalize_path (f : Failure) : (f.path r).normalize = f.path r := by
  rw [f.path_eq_normalize, Path.normalize_normalize]

/-- Puts the diagnostic of a failure at the end of the list of its path. -/
def add (r : Reading) (m : FileDiagnostics) (f : Failure) : FileDiagnostics :=
  m.push (f.path r) (f.toDiagnostic r.useRuleSeverity)

theorem parse_of_failures {text : String} {fs : List Failure} (h : failures text = .ok fs) :
    parse text r = .ok (group r fs) := by
  rw [parse, h]
  rfl

theorem parse_of_error {text : String} {e : Json.ReadError} (h : failures text = .error e) :
    parse text r = .error e := by
  rw [parse, h]
  rfl

theorem group_eq_foldl (r : Reading) (fs : List Failure) : group r fs = fs.foldl (add r) .empty :=
  rfl

/-- The diagnostics of those failures that are about `p`, in order. -/
def diagnosticsOf (r : Reading) (fs : List Failure) (p : Path) : List Diagnostic :=
  (fs.filter fun f => (f.path r).same p).map fun f => f.toDiagnostic r.useRuleSeverity

private theorem listAt_foldl_add (m : FileDiagnostics) (fs : List Failure) (p : Path) :
    (fs.foldl (add r) m).listAt p = m.listAt p ++ diagnosticsOf r fs p := by
  induction fs generalizing m with
  | nil => exact (List.append_nil _).symm
  | cons f fs ih =>
      rw [List.foldl_cons, ih, add, PathMap.listAt_push, diagnosticsOf, diagnosticsOf]
      by_cases hkey : (f.path r).key = p.key
      · have hsame := Path.same_iff.mpr hkey
        simp [hkey, hsame]
      · have hother : (f.path r).same p = false := Path.same_eq_false_iff.mpr hkey
        simp [hkey, hother]

theorem listAt_group (r : Reading) (fs : List Failure) (p : Path) :
    (group r fs).listAt p = diagnosticsOf r fs p :=
  listAt_foldl_add .empty fs p

private theorem contains_foldl_add (m : FileDiagnostics) (fs : List Failure) (p : Path) :
    (fs.foldl (add r) m).contains p = true ↔
      m.contains p = true ∨ ∃ f ∈ fs, (f.path r).key = p.key := by
  induction fs generalizing m with
  | nil => simp
  | cons f fs ih =>
      rw [List.foldl_cons, ih, add, PathMap.contains_push, List.exists_mem_cons_iff]
      tauto

theorem contains_group (r : Reading) (fs : List Failure) (p : Path) :
    (group r fs).contains p = true ↔ ∃ f ∈ fs, (f.path r).key = p.key := by
  rw [group_eq_foldl, contains_foldl_add]
  simp [PathMap.contains, PathMap.empty]

private theorem mem_paths_foldl_add {m : FileDiagnostics} {fs : List Failure} {p : Path}
    (h : p ∈ (fs.foldl (add r) m).paths) : p ∈ m.paths ∨ ∃ f ∈ fs, f.path r = p := by
  induction fs generalizing m with
  | nil => exact .inl h
  | cons f fs ih =>
      rcases ih h with h | ⟨g, hg, rfl⟩
      · rcases PathMap.mem_paths_alter h with rfl | h
        · exact .inr ⟨f, List.mem_cons_self .., rfl⟩
        · exact .inl h
      · exact .inr ⟨g, List.mem_cons_of_mem _ hg, rfl⟩

/-- The paths of a grouped report are those of its failures, byte for byte. -/
theorem mem_paths_group {fs : List Failure} {p : Path} :
    p ∈ (group r fs).paths ↔ ∃ f ∈ fs, f.path r = p := by
  have spelled : ∀ q ∈ (group r fs).paths, ∃ f ∈ fs, f.path r = q := by
    intro q hq
    rcases mem_paths_foldl_add hq with hempty | h
    · exact absurd hempty List.not_mem_nil
    · exact h
  constructor
  · exact spelled p
  · rintro ⟨f, hf, rfl⟩
    have hcontains := (contains_group r fs (f.path r)).mpr ⟨f, hf, rfl⟩
    obtain ⟨q, hq, hkey⟩ := PathMap.contains_iff_mem_paths.mp hcontains
    obtain ⟨g, hg, rfl⟩ := spelled q hq
    rwa [← Path.eq_of_key_eq_of_normal g.normalize_path f.normalize_path hkey]

/-- The paths of a grouped report are in normal form. -/
theorem normalize_of_mem_paths_group {fs : List Failure} {p : Path}
    (h : p ∈ (group r fs).paths) : p.normalize = p := by
  obtain ⟨f, -, rfl⟩ := mem_paths_group.mp h
  exact f.normalize_path

/-- A failure is listed under its key. -/
theorem exists_entry_of_mem {fs : List Failure} {f : Failure} (hf : f ∈ fs) :
    ∃ e ∈ (group r fs).entries, e.1 = f.path r ∧ f.toDiagnostic r.useRuleSeverity ∈ e.2 := by
  obtain ⟨e, he, hpath⟩ := List.mem_map.mp (mem_paths_group.mpr ⟨f, hf, rfl⟩)
  refine ⟨e, he, hpath, ?_⟩
  rw [← PathMap.listAt_of_mem _ he, listAt_group, hpath]
  exact List.mem_map_of_mem (List.mem_filter.mpr ⟨hf, Path.same_iff.mpr rfl⟩)

/-- No path is listed without a diagnostic. -/
theorem ne_nil_of_mem_group {fs : List Failure} {e : Path × List Diagnostic}
    (h : e ∈ (group r fs).entries) : e.2 ≠ [] := by
  obtain ⟨f, hf, hpath⟩ := mem_paths_group.mp (List.mem_map_of_mem (f := Prod.fst) h)
  have hsame : (f.path r).same e.1 = true := by
    rw [hpath]
    exact Path.same_iff.mpr rfl
  rw [← PathMap.listAt_of_mem _ h, listAt_group]
  exact List.ne_nil_of_mem (List.mem_map_of_mem (List.mem_filter.mpr ⟨hf, hsame⟩))

theorem total_group (r : Reading) (fs : List Failure) : (group r fs).total = fs.length := by
  have total_foldl_add : ∀ m : FileDiagnostics,
      (fs.foldl (add r) m).total = m.total + fs.length := by
    induction fs with
    | nil => exact fun m => rfl
    | cons f fs ih =>
        intro m
        rw [List.foldl_cons, ih, add, PathMap.total_push, List.length_cons]
        omega
  rw [group_eq_foldl, total_foldl_add]
  exact Nat.zero_add _

end LintRelay.Report
