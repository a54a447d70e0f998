import LintRelay.Proofs.Path.Destination
import LintRelay.Proofs.Report.Group
import LintRelay.Session.Basic
import Mathlib.Logic.Function.Iterate

/-!
# The keys of a report

The key of a failure is the normal form of its file. It does not depend on how the path is spelled,
on whether the directory that it is seen from was normalized before, or on how often it is
normalized (`keys_stable`). It does depend on more than the file: a `..` at the root stays, and a
second one takes it away again. So an absolute path has one of two keys, according to whether it
climbs over the root an even or an odd number of times, and failures of one file are grouped under
one key exactly if these agree (`same_key_iff`).
-/

namespace LintRelay

/-- Where a path leads from a directory is the same, in normal form, from the directory's own normal
form. -/
theorem Path.resolve_normalize (dir p : Path) : dir.normalize.resolve p = dir.resolve p :=
  dir.normalize_join p

theorem Path.iterate_normalize (p : Path) (n : Nat) :
    Path.normalize^[n + 1] p = p.normalize := by
  induction n with
  | zero => rfl
  | succ n ih => rw [Function.iterate_succ_apply', ih, normalize_normalize]

theorem pickFile_normalize (set : FileDiagnostics) (file dir : Path) :
    pickFile set file dir.normalize = pickFile set file dir := by
  unfold pickFile
  rw [dir.resolve_normalize]

namespace Report

variable {r : Reading} {fs : List Failure}

/-! ## The directory of the report -/

/-- Reports that lead to the same paths are grouped alike. -/
theorem group_congr {r' : Reading} (hpath : ∀ f : Failure, f.path r = f.path r')
    (hseverity : r.useRuleSeverity = r'.useRuleSeverity) (fs : List Failure) :
    group r fs = group r' fs := by
  have hadd : add r = add r' := by
    funext m f
    rw [add, add, hpath, hseverity]
  rw [group_eq_foldl, group_eq_foldl, hadd]

theorem parse_normalize (text : String) (dir : Path) (useRuleSeverity : Bool) :
    parse text ⟨some dir.normalize, useRuleSeverity⟩ = parse text ⟨some dir, useRuleSeverity⟩ := by
  have hpath : ∀ f : Failure,
      f.path ⟨some dir.normalize, useRuleSeverity⟩ = f.path ⟨some dir, useRuleSeverity⟩ := by
    intro f
    rw [f.path_eq_normalize, f.path_eq_normalize]
    exact dir.normalize_join (.ofString f.name)
  unfold parse
  congr 1
  funext fs
  exact group_congr hpath rfl fs

/-- **Keys are stable.** Normalizing a path before another one goes on from it changes nothing about
the normal form, normalizing again changes no byte, however often it is done, and spellings of one
path have one normal form. So a report is read, and a file is picked from it, as from the normal form
of the directory. -/
theorem keys_stable :
    (∀ p q : Path, (p.join q).normalize = (p.normalize.join q).normalize) ∧
    (∀ p : Path, p.normalize.normalize.bytes = p.normalize.bytes) ∧
    (∀ p q : Path, p.same q = true → p.normalize.bytes = q.normalize.bytes) ∧
    (∀ (p : Path) (n : Nat), (Path.normalize^[n + 1] p).bytes = p.normalize.bytes) ∧
    (∀ (text : String) (dir : Path) (useRuleSeverity : Bool),
      parse text ⟨some dir.normalize, useRuleSeverity⟩ = parse text ⟨some dir, useRuleSeverity⟩) ∧
    (∀ (set : FileDiagnostics) (file dir : Path),
      pickFile set file dir.normalize = pickFile set file dir) := by
  refine ⟨fun p q => (p.normalize_join q).symm, fun p => by rw [p.normalize_normalize],
    fun p q hsame => ?_, fun p n => by rw [p.iterate_normalize], parse_normalize,
    pickFile_normalize⟩
  rw [Path.normalize_congr (Path.same_iff.mp hsame)]

/-- Two spellings of a path that climbs over where it starts, and a path that goes on from it and
climbs once more. -/
theorem keys_stable_climbing :
    let p := Path.ofString "a//../../b/."
    let q := Path.ofString "a/./.././../b/"
    let r := Path.ofString "./../../c.js"
    p.same q = true ∧ p.normalize.bytes = q.normalize.bytes ∧
      (p.join r).normalize = (p.normalize.join r).normalize ∧
      (p.join r).normalize = .ofString "c.js" := by
  intro p q r
  have hsame : p.same q = true := by decide
  exact ⟨hsame, keys_stable.2.2.1 p q hsame, keys_stable.1 p r, by decide⟩

/-! ## Failures of one file -/

/-- Failures are listed in one entry exactly if they have one key. -/
theorem exists_common_entry_iff {f g : Failure} (hf : f ∈ fs) (hg : g ∈ fs) :
    (∃ e ∈ (group r fs).entries, (e.1 = f.path r ∧ f.toDiagnostic r.useRuleSeverity ∈ e.2) ∧
      e.1 = g.path r ∧ g.toDiagnostic r.useRuleSeverity ∈ e.2) ↔ f.path r = g.path r := by
  constructor
  · rintro ⟨e, -, ⟨hfe, -⟩, hge, -⟩
    exact hfe.symm.trans hge
  · intro hkey
    obtain ⟨e, he, hfe⟩ := exists_entry_of_mem hf
    obtain ⟨d, hd, hgd⟩ := exists_entry_of_mem hg
    have hsame : e = d :=
      (group r fs).eq_of_key_eq he hd (congrArg Path.key (hfe.1.trans (hkey.trans hgd.1.symm)))
    exact ⟨e, he, hfe, hsame ▸ hgd⟩

/-- **Absolute paths of one file have one key, but for a climb over the root.** Two of them have the
same normal form exactly if they lead to the same place and climb over the root equally often, modulo
two. No `.` is left in it, and `..` exactly if the number of climbs is odd. Failures with such paths
are grouped under one key in the same case. -/
theorem same_key_iff (p q : Path) (hp : p.isAbsolute = true) (hq : q.isAbsolute = true) :
    (p.normalize = q.normalize ↔
      p.destination [] = q.destination [] ∧ p.trail.climbs % 2 = q.trail.climbs % 2) ∧
    (.current ∉ p.normalize.components ∧
      (.up ∈ p.normalize.components ↔ p.trail.climbs % 2 = 1)) ∧
    ∀ (r : Reading) (fs : List Failure) (f g : Failure), f ∈ fs → g ∈ fs →
      f.spelledPath r = p → g.spelledPath r = q →
      ((∃ e ∈ (group r fs).entries, (e.1 = f.path r ∧ f.toDiagnostic r.useRuleSeverity ∈ e.2) ∧
          e.1 = g.path r ∧ g.toDiagnostic r.useRuleSeverity ∈ e.2) ↔
        p.destination [] = q.destination [] ∧ p.trail.climbs % 2 = q.trail.climbs % 2) := by
  refine ⟨Path.normalize_eq_iff hp hq, ?_, ?_⟩
  · rw [Path.components_normalize_of_isAbsolute hp]
    constructor
    · split <;> simp
    · split <;> simp [*]
  · rintro r fs f g hf hg rfl rfl
    rw [exists_common_entry_iff hf hg, f.path_eq_normalize, g.path_eq_normalize]
    exact Path.normalize_eq_iff hp hq

/-- A name that climbs over the root twice and the plain name of the same file have one key. -/
theorem same_key_iff_detour :
    let failure (name : String) : Failure := ⟨"r", "f", name, ⟨0, 0⟩, ⟨0, 1⟩, none⟩
    let r : Reading := ⟨some (.ofString "/p/src"), false⟩
    let f := failure "../../../../b/./x.js"
    let g := failure "/a/..//b/x.js"
    (f.spelledPath r).isAbsolute = true ∧ (g.spelledPath r).isAbsolute = true ∧
      (f.spelledPath r).trail.climbs = 2 ∧
      ∃ e ∈ (group r [f, g]).entries, (e.1 = f.path r ∧ f.toDiagnostic r.useRuleSeverity ∈ e.2) ∧
          e.1 = g.path r ∧ g.toDiagnostic r.useRuleSeverity ∈ e.2 := by
  intro failure r f g
  have hf : (f.spelledPath r).isAbsolute = true := by decide
  have hg : (g.spelledPath r).isAbsolute = true := by decide
  obtain ⟨-, -, hgrouped⟩ := same_key_iff _ _ hf hg
  exact ⟨hf, hg, by decide, (hgrouped r [f, g] f g (by simp) (by simp) rfl rfl).mpr (by decide)⟩

/-- One `..` at the root stays, and one file gets two keys. -/
theorem two_keys_over_root :
    let failure (name : String) : Failure := ⟨"r", "f", name, ⟨0, 0⟩, ⟨0, 1⟩, none⟩
    let p := Path.ofString "/../x.js"
    let q := Path.ofString "/x.js"
    p.isAbsolute = true ∧ q.isAbsolute = true ∧ p.destination [] = q.destination [] ∧
      p.normalize ≠ q.normalize ∧ .up ∈ p.normalize.components ∧
      (group ⟨none, false⟩ [failure "/../x.js", failure "/x.js"]).paths = [p, q] := by
  decide

end Report
end LintRelay
