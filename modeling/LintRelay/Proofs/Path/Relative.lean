import LintRelay.Proofs.Path.Destination

/-!
# Relative paths from two directories

A relative path that is read from another directory leads to the same place exactly if as much of
both directories is left, once it has climbed (`destination_eq_iff`). A file with a relative path is
linted in the path without its last component (`exists_parent?_relative`), so its own trail is that
of the directory and one name more (`trail_of_fileName?`). Read from that directory, its path leads
to the file if the directory's path goes down as often as it climbs, or never gets away from the
root (`leadsAlike_workingDirFor_iff`).
-/

namespace LintRelay

namespace Path

open Component (ofSegment?)

/-! ## Two directories -/

/-- Whether a path leads to the same place from two directories: what is left of them after its
climbs is the same. -/
def LeadsAlike (p : Path) (l m : Location) : Prop :=
  p.isAbsolute = true ∨ l.take (l.length - p.trail.climbs) = m.take (m.length - p.trail.climbs)

instance (p : Path) (l m : Location) : Decidable (p.LeadsAlike l m) :=
  inferInstanceAs (Decidable (_ ∨ _))

theorem destination_eq_iff (p : Path) (l m : Location) :
    p.destination l = p.destination m ↔ p.LeadsAlike l m := by
  cases h : p.isAbsolute with
  | true => exact iff_of_true (by rw [destination_absolute h, destination_absolute h]) (.inl h)
  | false =>
      rw [destination_relative h, destination_relative h]
      unfold Trail.location LeadsAlike
      rw [List.append_left_inj, h]
      simp

/-- A path that does not climb is led astray by any other directory. -/
example : ¬(ofString "c/x.js").LeadsAlike (["a", "c"].map Text.bytesOf) (["a"].map Text.bytesOf) := by
  decide

/-! ## Parents -/

/-- Whether segments may follow the beginning of a path. -/
def Fits : Anchor → List Bytes → Prop
  | .bare, s :: _ => s ≠ [] ∧ s ≠ [dot]
  | _, _ => True

theorem Fits.of_prefix {a : Anchor} {ss before : List Bytes} (h : Fits a ss)
    (hbefore : before <+: ss) : Fits a before := by
  obtain ⟨behind, rfl⟩ := hbefore
  cases a <;> cases before <;> trivial

/-- Segments behind a beginning without the root are found again. -/
theorem components_ofParts {a : Anchor} {ss : List Bytes} (ha : a ≠ .root) (hfits : Fits a ss)
    (hss : ∀ s ∈ ss, slash ∉ s) :
    (ofParts a ss).components = a.components ++ ss.filterMap ofSegment? := by
  cases ss with
  | nil => cases a <;> rfl
  | cons s ss =>
      have hsplit := splitSlash_joinSlash (List.cons_ne_nil s ss) hss
      cases a with
      | root => exact absurd rfl ha
      | current =>
          have hcurrent : splitSlash (dot :: slash :: joinSlash (s :: ss)) = [dot] :: s :: ss := by
            rw [← List.singleton_append, splitSlash_append_slash (by decide), hsplit]
          have hparts : (ofParts .current (s :: ss)).parts = (.current, s :: ss) := by
            show parts ⟨dot :: slash :: joinSlash (s :: ss)⟩ = _
            unfold parts
            rw [hcurrent]
            rfl
          rw [components, hparts]
      | bare =>
          obtain ⟨hempty, hdot⟩ := hfits
          have hrelative : isAbsolute ⟨joinSlash (s :: ss)⟩ = false := by
            obtain ⟨b, bs, rfl⟩ := List.exists_cons_of_ne_nil hempty
            have hb : b ≠ slash := fun heq =>
              hss _ (List.mem_cons_self ..) (heq ▸ List.mem_cons_self ..)
            cases ss <;> simp [isAbsolute, joinSlash, hb]
          have hparts : (ofParts .bare (s :: ss)).parts = (.bare, s :: ss) := by
            show parts ⟨joinSlash (s :: ss)⟩ = _
            unfold parts
            rw [hsplit, hrelative]
            simp [hdot]
          rw [components, hparts]

/-- What a relative path with a component is made of. -/
theorem exists_parts {p : Path} (h : p.isAbsolute = false) (hcomponents : p.components ≠ []) :
    ∃ a ss, p.parts = (a, ss) ∧ a ≠ .root ∧ Fits a ss ∧ ∀ s ∈ ss, slash ∉ s := by
  have hslash := @not_mem_of_mem_splitSlash p.bytes
  obtain ⟨s, ss, hsplit⟩ := List.exists_cons_of_ne_nil (splitSlash_ne_nil p.bytes)
  rw [hsplit] at hslash
  by_cases hdot : s = [dot]
  · refine ⟨.current, ss, ?_, by simp, trivial, fun _ hs => hslash (List.mem_cons_of_mem _ hs)⟩
    simp [parts, hsplit, h, hdot]
  · have hparts : p.parts = (.bare, s :: ss) := by simp [parts, hsplit, h, hdot]
    refine ⟨.bare, s :: ss, hparts, by simp, ⟨?_, hdot⟩, fun _ hs => hslash hs⟩
    rintro rfl
    obtain ⟨bytes⟩ := p
    cases bytes with
    | nil => exact hcomponents rfl
    | cons b bs =>
        -- an empty segment in front is the one in front of a slash
        have hb : (b == slash) = false := by simpa [isAbsolute] using h
        rw [splitSlash, hb, if_neg Bool.false_ne_true] at hsplit
        split at hsplit <;> simp at hsplit

/-- The parent of a relative path with a name is the path without it. -/
theorem exists_parent?_relative {p : Path} {cs : List Component} {n : Bytes}
    (h : p.isAbsolute = false) (hcs : p.components = cs ++ [.name n]) :
    ∃ q, p.parent? = some q ∧ q.components = cs := by
  obtain ⟨a, ss, hparts, ha, hfits, hslash⟩ := exists_parts h (by simp [hcs])
  obtain ⟨front, hfront, hcs'⟩ : ∃ front, cs = a.components ++ front ∧
      ss.filterMap ofSegment? = front ++ [.name n] := by
    have hsegments : a.components ++ ss.filterMap ofSegment? = cs ++ [.name n] := by
      rw [← hcs, components, hparts]
    rcases List.eq_nil_or_concat' (ss.filterMap ofSegment?) with hnil | ⟨front, c, hfront⟩
    · rw [hnil, List.append_nil] at hsegments
      cases a <;> cases cs <;> simp [Anchor.components] at hsegments ha
    · rw [hfront, ← List.append_assoc] at hsegments
      obtain ⟨hcs, hlast⟩ := List.append_inj' hsegments rfl
      exact ⟨front, hcs.symm, by rw [hfront, hlast]⟩
  obtain ⟨s, before, hdrop, hbefore⟩ := exists_dropWhile_trivial hcs'
  have hbegins : dropTrivialEnd before.reverse <+: ss := by
    have hsuffix : s :: before <:+ ss.reverse := hdrop ▸ List.dropWhile_suffix isTrivial
    have hreverse : before.reverse <+: ss :=
      List.reverse_suffix.mp (by simpa using (List.suffix_cons s before).trans hsuffix)
    exact (List.reverse_suffix.mp (by
      simpa [dropTrivialEnd] using List.dropWhile_suffix isTrivial (l := before))).trans hreverse
  refine ⟨ofParts a (dropTrivialEnd before.reverse), ?_, ?_⟩
  · simp only [parent?, hparts, hdrop]
  · rw [components_ofParts ha (hfits.of_prefix hbegins)
      (fun t ht => hslash t (hbegins.subset ht)), filterMap_dropTrivialEnd, hbefore, hfront]

/-! ## The directory of a file -/

/-- A file with a relative path is linted in a relative directory, and one name leads from there to
the file. -/
theorem trail_of_fileName? {file : Path} {n : Bytes} (h : file.isAbsolute = false)
    (hname : file.fileName? = some n) :
    (workingDirFor file).isAbsolute = false ∧
      file.trail = (workingDirFor file).trail.follow (.name n) := by
  obtain ⟨cs, hcs⟩ : ∃ cs, file.components = cs ++ [.name n] := by
    unfold fileName? at hname
    split at hname
    · rename_i m hlast
      rw [← Option.some.inj hname]
      exact List.getLast?_eq_some_iff.mp hlast
    · cases hname
  obtain ⟨q, hparent, hq⟩ := exists_parent?_relative h hcs
  have htrail : file.trail = q.trail.follow (.name n) := by
    rw [trail, trail, hcs, hq, List.foldl_append]
    rfl
  by_cases hempty : q.bytes = []
  · -- a path of its name alone: the directory is spelled `.`, and stays where it starts
    have hdir : workingDirFor file = .ofString "." := by simp [workingDirFor, hparent, hempty]
    obtain rfl : q = .empty := congrArg Path.mk hempty
    rw [hdir]
    exact ⟨by decide, htrail⟩
  · have hdir : workingDirFor file = q := by simp [workingDirFor, hparent, hempty]
    rw [hdir]
    refine ⟨Bool.eq_false_iff.mpr fun hq' => root_not_mem_components h ?_, htrail⟩
    obtain ⟨segments, hroot, -⟩ := components_of_isAbsolute hq'
    rw [hcs, ← hq, hroot]
    exact List.mem_cons_self ..

/-- Read from the directory of the file, its path leads to the file exactly if the directory's path
goes down as often as it climbs, or climbs to the root and goes down no more often. -/
theorem leadsAlike_workingDirFor_iff {file : Path} {n : Bytes} (h : file.isAbsolute = false)
    (hname : file.fileName? = some n) (base : Location) :
    file.LeadsAlike ((workingDirFor file).destination base) base ↔
      (workingDirFor file).trail.names.length = (workingDirFor file).trail.climbs ∨
        ((workingDirFor file).trail.names.length < (workingDirFor file).trail.climbs ∧
          base.length ≤ (workingDirFor file).trail.climbs) := by
  obtain ⟨hdir, htrail⟩ := trail_of_fileName? h hname
  rw [LeadsAlike, htrail, destination_relative hdir, h]
  generalize (workingDirFor file).trail = dir
  obtain ⟨climbs, names⟩ := dir
  have hkept : (base.take (base.length - climbs)).length = base.length - climbs :=
    List.length_take_of_le (Nat.sub_le ..)
  show false = true ∨ (base.take (base.length - climbs) ++ names).take
      ((base.take (base.length - climbs) ++ names).length - climbs) =
    base.take (base.length - climbs) ↔ names.length = climbs ∨
      names.length < climbs ∧ base.length ≤ climbs
  rw [List.length_append, hkept, or_iff_right Bool.false_ne_true]
  constructor
  · intro heq
    have hlength := congrArg List.length heq
    rw [List.length_take, List.length_append, hkept] at hlength
    omega
  · rintro (hlevel | ⟨hfewer, hroot⟩)
    · rw [hlevel, Nat.add_sub_cancel]
      exact List.take_left' hkept
    · rw [Nat.sub_eq_zero_of_le hroot, Nat.zero_add, Nat.sub_eq_zero_of_le hfewer.le,
        List.take_zero, List.take_zero]

end Path
end LintRelay
