import LintRelay.Proofs.FileTree.Walk
import LintRelay.Proofs.Path.Relative

/-!
# One tree from two directories

From which directory relative paths start makes no difference to an absolute path
(`reach_withBase_absolute`). Where nothing is a link, a path that leads anywhere leads where its
components say (`LinkFree.location_of_reach`), so a path that leads somewhere from both directories
leads to the same place exactly if it does so by its components (`LinkFree.same_location_iff`).
-/

namespace LintRelay

open Component (ofSegment?)

namespace FileTree

variable {t : FileTree}

/-! ## What does not depend on the directory -/

@[simp] theorem at?_withBase (t : FileTree) (l : Location) : (t.withBase l).at? = t.at? := rfl

@[simp] theorem walk_withBase (t : FileTree) (l dir : Location) (ss : List Bytes) :
    (t.withBase l).walk dir ss = t.walk dir ss := by
  induction ss generalizing dir with
  | nil => rfl
  | cons s ss ih =>
      rw [walk, walk]
      simp only [at?_withBase, ih]

@[simp] theorem follow_withBase (t : FileTree) (l : Location) (budget : Nat) (dir : Location)
    (ss : List Bytes) : (t.withBase l).follow budget dir ss = t.follow budget dir ss := by
  induction budget generalizing dir ss with
  | zero =>
      rw [follow, follow]
      simp only [walk_withBase]
  | succ budget ih =>
      rw [follow, follow]
      simp only [walk_withBase, ih]

theorem reach_withBase_absolute (t : FileTree) (l : Location) {p : Path}
    (h : p.isAbsolute = true) : (t.withBase l).reach p = t.reach p := by
  simp only [reach, follow_withBase, h, if_true]

theorem LinkFree.withBase (h : t.LinkFree) (l : Location) : (t.withBase l).LinkFree := h

/-! ## Where a path leads without links -/

/-- A walk that arrives went where the components lead. -/
theorem location_of_walk {l m : Location} {node : FileNode} {ss : List Bytes}
    (h : t.walk l ss = .ok (.arrived m node)) :
    m = (ss.filterMap ofSegment?).foldl Component.step l := by
  induction ss generalizing l with
  | nil =>
      cases h
      rfl
  | cons s ss ih =>
      cases hs : ofSegment? s with
      | none =>
          rw [walk_trivial hs] at h
          rw [List.filterMap_cons_none hs]
          exact ih h
      | some c =>
          rw [List.filterMap_cons_some hs, List.foldl_cons]
          rcases Component.ofSegment?_eq_some hs with ⟨rfl, rfl⟩ | rfl
          · exact ih h
          · cases hlast : ss.isEmpty with
            | true =>
                obtain rfl := List.isEmpty_iff.mp hlast
                rw [walk_last hs] at h
                split at h
                · cases h
                · split at h <;> simp_all [Component.step]
            | false =>
                -- what is not at the end is a directory
                obtain ⟨hlength, hdirectory⟩ := directory_of_walk hs hlast h
                rw [walk_directory hs hlength hdirectory] at h
                exact ih h

theorem LinkFree.location_of_reach (h : t.LinkFree) {p : Path} {r : Reached}
    (hreach : t.reach p = .ok r) : r.location = p.destination t.base := by
  have hfollow : t.follow linkBudget (if p.isAbsolute then [] else t.base) (splitSlash p.bytes) =
      .ok r := by
    unfold reach at hreach
    split at hreach
    · cases hreach
    · split at hreach
      · cases hreach
      · split at hreach
        · cases hreach
        · exact hreach
  rw [Path.destination_eq_foldl]
  exact location_of_walk (h.walk_of_follow hfollow)

/-- Where nothing is a link, what a path leads to from two directories is at the same place exactly
if its components lead alike from both. -/
theorem LinkFree.same_location_iff (h : t.LinkFree) {l : Location} {p : Path} {r s : Reached}
    (hr : (t.withBase l).reach p = .ok r) (hs : t.reach p = .ok s) :
    r.location = s.location ↔ p.LeadsAlike l t.base := by
  rw [(h.withBase l).location_of_reach hr, h.location_of_reach hs, ← Path.destination_eq_iff]
  rfl

end FileTree
end LintRelay
