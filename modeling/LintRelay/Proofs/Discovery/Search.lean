import LintRelay.Discovery

/-!
# Searching in directories

A search goes through directories in their order and stops at the first one in which a regular file
has the name (`firstFile_cons`). So what it finds is the nearest file, counting directories as the
search goes through them (`isNearest_of_findUp`).
-/

namespace LintRelay

variable {t : FileTree} {name : String}

/-- What is not there is no file. -/
theorem FileTree.isFile_of_exists?_false {p : Path} (h : t.exists? p = .ok false) :
    t.isFile p = false := by
  unfold FileTree.exists? at h
  unfold FileTree.isFile
  cases hreach : t.reach p with
  | ok r => simp [hreach] at h
  | error e => rfl

/-- A search looks into the first directory, and into the others if no regular file is there. -/
theorem firstFile_cons {dir : Path} {dirs : List Path} {found : Option Path}
    (h : firstFile t name (dir :: dirs) = .ok found) :
    (∃ there, t.exists? (dir.join (.ofString name)) = .ok there) ∧
    ((t.isFile (dir.join (.ofString name)) = true ∧ found = some (dir.join (.ofString name))) ∨
      (t.isFile (dir.join (.ofString name)) = false ∧ firstFile t name dirs = .ok found)) := by
  unfold firstFile at h
  cases hthere : t.exists? (dir.join (.ofString name)) with
  | error e => simp [hthere] at h
  | ok there =>
      refine ⟨⟨there, rfl⟩, ?_⟩
      have hmissing : there = false → t.isFile (dir.join (.ofString name)) = false := by
        rintro rfl
        exact FileTree.isFile_of_exists?_false hthere
      -- what is there and no regular file is passed over too
      cases hfile : t.isFile (dir.join (.ofString name)) <;> cases there <;> simp_all

theorem firstFile_some {dirs : List Path} {p : Path}
    (h : firstFile t name dirs = .ok (some p)) :
    ∃ nearer dir farther, dirs = nearer ++ dir :: farther ∧
      p = dir.join (.ofString name) ∧ t.isFile p = true ∧
      ∀ d ∈ nearer, t.isFile (d.join (.ofString name)) = false := by
  induction dirs with
  | nil => simp [firstFile] at h
  | cons dir dirs ih =>
      obtain ⟨-, ⟨hfile, hfound⟩ | ⟨hother, hrest⟩⟩ := firstFile_cons h
      · obtain rfl := Option.some.inj hfound
        exact ⟨[], dir, dirs, rfl, rfl, hfile, by simp⟩
      · obtain ⟨nearer, d, farther, rfl, hp, hfile, hnearer⟩ := ih hrest
        exact ⟨dir :: nearer, d, farther, rfl, hp, hfile,
          List.forall_mem_cons.mpr ⟨hother, hnearer⟩⟩

/-- Whether `p` is the nearest file called `name`, in the directory `start` or above it. -/
def IsNearest (t : FileTree) (name : String) (start p : Path) : Prop :=
  ∃ nearer dir farther, start.ancestors = nearer ++ dir :: farther ∧
    p = dir.join (.ofString name) ∧ t.isFile p = true ∧
    ∀ d ∈ nearer, t.isFile (d.join (.ofString name)) = false

/-- What the search finds is the nearest file of the name. -/
theorem isNearest_of_findUp {start p : Path} (h : findUp t name start = .ok (some p)) :
    IsNearest t name start p :=
  firstFile_some h

end LintRelay
