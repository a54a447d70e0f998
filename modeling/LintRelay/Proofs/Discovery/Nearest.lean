import LintRelay.Proofs.Discovery.Search
import LintRelay.Proofs.FileTree.Walk

/-!
# The nearest configuration

A search upwards looks into the directories that the beginnings of a path spell, the longest first
(`firstFile_ancestors`). Among these are all directories above the one where the path leads
(`exists_visit`), so no configuration there is passed over. But a path with `..` in it also spells
directories that it comes back to and leaves upwards (`prefix_or_leaves`), and the search looks into
these too (`findUp_nearest`).
-/

namespace LintRelay

/-! ## The locations along a path -/

namespace Component

/-- Of the locations above where a component leads, only the last can be new. -/
theorem prefix_of_prefix_step {k l : Location} {c : Component} (h : k <+: c.step l)
    (hne : k ≠ c.step l) : k <+: l := by
  cases c with
  | root => exact absurd (List.prefix_nil.mp h) hne
  | current => exact h
  | up => exact h.trans (List.dropLast_prefix l)
  | name n => exact (List.prefix_concat_iff.mp h).resolve_left hne

/-- Only `..` leaves a location that is above, and only from there. -/
theorem eq_of_not_prefix_step {k l : Location} {c : Component} (hc : c ≠ .root) (h : k <+: l)
    (hstep : ¬k <+: c.step l) : c = .up ∧ k = l := by
  cases c with
  | root => exact absurd rfl hc
  | current => exact absurd h hstep
  | name n => exact absurd (h.trans (List.prefix_append l [n])) hstep
  | up =>
      obtain ⟨below, rfl⟩ := h
      rcases List.eq_nil_or_concat' below with rfl | ⟨front, n, rfl⟩
      · exact ⟨rfl, (List.append_nil k).symm⟩
      · refine absurd ?_ hstep
        show k <+: (k ++ (front ++ [n])).dropLast
        rw [← List.append_assoc, List.dropLast_concat]
        exact List.prefix_append k front

end Component

/-- On the way to a place, every location above it that the way does not start below is visited. -/
theorem exists_visit {k l : Location} {cs : List Component}
    (h : k <+: cs.foldl Component.step l) (hl : ¬k <+: l) :
    ∃ visited, visited <+: cs ∧ visited ≠ [] ∧ visited.foldl Component.step l = k := by
  induction cs using List.reverseRecOn with
  | nil => exact absurd h hl
  | append_singleton cs c ih =>
      by_cases hk : k = (cs ++ [c]).foldl Component.step l
      · exact ⟨cs ++ [c], List.prefix_rfl, by simp, hk.symm⟩
      · rw [List.foldl_concat] at h hk
        obtain ⟨visited, hvisited, hne, hfold⟩ := ih (Component.prefix_of_prefix_step h hk)
        exact ⟨visited, hvisited.trans (List.prefix_append cs [c]), hne, hfold⟩

/-- Whether a way that starts at `l` comes to `k` and goes up from there. -/
def LeavesUpwards (k l : Location) (way : List Component) : Prop :=
  ∃ front behind, way = front ++ .up :: behind ∧ front.foldl Component.step l = k ∧ k ≠ []

/-- A way that starts at a location or below ends there or below, unless it leaves the location
upwards. -/
theorem prefix_or_leaves {k l : Location} {cs : List Component} (hcs : .root ∉ cs)
    (h : k <+: l) : k <+: cs.foldl Component.step l ∨ LeavesUpwards k l cs := by
  induction cs generalizing l with
  | nil => exact .inl h
  | cons c cs ih =>
      obtain ⟨hc, hcs⟩ := not_or.mp (List.mem_cons.not.mp hcs)
      by_cases hstep : k <+: c.step l
      · rcases ih hcs hstep with hbelow | ⟨stay, behind, rfl, hfold, hk⟩
        · exact .inl hbelow
        · exact .inr ⟨c :: stay, behind, rfl, hfold, hk⟩
      · obtain ⟨rfl, rfl⟩ := Component.eq_of_not_prefix_step (Ne.symm hc) h hstep
        refine .inr ⟨[], cs, rfl, rfl, ?_⟩
        rintro rfl
        exact hstep List.nil_prefix

/-! ## The search -/

variable {t : FileTree} {name : String}

/-- A search that went along components found a file in the directory of the longest beginning of
them that leads to a directory with the file. -/
structure FoundAlong (t : FileTree) (name : String) (cs : List Component) (file dir : Path)
    (visited : List Component) : Prop where
  candidate : file = dir.join (.ofString name)
  isFile : t.isFile file = true
  spelled : dir.components = .root :: visited
  on_way : visited <+: cs
  hasFile : t.HasFile (visited.foldl Component.step []) (Text.bytesOf name)
  longest : ∀ later, later <+: cs → visited.length < later.length →
    ¬t.HasFile (later.foldl Component.step []) (Text.bytesOf name)

/-- A file in the last directory of the way. -/
theorem FoundAlong.last {cs : List Component} {dir : Path} (hdir : dir.components = .root :: cs)
    (hfile : t.isFile (dir.join (.ofString name)) = true)
    (hhere : t.HasFile (cs.foldl Component.step []) (Text.bytesOf name)) :
    FoundAlong t name cs (dir.join (.ofString name)) dir cs where
  candidate := rfl
  isFile := hfile
  spelled := hdir
  on_way := List.prefix_rfl
  hasFile := hhere
  longest _ hlater hlength := absurd hlater.length_le (Nat.not_le_of_lt hlength)

/-- One directory more at the end of the way makes no difference if the file is not there. -/
theorem FoundAlong.concat {cs visited : List Component} {c : Component} {file dir : Path}
    (h : FoundAlong t name cs file dir visited)
    (hc : ¬t.HasFile ((cs ++ [c]).foldl Component.step []) (Text.bytesOf name)) :
    FoundAlong t name (cs ++ [c]) file dir visited where
  candidate := h.candidate
  isFile := h.isFile
  spelled := h.spelled
  on_way := h.on_way.trans (List.prefix_append cs [c])
  hasFile := h.hasFile
  longest later hlater hlength := by
    rcases List.prefix_concat_iff.mp hlater with rfl | hlater
    · exact hc
    · exact h.longest later hlater hlength

/-- A search upwards looks into the directories that the beginnings of the path spell, the longest
first. -/
theorem firstFile_ancestors (h : t.LinkFree)
    (hname : (Component.name (Text.bytesOf name)).IsSegment) {start : Path} {cs : List Component}
    (hstart : start.components = .root :: cs) (hcs : t.Traversable [] cs) {n : Nat}
    (hn : cs.length < n) {found : Option Path}
    (hfound : firstFile t name (Path.ancestorsUpTo n start) = .ok found) :
    match found with
    | none => ∀ visited, visited <+: cs →
        ¬t.HasFile (visited.foldl Component.step []) (Text.bytesOf name)
    | some file => ∃ dir visited, FoundAlong t name cs file dir visited := by
  -- on the components from the end: a parent is a path without its last component
  induction cs using List.reverseRecOn generalizing start n with
  | nil =>
      obtain ⟨n, rfl⟩ := Nat.exists_eq_succ_of_ne_zero (Nat.ne_of_gt hn)
      rw [Path.ancestorsUpTo, Path.parent?_of_root hstart] at hfound
      obtain ⟨⟨there, hthere⟩, hlook⟩ := firstFile_cons hfound
      have hiff := h.isFile_join_iff hstart hcs hname hthere
      rcases hlook with ⟨hfile, rfl⟩ | ⟨hfile, hrest⟩
      · exact ⟨start, [], .last hstart hfile (hiff.mp hfile)⟩
      · cases hrest
        intro visited hvisited
        rw [List.prefix_nil.mp hvisited, ← hiff, hfile]
        exact Bool.false_ne_true
  | append_singleton cs c ih =>
      obtain ⟨n, rfl⟩ := Nat.exists_eq_succ_of_ne_zero (Nat.ne_of_gt (Nat.zero_lt_of_lt hn))
      obtain ⟨above, habove, hcomponents⟩ := Path.exists_parent? hstart
      rw [Path.ancestorsUpTo, habove] at hfound
      obtain ⟨⟨there, hthere⟩, hlook⟩ := firstFile_cons hfound
      have hiff := h.isFile_join_iff hstart hcs hname hthere
      rcases hlook with ⟨hfile, rfl⟩ | ⟨hfile, hrest⟩
      · exact ⟨start, cs ++ [c], .last hstart hfile (hiff.mp hfile)⟩
      · have hhere : ¬t.HasFile ((cs ++ [c]).foldl Component.step []) (Text.bytesOf name) := by
          rw [← hiff, hfile]
          exact Bool.false_ne_true
        have hsearch := ih hcomponents (FileTree.traversable_append.mp hcs).1
          (by rw [List.length_append, List.length_singleton] at hn; omega) hrest
        cases found with
        | none =>
            intro visited hvisited
            rcases List.prefix_concat_iff.mp hvisited with rfl | hvisited
            · exact hhere
            · exact hsearch visited hvisited
        | some file =>
            obtain ⟨dir, visited, hfound⟩ := hsearch
            exact ⟨dir, visited, hfound.concat hhere⟩

/-! ## What is found -/

/-- What is found in a directory by a search from another. -/
structure FoundFrom (t : FileTree) (name : String) (start dir : Path) : Prop where
  isFile : t.isFile (dir.join (.ofString name)) = true
  hasFile : t.HasFile (dir.destination []) (Text.bytesOf name)
  /-- No directory with such a file that is where the path leads or above is nearer. -/
  nearest : ∀ l, l <+: start.destination [] → t.HasFile l (Text.bytesOf name) →
    l <+: dir.destination []
  /-- The directory is where the path leads or above, unless the path comes back to the directory
  and leaves it upwards. -/
  above_or_left : ∃ behind, start.components = dir.components ++ behind ∧
    (dir.destination [] <+: start.destination [] ∨
      LeavesUpwards (dir.destination []) (dir.destination []) behind)

/-- A path without `..` leaves no directory upwards. -/
theorem FoundFrom.above {start dir : Path} (h : FoundFrom t name start dir)
    (hup : .up ∉ start.components) : dir.destination [] <+: start.destination [] := by
  obtain ⟨behind, hbehind, habove | ⟨stay, after, rfl, -, -⟩⟩ := h.above_or_left
  · exact habove
  · exact absurd (by simp [hbehind]) hup

/-- Where a path from the root leads. -/
theorem destination_of_components {p : Path} {cs : List Component}
    (h : p.components = .root :: cs) (base : Location) :
    p.destination base = cs.foldl Component.step [] := by
  rw [Path.destination, h]
  rfl

theorem FoundAlong.foundFrom {start dir file : Path} {cs visited : List Component}
    (hstart : start.components = .root :: cs) (hcs : .root ∉ cs)
    (h : FoundAlong t name cs file dir visited) : FoundFrom t name start dir := by
  obtain ⟨behind, hbehind⟩ := h.on_way
  have hwhere := destination_of_components hstart []
  have hdir := destination_of_components h.spelled []
  have hgo : start.destination [] = behind.foldl Component.step (dir.destination []) := by
    rw [hwhere, hdir, ← hbehind, List.foldl_append]
  refine ⟨h.candidate ▸ h.isFile, hdir ▸ h.hasFile, fun l hl hfile => ?_, behind, ?_, ?_⟩
  · -- a nearer directory would have been visited later on the way
    by_contra hdown
    obtain ⟨later, hlater, hne, hfold⟩ := exists_visit (hgo ▸ hl) hdown
    refine h.longest (visited ++ later) ?_ ?_ ?_
    · rw [← hbehind]
      exact (List.prefix_append_right_inj visited).mpr hlater
    · rw [List.length_append]
      have := List.length_pos_iff.mpr hne
      omega
    · rwa [List.foldl_append, ← hdir, hfold]
  · rw [hstart, h.spelled, ← hbehind]
    rfl
  · rw [hgo]
    exact prefix_or_leaves (fun hmem => hcs (hbehind ▸ List.mem_append_right visited hmem))
      List.prefix_rfl

/-- **The search finds the nearest configuration, or one in a directory that the path leaves.** In a
tree without links, what is found from where an existing file is linted is a regular file; no
directory above the file that has one is nearer; and it stands above the file itself, unless the path
comes back to its directory and leaves it upwards. If nothing is found, no directory above the file
has one. -/
theorem findUp_nearest (h : t.LinkFree) {p : Path} (habsolute : p.isAbsolute = true)
    (hp : t.exists? p = .ok true) (hparent : p.parent?.isSome = true)
    (hname : (Component.name (Text.bytesOf name)).IsSegment) {found : Option Path}
    (hfound : findUp t name (workingDirFor p) = .ok found) :
    match found with
    | some file => ∃ dir, file = dir.join (.ofString name) ∧
        FoundFrom t name (workingDirFor p) dir
    | none => ∀ l, l <+: (workingDirFor p).destination [] → ¬t.HasFile l (Text.bytesOf name) := by
  obtain ⟨segments, hsegments, hplain⟩ := Path.components_of_isAbsolute habsolute
  rcases List.eq_nil_or_concat' segments with rfl | ⟨cs, c, rfl⟩
  · rw [Path.parent?_of_root hsegments] at hparent
    cases hparent
  · have hdir := components_workingDirFor hsegments
    have hcs : .root ∉ cs := fun hmem => (hplain _ (List.mem_append_left _ hmem)).ne_root rfl
    have hsearch := firstFile_ancestors h hname hdir (h.traversable hsegments hp)
      (by rw [hdir, List.length_cons]; omega) hfound
    cases found with
    | some file =>
        obtain ⟨dir, visited, halong⟩ := hsearch
        exact ⟨dir, halong.candidate, halong.foundFrom hdir hcs⟩
    | none =>
        -- every directory above is visited on the way; the root is where the way starts
        intro l hl
        rw [destination_of_components hdir] at hl
        by_cases hroot : l <+: []
        · exact List.prefix_nil.mp hroot ▸ hsearch [] List.nil_prefix
        · obtain ⟨visited, hvisited, -, rfl⟩ := exists_visit hl hroot
          exact hsearch visited hvisited

/-- Files of which one is beside a configuration and one above it. -/
def configBelow : FileTree where
  node? := fun l =>
    if l ∈ [["a"], ["a", "b"]].map (·.map Text.bytesOf) then some .directory
    else if l ∈ [["a", "x.js"], ["a", "b", "x.js"], ["a", "b", "tslint.json"]].map
        (·.map Text.bytesOf) then some (.file [] false)
    else none
  places := [["a"], ["a", "b"], ["a", "x.js"], ["a", "b", "x.js"], ["a", "b", "tslint.json"]].map
    (·.map Text.bytesOf)
  base := []

theorem linkFree_configBelow : configBelow.LinkFree := by
  refine .of_node? fun l target => ?_
  unfold configBelow
  dsimp only
  split
  · simp
  · split <;> simp

/-- A path that comes back to the directory of its file finds the configuration there. -/
theorem findUp_nearest_return :
    findUp configBelow "tslint.json" (workingDirFor (.ofString "/a/b/../b/x.js")) =
      .ok (some (.ofString "/a/b/../b/tslint.json")) ∧
    ∃ dir, .ofString "/a/b/../b/tslint.json" = dir.join (.ofString "tslint.json") ∧
      FoundFrom configBelow "tslint.json" (workingDirFor (.ofString "/a/b/../b/x.js")) dir := by
  have hfound : findUp configBelow "tslint.json" (workingDirFor (.ofString "/a/b/../b/x.js")) =
      .ok (some (.ofString "/a/b/../b/tslint.json")) := by rfl
  exact ⟨hfound, findUp_nearest linkFree_configBelow (by decide) (by rfl) (by decide)
    ⟨by decide, by decide⟩ hfound⟩

/-- A path that leaves the directory of the configuration finds it nevertheless, although it does
not stand above the file. -/
theorem findUp_left_directory :
    configBelow.isFile (.ofString "/a/b/../x.js") = true ∧
    findUp configBelow "tslint.json" (workingDirFor (.ofString "/a/b/../x.js")) =
      .ok (some (.ofString "/a/b/tslint.json")) ∧
    (workingDirFor (.ofString "/a/b/../x.js")).destination [] = [Text.bytesOf "a"] ∧
    (Path.ofString "/a/b").destination [] = [Text.bytesOf "a", Text.bytesOf "b"] ∧
    ¬[Text.bytesOf "a", Text.bytesOf "b"] <+: [Text.bytesOf "a"] :=
  ⟨by rfl, by rfl, by decide, by decide, by decide⟩

end LintRelay
