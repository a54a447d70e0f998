import LintRelay.Proofs.Path.Destination

/-!
# Walking along a path

Where nothing is a link, a walk goes where the components of the path lead, as long as it passes
through directories (`walk_append`). A walk that arrives has passed through directories up to its
last component (`traversable_of_walk`), and from there a name is looked for where it would stand
(`isFile_join_iff`).
-/

namespace LintRelay

open Component (ofSegment?)

namespace FileTree

variable {t : FileTree}

/-- Nothing in the tree is a link. -/
def LinkFree (t : FileTree) : Prop := ∀ l target, t.at? l ≠ some (.link target)

/-- The root is no link, so what stands below it decides. -/
theorem LinkFree.of_node? (h : ∀ l target, t.node? l ≠ some (.link target)) : t.LinkFree := by
  intro l target
  unfold at?
  split
  · simp
  · exact h l target

/-- Whether components lead from a location through directories only. -/
def Traversable (t : FileTree) : Location → List Component → Prop
  | _, [] => True
  | l, c :: cs =>
    (∀ n, c = .name n → n.length ≤ greatestName ∧ t.at? (l ++ [n]) = some .directory) ∧
      Traversable t (c.step l) cs

/-- Whether a regular file of the name stands in the directory at a location. -/
def HasFile (t : FileTree) (l : Location) (name : Bytes) : Prop :=
  ∃ content executable, t.at? (l ++ [name]) = some (.file content executable)

theorem traversable_append {l : Location} {cs ds : List Component} :
    t.Traversable l (cs ++ ds) ↔
      t.Traversable l cs ∧ t.Traversable (cs.foldl Component.step l) ds := by
  induction cs generalizing l with
  | nil => simp [Traversable]
  | cons c cs ih => rw [List.cons_append, Traversable, ih, Traversable, and_assoc]; rfl

/-! ## One segment -/

theorem walk_trivial {s : Bytes} (h : ofSegment? s = none) (l : Location) (rest : List Bytes) :
    t.walk l (s :: rest) = t.walk l rest := by
  cases hs : isTrivial s with
  | true => rw [walk, if_pos hs]
  | false =>
      obtain ⟨c, hc⟩ := Component.exists_ofSegment? hs
      cases hc.symm.trans h

theorem walk_up (l : Location) (rest : List Bytes) :
    t.walk l ([dot, dot] :: rest) = t.walk l.dropLast rest := rfl

theorem walk_directory {n : Bytes} (h : ofSegment? n = some (.name n)) {l : Location}
    (hlength : n.length ≤ greatestName) (hdirectory : t.at? (l ++ [n]) = some .directory)
    (rest : List Bytes) : t.walk l (n :: rest) = t.walk (l ++ [n]) rest := by
  obtain ⟨htrivial, hup⟩ := Component.ofSegment?_eq_name h
  rw [walk, htrivial, hup, if_neg Bool.false_ne_true, if_neg Bool.false_ne_true,
    if_neg (by omega), hdirectory]

/-- What a further segment follows has to be a directory. -/
theorem directory_of_walk {n : Bytes} (h : ofSegment? n = some (.name n)) {l m : Location}
    {node : FileNode} {rest : List Bytes} (hrest : rest.isEmpty = false)
    (hwalk : t.walk l (n :: rest) = .ok (.arrived m node)) :
    n.length ≤ greatestName ∧ t.at? (l ++ [n]) = some .directory := by
  obtain ⟨htrivial, hup⟩ := Component.ofSegment?_eq_name h
  rw [walk, htrivial, hup, hrest, if_neg Bool.false_ne_true, if_neg Bool.false_ne_true] at hwalk
  split at hwalk
  · cases hwalk
  · refine ⟨by omega, ?_⟩
    split at hwalk <;> simp_all

/-- At the last segment, anything may stand. -/
theorem walk_last {n : Bytes} (h : ofSegment? n = some (.name n)) (l : Location) :
    t.walk l [n] =
      if n.length > greatestName then .error .nameTooLong
      else
        match t.at? (l ++ [n]) with
        | none => .error .notFound
        | some (.link target) => .ok (.link l target [])
        | some node => .ok (.arrived (l ++ [n]) node) := by
  obtain ⟨htrivial, hup⟩ := Component.ofSegment?_eq_name h
  rw [walk, htrivial, hup, if_neg Bool.false_ne_true, if_neg Bool.false_ne_true]
  congr 1
  split <;> simp_all [walk]

/-! ## Whole walks -/

/-- A walk through directories goes on where the components lead. -/
theorem walk_append {l : Location} {ss : List Bytes}
    (h : t.Traversable l (ss.filterMap ofSegment?)) (rest : List Bytes) :
    t.walk l (ss ++ rest) =
      t.walk ((ss.filterMap ofSegment?).foldl Component.step l) rest := by
  induction ss generalizing l with
  | nil => rfl
  | cons s ss ih =>
      rw [List.cons_append]
      cases hs : ofSegment? s with
      | none =>
          rw [List.filterMap_cons_none hs] at h ⊢
          rw [walk_trivial hs, ih h]
      | some c =>
          rw [List.filterMap_cons_some hs] at h ⊢
          rw [List.foldl_cons, ← ih h.2]
          rcases Component.ofSegment?_eq_some hs with ⟨rfl, rfl⟩ | rfl
          · exact walk_up l _
          · obtain ⟨hlength, hdirectory⟩ := h.1 s rfl
            exact walk_directory hs hlength hdirectory _

/-- Only the last component of a walk that arrives may lead to anything but a directory. -/
theorem traversable_of_walk {l m : Location} {node : FileNode} {ss : List Bytes}
    {cs : List Component} {c : Component} (h : t.walk l ss = .ok (.arrived m node))
    (hcs : ss.filterMap ofSegment? = cs ++ [c]) : t.Traversable l cs := by
  induction ss generalizing l cs with
  | nil => exact absurd hcs.symm (by simp)
  | cons s ss ih =>
      cases hs : ofSegment? s with
      | none =>
          rw [walk_trivial hs] at h
          rw [List.filterMap_cons_none hs] at hcs
          exact ih h hcs
      | some d =>
          rw [List.filterMap_cons_some hs] at hcs
          cases cs with
          | nil => trivial
          | cons e cs =>
              rw [List.cons_append, List.cons.injEq] at hcs
              obtain ⟨rfl, hcs⟩ := hcs
              -- the last component is still to come, so the walk does not end here
              have hss : ss.isEmpty = false := by
                cases ss with
                | nil => exact absurd hcs.symm (by simp)
                | cons s ss => rfl
              rcases Component.ofSegment?_eq_some hs with ⟨rfl, rfl⟩ | rfl
              · exact ⟨fun n hn => (nomatch hn), ih h hcs⟩
              · obtain ⟨hlength, hdirectory⟩ := directory_of_walk hs hss h
                rw [walk_directory hs hlength hdirectory] at h
                exact ⟨fun n hn => by cases hn; exact ⟨hlength, hdirectory⟩, ih h hcs⟩

/-! ## Where a path leads -/

/-- Where there is no link, a walk meets none. -/
theorem LinkFree.walk_ne_link (h : t.LinkFree) (l : Location) (ss : List Bytes) {dir : Location}
    {target : Bytes} {behind : List Bytes} : t.walk l ss ≠ .ok (.link dir target behind) := by
  fun_induction walk t l ss with
  | case7 => rename_i hlink; exact absurd hlink (h _ _)
  | _ => simp_all

/-- Where there is no link, a path leads where the walk along it arrives. -/
theorem LinkFree.walk_of_follow (h : t.LinkFree) {budget : Nat} {l : Location} {ss : List Bytes}
    {r : Reached} (hfollow : t.follow budget l ss = .ok r) :
    t.walk l ss = .ok (.arrived r.location r.node) := by
  unfold follow at hfollow
  cases hwalk : t.walk l ss with
  | error e => simp [hwalk] at hfollow
  | ok stop =>
      cases stop with
      | arrived m node =>
          rw [hwalk] at hfollow
          cases hfollow
          rfl
      | link dir target behind => exact absurd hwalk (h.walk_ne_link l ss)

/-- An absolute path of which it is known whether it leads anywhere is followed from the root. -/
theorem reach_eq_follow {p : Path} (hp : p.isAbsolute = true) {found : Bool}
    (h : t.exists? p = .ok found) :
    t.reach p = t.follow linkBudget [] (splitSlash p.bytes) := by
  obtain ⟨bs, hbs⟩ := Path.exists_bytes_of_isAbsolute hp
  have hempty : p.bytes.isEmpty = false := by rw [hbs]; rfl
  by_cases hnul : p.bytes.contains 0 = true
  · have hreach : t.reach p = .error .nulInPath := by rw [reach, if_pos hnul]
    simp [exists?, hreach] at h
  · by_cases hlength : p.bytes.length > greatestPath
    · have hreach : t.reach p = .error .nameTooLong := by
        rw [reach, if_neg hnul, hempty, if_neg Bool.false_ne_true, if_pos hlength]
      simp [exists?, hreach] at h
    · rw [reach, if_neg hnul, hempty, if_neg Bool.false_ne_true, if_neg hlength, hp, if_pos rfl]

/-- The directories above a place that a path leads to are traversed on the way. -/
theorem LinkFree.traversable (h : t.LinkFree) {p : Path} {cs : List Component} {c : Component}
    (hp : p.components = .root :: (cs ++ [c])) (hfound : t.exists? p = .ok true) :
    t.Traversable [] cs := by
  have hreach := reach_eq_follow (Path.isAbsolute_of_components hp) hfound
  cases hr : t.reach p with
  | error e => cases e <;> simp [exists?, hr] at hfound
  | ok r =>
      exact traversable_of_walk (h.walk_of_follow (hreach.symm.trans hr))
        (Path.filterMap_splitSlash hp)

/-- In a directory that a path traverses, a name leads to a regular file exactly if one stands
there under the name. -/
theorem LinkFree.isFile_join_iff (h : t.LinkFree) {dir : Path} {cs : List Component}
    (hdir : dir.components = .root :: cs) (hcs : t.Traversable [] cs) {name : String}
    (hname : (Component.name (Text.bytesOf name)).IsSegment) {found : Bool}
    (hfound : t.exists? (dir.join (.ofString name)) = .ok found) :
    t.isFile (dir.join (.ofString name)) = true ↔
      t.HasFile (cs.foldl Component.step []) (Text.bytesOf name) := by
  have habsolute := Path.isAbsolute_of_components hdir
  have hrelative : (Path.ofString name).isAbsolute = false := Path.isAbsolute_of_no_slash hname.no_slash
  have hreach := reach_eq_follow (Path.isAbsolute_join habsolute (.ofString name)) hfound
  obtain ⟨ss, hsplit, hss⟩ := dir.exists_splitSlash_join hrelative
  rw [Path.filterMap_splitSlash hdir] at hss
  have hlast : splitSlash (Path.ofString name).bytes = [Text.bytesOf name] :=
    splitSlash_of_not_mem hname.no_slash
  have hsegment : ofSegment? (Text.bytesOf name) = some (.name (Text.bytesOf name)) :=
    hname.ofSegment
  have hwalk : t.walk [] (splitSlash (dir.join (.ofString name)).bytes) =
      t.walk (cs.foldl Component.step []) [Text.bytesOf name] := by
    rw [hsplit, hlast, ← hss]
    exact walk_append (hss ▸ hcs) _
  rw [follow, hwalk, walk_last hsegment] at hreach
  by_cases hlength : (Text.bytesOf name).length > greatestName
  · rw [if_pos hlength] at hreach
    simp [exists?, hreach] at hfound
  · rw [if_neg hlength] at hreach
    unfold isFile HasFile
    cases hat : t.at? (cs.foldl Component.step [] ++ [Text.bytesOf name]) with
    | none => simp [hreach, hat]
    | some node =>
        cases node with
        | link target => exact absurd hat (h _ _)
        | _ => simp [hreach, hat]

end FileTree
end LintRelay
