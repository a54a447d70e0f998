import LintRelay.Discovery
import LintRelay.Proofs.Path.Normal
import Mathlib.Data.List.Induction
import Mathlib.Data.List.TakeWhile

/-!
# Absolute paths

A path is absolute exactly if the root is its first component (`components_of_isAbsolute`,
`isAbsolute_of_components`). What is seen from an absolute path is absolute (`isAbsolute_join`), and
an absolute path has a parent exactly if it is more than the root: the path without its last
component (`exists_parent?`, `parent?_of_root`). So a file with an absolute path is linted in an
absolute directory (`components_workingDirFor`).
-/

namespace LintRelay

/-! ## Segments -/

/-- A slash divides the segments in front of it from those behind it. -/
theorem splitSlash_append (bs cs : Bytes) :
    splitSlash (bs ++ slash :: cs) = splitSlash bs ++ splitSlash cs := by
  induction bs with
  | nil => exact splitSlash_cons_slash cs
  | cons b bs ih =>
      rw [List.cons_append, splitSlash, splitSlash, ih]
      split
      · rfl
      · cases hsplit : splitSlash bs with
        | nil => exact absurd hsplit (splitSlash_ne_nil bs)
        | cons s ss => rfl

namespace Component

theorem ofSegment?_of_trivial {s : Bytes} (h : isTrivial s = true) : ofSegment? s = none := by
  rw [ofSegment?, if_pos h]

theorem exists_ofSegment? {s : Bytes} (h : isTrivial s = false) : ∃ c, ofSegment? s = some c := by
  unfold ofSegment?
  rw [h, if_neg Bool.false_ne_true]
  split <;> exact ⟨_, rfl⟩

/-- A segment that stands for a name is not trivial and not `..`. -/
theorem ofSegment?_eq_name {n : Bytes} (h : ofSegment? n = some (.name n)) :
    isTrivial n = false ∧ (n == [dot, dot]) = false := by
  unfold ofSegment? at h
  split at h
  · simp at h
  · split at h
    · simp at h
    · rename_i htrivial hup
      exact ⟨Bool.eq_false_iff.mpr htrivial, Bool.eq_false_iff.mpr hup⟩

/-- A segment stands for `..` or for a name. -/
theorem ofSegment?_eq_some {s : Bytes} {c : Component} (h : ofSegment? s = some c) :
    (c = .up ∧ s = [dot, dot]) ∨ c = .name s := by
  unfold ofSegment? at h
  split at h
  · simp at h
  · split at h
    · rename_i hup
      exact .inl ⟨(Option.some.inj h).symm, eq_of_beq hup⟩
    · exact .inr (Option.some.inj h).symm

end Component

namespace Path

open Component (ofSegment?)

/-- Trivial segments at the end stand for nothing. -/
theorem filterMap_dropTrivialEnd (ss : List Bytes) :
    (dropTrivialEnd ss).filterMap ofSegment? = ss.filterMap ofSegment? := by
  induction ss using List.reverseRecOn with
  | nil => rfl
  | append_singleton ss s ih =>
      cases hs : isTrivial s with
      | true =>
          have hdrop : dropTrivialEnd (ss ++ [s]) = dropTrivialEnd ss := by
            simp [dropTrivialEnd, hs]
          rw [hdrop, ih, List.filterMap_append,
            List.filterMap_cons_none (Component.ofSegment?_of_trivial hs), List.filterMap_nil,
            List.append_nil]
      | false =>
          have hkeep : dropTrivialEnd (ss ++ [s]) = ss ++ [s] := by
            simp [dropTrivialEnd, hs]
          rw [hkeep]

theorem mem_of_mem_dropTrivialEnd {ss : List Bytes} {s : Bytes} (h : s ∈ dropTrivialEnd ss) :
    s ∈ ss := by
  have hmem := List.mem_reverse.mp h
  exact List.mem_reverse.mp ((List.dropWhile_suffix isTrivial).subset hmem)

/-- The last segment that is not trivial stands for the last component. -/
theorem exists_dropWhile_trivial {ss : List Bytes} {cs : List Component} {c : Component}
    (h : ss.filterMap ofSegment? = cs ++ [c]) :
    ∃ s before, ss.reverse.dropWhile isTrivial = s :: before ∧
      before.reverse.filterMap ofSegment? = cs := by
  induction ss using List.reverseRecOn with
  | nil => exact absurd h.symm (by simp)
  | append_singleton ss s ih =>
      rw [List.filterMap_append] at h
      cases hs : isTrivial s with
      | true =>
          rw [List.filterMap_cons_none (Component.ofSegment?_of_trivial hs), List.filterMap_nil,
            List.append_nil] at h
          obtain ⟨t, before, hdrop, hbefore⟩ := ih h
          refine ⟨t, before, ?_, hbefore⟩
          rw [List.reverse_append, List.reverse_singleton, List.singleton_append,
            List.dropWhile_cons_of_pos hs, hdrop]
      | false =>
          obtain ⟨d, hd⟩ := Component.exists_ofSegment? hs
          rw [List.filterMap_cons_some hd, List.filterMap_nil] at h
          refine ⟨s, ss.reverse, ?_, ?_⟩
          · rw [List.reverse_append, List.reverse_singleton, List.singleton_append,
              List.dropWhile_cons_of_neg (by simp [hs])]
          · rw [List.reverse_reverse]
            exact (List.append_inj' h rfl).1

/-! ## The root -/

/-- Only an absolute path has the root among its components. -/
theorem root_not_mem_components {p : Path} (h : p.isAbsolute = false) :
    .root ∉ p.components := by
  have hanchor : p.parts.1 ≠ .root := by
    unfold parts
    rw [h]
    cases splitSlash p.bytes with
    | nil => simp
    | cons t ts =>
        by_cases ht : (t == [dot]) = true <;> simp [ht]
  intro hmem
  rcases List.mem_append.mp hmem with hbegin | hsegment
  · cases hparts : p.parts.1 <;> simp_all [Anchor.components]
  · obtain ⟨s, -, hs⟩ := List.mem_filterMap.mp hsegment
    unfold Component.ofSegment? at hs
    split at hs
    · simp at hs
    · split at hs <;> simp at hs

theorem exists_bytes_of_isAbsolute {p : Path} (h : p.isAbsolute = true) :
    ∃ bs, p.bytes = slash :: bs :=
  List.head?_eq_some_iff.mp (eq_of_beq h)

/-- An absolute path is the root and segments. -/
theorem components_of_isAbsolute {p : Path} (h : p.isAbsolute = true) :
    ∃ segments : List Component, p.components = .root :: segments ∧
      ∀ c ∈ segments, c.IsSegment := by
  obtain ⟨bytes⟩ := p
  obtain ⟨bs, rfl⟩ := exists_bytes_of_isAbsolute h
  refine ⟨_, components_of_slash bs, fun c hc => ?_⟩
  obtain ⟨s, hs, hsome⟩ := List.mem_filterMap.mp hc
  exact Component.isSegment_of_ofSegment? (not_mem_of_mem_splitSlash hs) hsome

/-- No other path begins with the root. -/
theorem isAbsolute_of_components {p : Path} {cs : List Component}
    (h : p.components = .root :: cs) : p.isAbsolute = true := by
  cases hp : p.isAbsolute with
  | true => rfl
  | false => exact absurd (h ▸ List.mem_cons_self ..) (root_not_mem_components hp)

theorem isAbsolute_ofComponents (cs : List Component) :
    (ofComponents (.root :: cs)).isAbsolute = true := by
  simp [ofComponents, isAbsolute]

theorem isAbsolute_of_no_slash {p : Path} (h : slash ∉ p.bytes) : p.isAbsolute = false := by
  refine Bool.eq_false_iff.mpr fun habsolute => ?_
  obtain ⟨bs, hbs⟩ := exists_bytes_of_isAbsolute habsolute
  exact h (hbs ▸ List.mem_cons_self ..)

/-- The components behind the root are what the segments stand for. -/
theorem filterMap_splitSlash {p : Path} {cs : List Component} (h : p.components = .root :: cs) :
    (splitSlash p.bytes).filterMap ofSegment? = cs := by
  have habsolute := isAbsolute_of_components h
  obtain ⟨bytes⟩ := p
  obtain ⟨bs, rfl⟩ := exists_bytes_of_isAbsolute habsolute
  rw [components_of_slash, List.cons.injEq] at h
  rw [splitSlash_cons_slash, List.filterMap_cons_none (Component.ofSegment?_of_trivial rfl), h.2]

/-- Whatever is seen from an absolute path is absolute. -/
theorem isAbsolute_join {p : Path} (h : p.isAbsolute = true) (q : Path) :
    (p.join q).isAbsolute = true := by
  obtain ⟨bs, hbs⟩ := exists_bytes_of_isAbsolute h
  unfold join
  split
  · assumption
  · split <;> simp [isAbsolute, hbs]

/-! ## Parents -/

theorem components_ofParts_root {ss : List Bytes} (h : ∀ s ∈ ss, slash ∉ s) :
    (ofParts .root ss).components = .root :: ss.filterMap ofSegment? := by
  show components ⟨slash :: joinSlash ss⟩ = _
  rw [components_of_slash]
  cases ss with
  | nil => rfl
  | cons s ss => rw [splitSlash_joinSlash (by simp) h]

theorem parts_of_slash (bs : Bytes) : parts ⟨slash :: bs⟩ = (.root, splitSlash bs) := by
  have habs : isAbsolute ⟨slash :: bs⟩ = true := by simp [isAbsolute]
  simp only [parts, splitSlash_cons_slash, habs, if_true]

/-- The parent of an absolute path is the path without its last component. -/
theorem exists_parent? {p : Path} {cs : List Component} {c : Component}
    (h : p.components = .root :: (cs ++ [c])) :
    ∃ q, p.parent? = some q ∧ q.components = .root :: cs := by
  have habsolute := isAbsolute_of_components h
  obtain ⟨bytes⟩ := p
  obtain ⟨bs, rfl⟩ := exists_bytes_of_isAbsolute habsolute
  rw [components_of_slash, List.cons.injEq] at h
  obtain ⟨s, before, hdrop, hbefore⟩ := exists_dropWhile_trivial h.2
  refine ⟨ofParts .root (dropTrivialEnd before.reverse), ?_, ?_⟩
  · simp only [parent?, parts_of_slash, hdrop]
  · rw [components_ofParts_root, filterMap_dropTrivialEnd, hbefore]
    intro t ht
    have hmem : t ∈ (splitSlash bs).reverse :=
      (List.dropWhile_suffix isTrivial).subset
        (hdrop ▸ List.mem_cons_of_mem _ (List.mem_reverse.mp (mem_of_mem_dropTrivialEnd ht)))
    exact not_mem_of_mem_splitSlash (List.mem_reverse.mp hmem)

/-- The root has no parent. -/
theorem parent?_of_root {p : Path} (h : p.components = [.root]) : p.parent? = none := by
  have habsolute := isAbsolute_of_components h
  obtain ⟨bytes⟩ := p
  obtain ⟨bs, rfl⟩ := exists_bytes_of_isAbsolute habsolute
  rw [components_of_slash, List.cons.injEq, List.filterMap_eq_nil_iff] at h
  have hdrop : (splitSlash bs).reverse.dropWhile isTrivial = [] := by
    rw [List.dropWhile_eq_nil_iff]
    intro s hs
    by_contra hs'
    obtain ⟨c, hc⟩ := Component.exists_ofSegment? (Bool.eq_false_iff.mpr hs')
    rw [h.2 s (List.mem_reverse.mp hs)] at hc
    cases hc
  simp only [parent?, parts_of_slash, hdrop]
  rfl

/-- A file with a name is not the root. -/
theorem components_of_fileName? {p : Path} {name : Bytes} (h : p.isAbsolute = true)
    (hname : p.fileName? = some name) : ∃ cs, p.components = .root :: (cs ++ [.name name]) := by
  obtain ⟨segments, hsegments, -⟩ := components_of_isAbsolute h
  unfold fileName? at hname
  rw [hsegments] at hname
  rcases List.eq_nil_or_concat' segments with rfl | ⟨cs, c, rfl⟩
  · exact absurd hname (by simp)
  · rw [← List.cons_append, List.getLast?_concat] at hname
    refine ⟨cs, hsegments.trans ?_⟩
    split at hname
    · rename_i bs hbs
      rw [Option.some.inj hbs, Option.some.inj hname]
    · exact absurd hname (by simp)

end Path

/-- A file is linted in its parent if that has a spelling. -/
theorem workingDirFor_eq {file dir : Path} (h : file.parent? = some dir)
    (habsolute : dir.isAbsolute = true) : workingDirFor file = dir := by
  obtain ⟨bs, hbs⟩ := Path.exists_bytes_of_isAbsolute habsolute
  simp [workingDirFor, h, hbs]

/-- An absolute path of more than the root is linted in the directory without its last component. -/
theorem components_workingDirFor {file : Path} {cs : List Component} {c : Component}
    (h : file.components = .root :: (cs ++ [c])) :
    (workingDirFor file).components = .root :: cs := by
  obtain ⟨dir, hdir, hcomponents⟩ := Path.exists_parent? h
  rw [workingDirFor_eq hdir (Path.isAbsolute_of_components hcomponents), hcomponents]

end LintRelay
