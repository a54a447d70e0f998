import LintRelay.Path.Absolute
import LintRelay.Proofs.Path.Absolute

/-!
# Joining

The steps of a path are its components without `.`. Going on from a path by a relative one puts the
steps of the two behind each other, whatever both are spelled like (`steps_join`). What is folded
over components, and does nothing at `.`, is folded over steps (`foldl_steps`); so a path may be
normalized before another one goes on from it (`normalize_join`).
-/

namespace LintRelay.Path

open Component (ofSegment?)

/-! ## Steps -/

theorem ofSegment?_ne_current {s : Bytes} {c : Component} (h : ofSegment? s = some c) :
    c ≠ .current := by
  rcases Component.ofSegment?_eq_some h with ⟨rfl, -⟩ | rfl <;> simp

/-- The steps of a path are the root, if it is absolute, and what its segments stand for. -/
theorem steps_eq (p : Path) :
    p.steps = (if p.isAbsolute = true then [.root] else []) ++
      (splitSlash p.bytes).filterMap ofSegment? := by
  have keep : ∀ ss : List Bytes,
      (ss.filterMap ofSegment?).filter (· != .current) = ss.filterMap ofSegment? := by
    intro ss
    refine List.filter_eq_self.mpr fun c hc => ?_
    obtain ⟨s, -, hs⟩ := List.mem_filterMap.mp hc
    exact bne_iff_ne.mpr (ofSegment?_ne_current hs)
  obtain ⟨bytes⟩ := p
  cases h : isAbsolute ⟨bytes⟩ with
  | true =>
      obtain ⟨bs, rfl⟩ := exists_bytes_of_isAbsolute h
      rw [steps, components_of_slash, splitSlash_cons_slash,
        List.filterMap_cons_none (Component.ofSegment?_of_trivial rfl),
        List.filter_cons_of_pos (by decide), keep]
      rfl
  | false =>
      unfold steps components parts
      rw [h]
      cases splitSlash bytes with
      | nil => rfl
      | cons s ss =>
          -- a first `.` is a component, but no step
          by_cases hs : (s == [dot]) = true
          · have htrivial : isTrivial s = true := by simp [isTrivial, eq_of_beq hs]
            simp only [hs, if_true, if_false, Bool.false_eq_true, Anchor.components,
              List.filterMap_cons_none (Component.ofSegment?_of_trivial htrivial),
              List.singleton_append, List.nil_append]
            rw [List.filter_cons_of_neg (by decide), keep]
          · simp only [hs, if_false, Bool.false_eq_true, Anchor.components, List.nil_append, keep]

/-- What does nothing at `.` comes to the same over components and over steps. -/
theorem foldl_steps {β : Type} {f : β → Component → β} (h : ∀ b, f b .current = b) (p : Path)
    (b : β) : p.steps.foldl f b = p.components.foldl f b := by
  rw [steps, List.foldl_filter]
  congr 1
  funext b c
  by_cases hc : c = .current
  · rw [hc, h, ite_self]
  · rw [if_pos (bne_iff_ne.mpr hc)]

/-! ## Going on from a path -/

/-- A relative path goes on behind the segments of the other path. -/
theorem exists_splitSlash_join (p : Path) {q : Path} (hq : q.isAbsolute = false) :
    ∃ ss, splitSlash (p.join q).bytes = ss ++ splitSlash q.bytes ∧
      ss.filterMap ofSegment? = (splitSlash p.bytes).filterMap ofSegment? := by
  unfold join
  rw [hq, if_neg Bool.false_ne_true]
  rcases List.eq_nil_or_concat' p.bytes with hnil | ⟨front, b, hfront⟩
  · -- nothing goes in front, and the empty path has one trivial segment
    exact ⟨[], by rw [hnil]; rfl, by rw [hnil]; rfl⟩
  · have hlast : p.bytes.getLast? = some b := by rw [hfront, List.getLast?_concat]
    rw [hlast, Option.all_some]
    by_cases hslash : b = slash
    · -- the slash at the end is there already, with an empty segment behind it
      refine ⟨splitSlash front, ?_, ?_⟩
      · rw [hslash, beq_self_eq_true, if_pos rfl, hfront, hslash, List.append_assoc]
        exact splitSlash_append front q.bytes
      · have hsplit : splitSlash p.bytes = splitSlash front ++ [[]] := by
          rw [hfront, hslash]
          exact splitSlash_append front []
        rw [hsplit, List.filterMap_append,
          List.filterMap_cons_none (Component.ofSegment?_of_trivial rfl), List.filterMap_nil,
          List.append_nil]
    · refine ⟨splitSlash p.bytes, ?_, rfl⟩
      rw [if_neg (by simpa using hslash)]
      exact splitSlash_append p.bytes q.bytes

/-- A path that a relative one goes on from stays absolute or relative. -/
theorem isAbsolute_join_relative (p : Path) {q : Path} (hq : q.isAbsolute = false) :
    (p.join q).isAbsolute = p.isAbsolute := by
  obtain ⟨bytes⟩ := p
  cases bytes with
  | nil =>
      rw [join, hq]
      exact hq
  | cons b bs =>
      rw [join, hq, if_neg Bool.false_ne_true]
      split <;> rfl

/-- A relative path goes on behind the steps of the other path. -/
theorem steps_join (p : Path) {q : Path} (hq : q.isAbsolute = false) :
    (p.join q).steps = p.steps ++ q.steps := by
  obtain ⟨ss, hsplit, hss⟩ := p.exists_splitSlash_join hq
  rw [steps_eq, steps_eq p, steps_eq q, p.isAbsolute_join_relative hq, hsplit,
    List.filterMap_append, hss, hq, List.append_assoc]
  rfl

/-! ## Normal forms -/

theorem normalComponents_eq_foldl (p : Path) :
    p.normalComponents = (p.steps.foldl Component.fold []).reverse := by
  rw [foldl_steps fun _ => rfl, normalComponents]

/-- Folding the steps of a normal form comes to the same as folding those of the path. -/
theorem foldl_steps_normalize (p : Path) :
    p.normalize.steps.foldl Component.fold [] = p.steps.foldl Component.fold [] := by
  rw [foldl_steps fun _ => rfl, foldl_steps fun _ => rfl, components_normalize, normalComponents]
  exact (Component.Folded.nil.foldl p.components).foldl_eq

/-- What goes on from a path has the same normal form if it goes on from its normal form. -/
theorem normalize_join (p q : Path) : (p.normalize.join q).normalize = (p.join q).normalize := by
  cases hq : q.isAbsolute with
  | true => rw [join, join, if_pos hq, if_pos hq]
  | false =>
      have hfold : ∀ p : Path, (p.join q).normalize = ofComponents
          (q.steps.foldl Component.fold (p.steps.foldl Component.fold [])).reverse := by
        intro p
        rw [normalize, normalComponents_eq_foldl, p.steps_join hq, List.foldl_append]
      rw [hfold, hfold, foldl_steps_normalize]

end LintRelay.Path
