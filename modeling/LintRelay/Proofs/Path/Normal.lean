import LintRelay.Path.Normal
import LintRelay.Proofs.Path.Map

/-!
# Normal forms

The normal form of a path is again in normal form, byte for byte (`normalize_normalize`), and two
normal forms that are the same path are spelled alike (`eq_of_key_eq_of_normal`). Both come from the
shape of what folding leaves: a root or none, then segments (`WellFormed`), which spelling keeps
apart (`components_ofComponents`), and on which folding does nothing more (`Folded`).
-/

namespace LintRelay

/-! ## Segments between slashes -/

theorem splitSlash_ne_nil (bs : Bytes) : splitSlash bs ≠ [] := by
  cases bs with
  | nil => simp [splitSlash]
  | cons b bs =>
      rw [splitSlash]
      split
      · simp
      · split <;> simp

theorem splitSlash_cons_slash (bs : Bytes) : splitSlash (slash :: bs) = [] :: splitSlash bs := by
  rw [splitSlash, if_pos (by simp)]

/-- A segment stands in front of the next slash. -/
theorem splitSlash_append_slash {s : Bytes} (hs : slash ∉ s) (bs : Bytes) :
    splitSlash (s ++ slash :: bs) = s :: splitSlash bs := by
  induction s with
  | nil => exact splitSlash_cons_slash bs
  | cons b s ih =>
      obtain ⟨hb, hs⟩ := not_or.mp (List.mem_cons.not.mp hs)
      rw [List.cons_append, splitSlash, if_neg (by simpa using Ne.symm hb), ih hs]

theorem splitSlash_of_not_mem {s : Bytes} (hs : slash ∉ s) : splitSlash s = [s] := by
  induction s with
  | nil => rfl
  | cons b s ih =>
      obtain ⟨hb, hs⟩ := not_or.mp (List.mem_cons.not.mp hs)
      rw [splitSlash, if_neg (by simpa using Ne.symm hb), ih hs]

/-- Segments that are joined are found again. -/
theorem splitSlash_joinSlash {ss : List Bytes} (hne : ss ≠ []) (hss : ∀ s ∈ ss, slash ∉ s) :
    splitSlash (joinSlash ss) = ss := by
  induction ss with
  | nil => exact absurd rfl hne
  | cons s ss ih =>
      obtain ⟨hs, hss⟩ := List.forall_mem_cons.mp hss
      cases ss with
      | nil => exact splitSlash_of_not_mem hs
      | cons t ts =>
          rw [joinSlash, splitSlash_append_slash hs, ih (by simp) hss]
          simp

/-- No segment has a slash in it. -/
theorem not_mem_of_mem_splitSlash {bs s : Bytes} (h : s ∈ splitSlash bs) : slash ∉ s := by
  induction bs generalizing s with
  | nil =>
      rw [List.mem_singleton.mp h]
      exact List.not_mem_nil
  | cons b bs ih =>
      rw [splitSlash] at h
      split at h
      · rcases List.mem_cons.mp h with rfl | h
        · exact List.not_mem_nil
        · exact ih h
      · rename_i hb
        split at h
        · rename_i hnil
          exact absurd hnil (splitSlash_ne_nil bs)
        · rename_i t ts hsplit
          rw [hsplit] at ih
          rcases List.mem_cons.mp h with rfl | h
          · refine List.mem_cons.not.mpr (not_or.mpr ⟨?_, ih (List.mem_cons_self ..)⟩)
            exact fun heq => hb (by simp [heq])
          · exact ih (List.mem_cons_of_mem _ h)

/-! ## Components -/

namespace Component

/-- Whether a component is what its own bytes stand for as a segment: `..` or a name. -/
structure IsSegment (c : Component) : Prop where
  no_slash : slash ∉ c.bytes
  ofSegment : ofSegment? c.bytes = some c

theorem isSegment_up : IsSegment .up := ⟨by decide, rfl⟩

/-- The component that a segment stands for has the bytes of the segment. -/
theorem bytes_of_ofSegment? {s : Bytes} {c : Component} (h : ofSegment? s = some c) :
    c.bytes = s := by
  unfold ofSegment? at h
  split at h
  · simp at h
  · split at h
    · rename_i hup
      rw [← Option.some.inj h, eq_of_beq hup]
      rfl
    · rw [← Option.some.inj h]
      rfl

theorem isSegment_of_ofSegment? {s : Bytes} {c : Component} (hs : slash ∉ s)
    (h : ofSegment? s = some c) : c.IsSegment := by
  have hbytes := bytes_of_ofSegment? h
  exact ⟨hbytes ▸ hs, hbytes ▸ h⟩

theorem IsSegment.ne_root {c : Component} (h : c.IsSegment) : c ≠ .root := by
  rintro rfl
  exact h.no_slash (List.mem_singleton_self _)

theorem IsSegment.ne_current {c : Component} (h : c.IsSegment) : c ≠ .current := by
  rintro rfl
  exact absurd h.ofSegment (by decide)

theorem IsSegment.bytes_ne_nil {c : Component} (h : c.IsSegment) : c.bytes ≠ [] := by
  intro hnil
  have hsome := h.ofSegment
  rw [hnil] at hsome
  simp [ofSegment?, isTrivial] at hsome

theorem IsSegment.bytes_ne_dot {c : Component} (h : c.IsSegment) : c.bytes ≠ [dot] := by
  intro hdot
  have hsome := h.ofSegment
  rw [hdot] at hsome
  simp [ofSegment?, isTrivial] at hsome

theorem key_injective : Function.Injective key := by
  intro c d h
  cases c <;> cases d <;> simp_all [key]

end Component

namespace Path

/-- Two spellings are the same path exactly when their components agree. -/
theorem key_eq_iff {p q : Path} : p.key = q.key ↔ p.components = q.components :=
  (List.map_injective_iff.mpr Component.key_injective).eq_iff

/-- Whether components are a root or none, and then segments. -/
def WellFormed (cs : List Component) : Prop :=
  ∃ segments : List Component, (cs = segments ∨ cs = .root :: segments) ∧
    ∀ c ∈ segments, c.IsSegment

theorem filterMap_ofSegment? {segments : List Component} (h : ∀ c ∈ segments, c.IsSegment) :
    (segments.map Component.bytes).filterMap Component.ofSegment? = segments := by
  induction segments with
  | nil => rfl
  | cons c cs ih =>
      obtain ⟨hc, hcs⟩ := List.forall_mem_cons.mp h
      rw [List.map_cons, List.filterMap_cons_some hc.ofSegment, ih hcs]

/-- Spelled segments are found again. -/
theorem filterMap_splitSlash_joinSlash {segments : List Component}
    (h : ∀ c ∈ segments, c.IsSegment) :
    (splitSlash (joinSlash (segments.map Component.bytes))).filterMap Component.ofSegment? =
      segments := by
  cases segments with
  | nil => rfl
  | cons c cs =>
      rw [splitSlash_joinSlash (by simp), filterMap_ofSegment? h]
      intro s hs
      obtain ⟨d, hd, rfl⟩ := List.mem_map.mp hs
      exact (h d hd).no_slash

theorem components_of_slash (bs : Bytes) :
    components ⟨slash :: bs⟩ = .root :: (splitSlash bs).filterMap Component.ofSegment? := by
  have habs : isAbsolute ⟨slash :: bs⟩ = true := by simp [isAbsolute]
  simp only [components, parts, splitSlash_cons_slash, habs, if_true]
  rfl

/-- A path of segments alone is relative and does not begin with `.`. -/
theorem components_of_segments {segments : List Component} (h : ∀ c ∈ segments, c.IsSegment) :
    components ⟨joinSlash (segments.map Component.bytes)⟩ = segments := by
  cases segments with
  | nil => rfl
  | cons c cs =>
      have hc := h c (List.mem_cons_self ..)
      have hsplit : splitSlash (joinSlash ((c :: cs).map Component.bytes)) =
          (c :: cs).map Component.bytes := by
        apply splitSlash_joinSlash (by simp)
        intro s hs
        obtain ⟨d, hd, rfl⟩ := List.mem_map.mp hs
        exact (h d hd).no_slash
      have hrel : isAbsolute ⟨joinSlash ((c :: cs).map Component.bytes)⟩ = false := by
        obtain ⟨b, bs, hbytes⟩ := List.exists_cons_of_ne_nil hc.bytes_ne_nil
        have hb : b ≠ slash := fun heq =>
          hc.no_slash (hbytes ▸ heq ▸ List.mem_cons_self ..)
        cases cs <;> simp [isAbsolute, joinSlash, hbytes, hb]
      have hdot : (c.bytes == [dot]) = false := by simpa using hc.bytes_ne_dot
      have hparts : parts ⟨joinSlash ((c :: cs).map Component.bytes)⟩ =
          (.bare, (c :: cs).map Component.bytes) := by
        rw [parts, hsplit, hrel]
        simp [hdot]
      rw [components, hparts]
      exact filterMap_ofSegment? h

/-- The components that are spelled are found again. -/
theorem components_ofComponents {cs : List Component} (h : WellFormed cs) :
    (ofComponents cs).components = cs := by
  obtain ⟨segments, rfl | rfl, hsegments⟩ := h
  · cases cs with
    | nil => rfl
    | cons c cs =>
        have hc := (hsegments c (List.mem_cons_self ..)).ne_root
        have hspelled : ofComponents (c :: cs) =
            ⟨joinSlash ((c :: cs).map Component.bytes)⟩ := by
          cases c <;> first | rfl | exact absurd rfl hc
        rw [hspelled]
        exact components_of_segments hsegments
  · rw [ofComponents, components_of_slash, filterMap_splitSlash_joinSlash hsegments]

/-- The components of any path are a root, a `.` or neither, and then segments. -/
theorem components_cases (p : Path) :
    ∃ segments : List Component, (∀ c ∈ segments, c.IsSegment) ∧
      (p.components = segments ∨ p.components = .root :: segments ∨
        p.components = .current :: segments) := by
  have hparts : ∀ s ∈ p.parts.2, slash ∉ s := by
    have hsplit := @not_mem_of_mem_splitSlash p.bytes
    unfold parts
    cases heq : splitSlash p.bytes with
    | nil => exact fun s hs => absurd hs List.not_mem_nil
    | cons t ts =>
        rw [heq] at hsplit
        dsimp only
        split
        · exact fun s hs => hsplit (List.mem_cons_of_mem _ hs)
        · split
          · exact fun s hs => hsplit (List.mem_cons_of_mem _ hs)
          · exact fun s hs => hsplit hs
  refine ⟨p.parts.2.filterMap Component.ofSegment?, ?_, ?_⟩
  · intro c hc
    obtain ⟨s, hs, hsome⟩ := List.mem_filterMap.mp hc
    exact Component.isSegment_of_ofSegment? (hparts s hs) hsome
  · unfold components
    cases p.parts.1
    · exact .inr (.inl rfl)
    · exact .inr (.inr rfl)
    · exact .inl rfl

end Path

/-! ## Folding -/

namespace Component

/-- Components, last one first, that are segments on a root or on nothing. -/
def Stacked (before : List Component) : Prop :=
  ∃ segments : List Component, (before = segments ∨ before = segments ++ [.root]) ∧
    ∀ c ∈ segments, c.IsSegment

theorem Stacked.wellFormed {before : List Component} (h : Stacked before) :
    Path.WellFormed before.reverse := by
  obtain ⟨segments, hbefore, hsegments⟩ := h
  refine ⟨segments.reverse, ?_, fun c hc => hsegments c (List.mem_reverse.mp hc)⟩
  rcases hbefore with rfl | rfl
  · exact .inl rfl
  · exact .inr (by simp)

theorem Stacked.cons {before : List Component} (h : Stacked before) {c : Component}
    (hc : c.IsSegment) : Stacked (c :: before) := by
  obtain ⟨segments, hbefore, hsegments⟩ := h
  refine ⟨c :: segments, ?_, List.forall_mem_cons.mpr ⟨hc, hsegments⟩⟩
  rcases hbefore with rfl | rfl
  · exact .inl rfl
  · exact .inr rfl

/-- What is under a component that is not the root is itself stacked. -/
theorem Stacked.of_cons {before : List Component} {c : Component} (h : Stacked (c :: before))
    (hc : c ≠ .root) : Stacked before := by
  obtain ⟨segments, hbefore, hsegments⟩ := h
  cases segments with
  | nil =>
      rcases hbefore with heq | heq
      · simp at heq
      · exact absurd (List.cons.inj heq).1 hc
  | cons d ds =>
      refine ⟨ds, ?_, (List.forall_mem_cons.mp hsegments).2⟩
      exact hbefore.imp (fun heq => (List.cons.inj heq).2) (fun heq => (List.cons.inj heq).2)

theorem Stacked.fold {before : List Component} (h : Stacked before) {c : Component}
    (hc : c.IsSegment) : Stacked (c.fold before) := by
  cases c with
  | current => exact absurd rfl hc.ne_current
  | root => exact absurd rfl hc.ne_root
  | name bs => exact h.cons hc
  | up =>
      cases before with
      | nil => exact h.cons isSegment_up
      | cons d ds =>
          cases d with
          | root => exact h.cons isSegment_up
          | current => exact h.of_cons (by simp)
          | up => exact h.of_cons (by simp)
          | name bs => exact h.of_cons (by simp)

/-- Components, last one first, each of which stays when it is folded. -/
inductive Folded : List Component → Prop
  | nil : Folded []
  | cons {before : List Component} {c : Component} :
      Folded before → c.fold before = c :: before → Folded (c :: before)

theorem Folded.fold {before : List Component} (h : Folded before) (c : Component) :
    Folded (c.fold before) := by
  cases c with
  | current => exact h
  | root => exact .cons h rfl
  | name bs => exact .cons h rfl
  | up =>
      cases h with
      | nil => exact .cons .nil rfl
      | @cons ds d hds hd =>
          cases d with
          | root => exact .cons (.cons hds hd) rfl
          | current => exact hds
          | up => exact hds
          | name bs => exact hds

/-- Folding leaves what is folded already. -/
theorem Folded.foldl_eq {before : List Component} (h : Folded before) :
    before.reverse.foldl Component.fold [] = before := by
  induction h with
  | nil => rfl
  | cons _ hc ih =>
      rw [List.reverse_cons, List.foldl_append, ih, List.foldl_cons, hc, List.foldl_nil]

theorem Folded.foldl {before : List Component} (h : Folded before) (cs : List Component) :
    Folded (cs.foldl Component.fold before) := by
  induction cs generalizing before with
  | nil => exact h
  | cons c cs ih => exact ih (h.fold c)

theorem Stacked.foldl {before : List Component} (h : Stacked before) {cs : List Component}
    (hcs : ∀ c ∈ cs, c.IsSegment) : Stacked (cs.foldl Component.fold before) := by
  induction cs generalizing before with
  | nil => exact h
  | cons c cs ih =>
      obtain ⟨hc, hcs⟩ := List.forall_mem_cons.mp hcs
      exact ih (h.fold hc) hcs

end Component

namespace Path

theorem wellFormed_normalComponents (p : Path) : WellFormed p.normalComponents := by
  have stacked_nil : Component.Stacked [] := ⟨[], .inl rfl, fun c hc => absurd hc List.not_mem_nil⟩
  have stacked_root : Component.Stacked [.root] :=
    ⟨[], .inr rfl, fun c hc => absurd hc List.not_mem_nil⟩
  apply Component.Stacked.wellFormed
  obtain ⟨segments, hsegments, hp | hp | hp⟩ := p.components_cases
  · rw [hp]
    exact stacked_nil.foldl hsegments
  · rw [hp]
    exact stacked_root.foldl hsegments
  · rw [hp]
    show Component.Stacked (segments.foldl Component.fold [])
    exact stacked_nil.foldl hsegments

/-- The components of the normal form are what is left by folding. -/
theorem components_normalize (p : Path) : p.normalize.components = p.normalComponents :=
  components_ofComponents p.wellFormed_normalComponents

/-- Normalizing again changes no byte. -/
theorem normalize_normalize (p : Path) : p.normalize.normalize = p.normalize := by
  have hfolded := Component.Folded.nil.foldl p.components
  have hcomponents : p.normalize.normalComponents = p.normalComponents := by
    rw [normalComponents, components_normalize, normalComponents, hfolded.foldl_eq]
  rw [normalize, hcomponents, normalize]

/-- The normal form depends on the path and not on its spelling. -/
theorem normalize_congr {p q : Path} (h : p.key = q.key) : p.normalize = q.normalize := by
  rw [normalize, normalize, normalComponents, normalComponents, key_eq_iff.mp h]

/-- Normal forms that are the same path are spelled alike. -/
theorem eq_of_key_eq_of_normal {p q : Path} (hp : p.normalize = p) (hq : q.normalize = q)
    (h : p.key = q.key) : p = q := by
  rw [← hp, ← hq, normalize_congr h]

end Path
end LintRelay
