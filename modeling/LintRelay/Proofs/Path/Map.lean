import LintRelay.Path.Map
import Mathlib.Data.List.Nodup

/-!
# Path maps through their view

What each operation of a path map does to `PathMap.find?`. The entries of a map are strictly
increasing, so an entry is found under its own path (`find?_of_mem`) and under every other spelling
of it (`find?_congr`), and `alter` changes what is found there and nowhere else (`find?_alter`).

`listAt` is the view of a map of lists in which a missing entry and an empty list are the same.
-/

namespace LintRelay

/-- Two spellings are the same path exactly when their keys agree. -/
theorem Path.same_iff {p q : Path} : p.same q = true ↔ p.key = q.key := beq_iff_eq

theorem Path.same_eq_false_iff {p q : Path} : p.same q = false ↔ p.key ≠ q.key :=
  beq_eq_false_iff_ne

namespace PathMap

variable {α : Type}

/-! ## Entries -/

theorem nodup_paths (m : PathMap α) : m.paths.Nodup := by
  rw [paths, List.Nodup, List.pairwise_map]
  refine m.increasing.imp ?_
  intro a b hlt heq
  exact List.lt_irrefl _ (heq ▸ hlt)

/-- There is one entry for a path. -/
theorem eq_of_key_eq (m : PathMap α) {d e : Path × α} (hd : d ∈ m.entries) (he : e ∈ m.entries)
    (h : d.1.key = e.1.key) : d = e := by
  have distinct : (m.entries.map fun e => e.1.key).Nodup :=
    List.pairwise_map.mpr (m.increasing.imp fun hlt => Std.ne_of_lt hlt)
  exact List.inj_on_of_nodup_map distinct hd he h

/-- An entry is found under every spelling of its path. -/
theorem find?_eq_some_iff (m : PathMap α) {p : Path} {a : α} :
    m.find? p = some a ↔ ∃ q, (q, a) ∈ m.entries ∧ q.key = p.key := by
  unfold find?
  constructor
  · intro h
    obtain ⟨⟨q, b⟩, hfind, rfl⟩ := Option.map_eq_some_iff.mp h
    exact ⟨q, List.mem_of_find?_eq_some hfind, by simpa using List.find?_some hfind⟩
  · rintro ⟨q, hmem, hkey⟩
    cases hfind : m.entries.find? (isAt p) with
    | none =>
        have hnone := List.find?_eq_none.mp hfind (q, a) hmem
        simp [isAt, hkey] at hnone
    | some e =>
        have hekey : e.1.key = p.key := by simpa using List.find?_some hfind
        have he : e = (q, a) :=
          m.eq_of_key_eq (List.mem_of_find?_eq_some hfind) hmem (hekey.trans hkey.symm)
        simp [he]

theorem find?_of_mem (m : PathMap α) {e : Path × α} (h : e ∈ m.entries) :
    m.find? e.1 = some e.2 :=
  m.find?_eq_some_iff.mpr ⟨e.1, h, rfl⟩

theorem find?_eq_none_iff (m : PathMap α) {p : Path} :
    m.find? p = none ↔ ∀ e ∈ m.entries, e.1.key ≠ p.key := by
  simp [find?, isAt]

/-- The view does not depend on the spelling. -/
theorem find?_congr (m : PathMap α) {p q : Path} (h : p.key = q.key) : m.find? p = m.find? q := by
  have hat : isAt (α := α) p = isAt q := by funext e; rw [isAt, isAt, h]
  rw [find?, find?, hat]

/-- The entry for `p`, spelled as it is kept. -/
def entryAt? (m : PathMap α) (p : Path) : Option (Path × α) := m.entries.find? (isAt p)

theorem find?_eq_map (m : PathMap α) (p : Path) : m.find? p = (m.entryAt? p).map (·.2) := rfl

theorem entryAt?_eq_some_iff (m : PathMap α) {e : Path × α} :
    m.entryAt? e.1 = some e ↔ e ∈ m.entries := by
  refine ⟨List.mem_of_find?_eq_some, fun he => ?_⟩
  obtain ⟨d, hd⟩ : ∃ d, m.entryAt? e.1 = some d :=
    Option.isSome_iff_exists.mp (List.find?_isSome.mpr ⟨e, he, beq_self_eq_true _⟩)
  have hkey : d.1.key = e.1.key := by simpa using List.find?_some hd
  rw [hd, m.eq_of_key_eq (List.mem_of_find?_eq_some hd) he hkey]

/-- A map is determined by its entries. -/
theorem ext_entryAt? {m n : PathMap α} (h : ∀ p, m.entryAt? p = n.entryAt? p) : m = n := by
  have hmem : ∀ e, e ∈ m.entries ↔ e ∈ n.entries := by
    intro e
    rw [← m.entryAt?_eq_some_iff, ← n.entryAt?_eq_some_iff, h]
  have hperm : m.entries.Perm n.entries :=
    (List.perm_ext_iff_of_nodup m.nodup_paths.of_map n.nodup_paths.of_map).mpr hmem
  -- a strict order leaves the same members one way to stand in
  have hentries : m.entries = n.entries :=
    hperm.eq_of_pairwise (fun a b _ _ hab hba => absurd hba (List.lt_asymm hab)) m.increasing
      n.increasing
  cases m
  cases n
  congr

theorem contains_eq_isSome (m : PathMap α) (p : Path) : m.contains p = (m.find? p).isSome := by
  rw [contains, find?, Option.isSome_map, Bool.eq_iff_iff, List.find?_isSome, List.any_eq_true]

/-! ## Operations -/

@[simp] theorem find?_empty (p : Path) : (empty : PathMap α).find? p = none := rfl

/-- Nothing is found where every entry comes later. -/
private theorem find?_entries_of_lt {p : Path} {es : List (Path × α)}
    (h : ∀ e ∈ es, p.key < e.1.key) : es.find? (isAt p) = none := by
  rw [List.find?_eq_none]
  intro e he hat
  exact Std.ne_of_lt (h e he) (by simpa using Eq.symm (beq_iff_eq.mp hat))

private theorem entryAt?_alterEntries (p q : Path) (f : Option α → α) {es : List (Path × α)}
    (h : es.Pairwise (fun a b => a.1.key < b.1.key)) :
    (alterEntries p f es).find? (isAt q) =
      if p.key = q.key then
        some (((es.find? (isAt p)).map (·.1)).getD p, f ((es.find? (isAt p)).map (·.2)))
      else es.find? (isAt q) := by
  induction es with
  | nil => by_cases hpq : p.key = q.key <;> simp [alterEntries, isAt, hpq]
  | cons d es ih =>
      obtain ⟨s, a⟩ := d
      obtain ⟨hhead, htail⟩ := List.pairwise_cons.mp h
      rw [alterEntries]
      split
      · -- the new entry comes first, so there was none for `p`
        rename_i hlt
        have hnone : ((s, a) :: es).find? (isAt p) = none := by
          apply find?_entries_of_lt
          intro e he
          rcases List.mem_cons.mp he with rfl | he
          · exact hlt
          · exact List.lt_trans hlt (hhead e he)
        rw [hnone]
        by_cases hpq : p.key = q.key <;> simp [isAt, hpq]
      · split
        · -- the entry for `p` stands further back
          rename_i hlt
          have hsp : s.key ≠ p.key := Std.ne_of_lt hlt
          by_cases hpq : p.key = q.key
          · have hsq : s.key ≠ q.key := hpq ▸ hsp
            simpa [isAt, hsp, hsq, hpq] using ih htail
          · by_cases hsq : s.key = q.key
            · simp [isAt, hsq, hpq]
            · simpa [isAt, hsq, hpq] using ih htail
        · -- the first entry is the one for `p`
          rename_i hps hsp
          have hkey : s.key = p.key :=
            List.le_antisymm (Std.not_lt.mp hps) (Std.not_lt.mp hsp)
          by_cases hpq : p.key = q.key <;> simp [isAt, hkey, hpq]

/-- `alter` changes the entry for its path, and nothing else. An entry that is there keeps its
spelling. -/
theorem entryAt?_alter (m : PathMap α) (p q : Path) (f : Option α → α) :
    (m.alter p f).entryAt? q =
      if p.key = q.key then
        some (((m.entryAt? p).map (·.1)).getD p, f ((m.entryAt? p).map (·.2)))
      else m.entryAt? q :=
  entryAt?_alterEntries p q f m.increasing

/-- `alter` changes what is found at its path, and nothing else. -/
theorem find?_alter (m : PathMap α) (p q : Path) (f : Option α → α) :
    (m.alter p f).find? q = if p.key = q.key then some (f (m.find? p)) else m.find? q := by
  rw [find?_eq_map, entryAt?_alter]
  split <;> rfl

/-- Changes at different paths do not get in each other's way. -/
theorem alter_comm (m : PathMap α) {p q : Path} (h : p.key ≠ q.key) (f g : Option α → α) :
    (m.alter p f).alter q g = (m.alter q g).alter p f := by
  apply ext_entryAt?
  intro s
  simp only [entryAt?_alter, if_neg h, if_neg h.symm]
  by_cases hp : p.key = s.key
  · have hq : q.key ≠ s.key := fun hq => h (hp.trans hq.symm)
    rw [if_neg hq, if_pos hp, if_pos hp]
  · rw [if_neg hp, if_neg hp]

theorem find?_insert (m : PathMap α) (p q : Path) (a : α) :
    (m.insert p a).find? q = if p.key = q.key then some a else m.find? q :=
  m.find?_alter p q fun _ => a

/-! ## Paths -/

/-- There is an entry for `p` exactly when there is one under some spelling of it. -/
theorem contains_iff_mem_paths {m : PathMap α} {p : Path} :
    m.contains p = true ↔ ∃ q ∈ m.paths, q.key = p.key := by
  simp [contains, isAt, paths]

private theorem paths_alterEntries {p q : Path} {f : Option α → α} {es : List (Path × α)}
    (h : q ∈ (alterEntries p f es).map (·.1)) : q = p ∨ q ∈ es.map (·.1) := by
  induction es with
  | nil => exact .inl (by simpa [alterEntries] using h)
  | cons d es ih =>
      rw [alterEntries] at h
      split at h
      · exact List.mem_cons.mp h
      · split at h
        · rcases List.mem_cons.mp h with rfl | h
          · exact .inr (List.mem_cons_self ..)
          · exact (ih h).imp_right (List.mem_cons_of_mem _)
        · exact .inr h

/-- A path that is in a map after a change was there before or is the one that was changed, spelled
as it was then. -/
theorem mem_paths_alter {m : PathMap α} {p q : Path} {f : Option α → α}
    (h : q ∈ (m.alter p f).paths) : q = p ∨ q ∈ m.paths :=
  paths_alterEntries h

/-! ## Lists -/

/-- The list at `p`, which is empty where there is no entry. -/
def listAt (m : PathMap (List α)) (p : Path) : List α := (m.find? p).getD []

@[simp] theorem listAt_empty (p : Path) : (empty : PathMap (List α)).listAt p = [] := rfl

theorem listAt_congr (m : PathMap (List α)) {p q : Path} (h : p.key = q.key) :
    m.listAt p = m.listAt q := by
  rw [listAt, listAt, m.find?_congr h]

theorem listAt_of_mem (m : PathMap (List α)) {e : Path × List α} (h : e ∈ m.entries) :
    m.listAt e.1 = e.2 := by
  rw [listAt, m.find?_of_mem h, Option.getD_some]

theorem listAt_of_not_contains (m : PathMap (List α)) {p : Path} (h : m.contains p = false) :
    m.listAt p = [] := by
  rw [contains_eq_isSome, Option.isSome_eq_false_iff, Option.isNone_iff_eq_none] at h
  rw [listAt, h, Option.getD_none]

theorem listAt_push (m : PathMap (List α)) (p q : Path) (a : α) :
    (m.push p a).listAt q = if p.key = q.key then m.listAt q ++ [a] else m.listAt q := by
  unfold listAt push
  rw [find?_alter]
  split
  · rename_i hkey
    rw [Option.getD_some, m.find?_congr hkey]
  · rfl

theorem contains_push (m : PathMap (List α)) (p q : Path) (a : α) :
    (m.push p a).contains q = true ↔ p.key = q.key ∨ m.contains q = true := by
  unfold push
  rw [contains_eq_isSome, contains_eq_isSome, find?_alter]
  by_cases hkey : p.key = q.key <;> simp [hkey]

/-- The lengths of the lists of a map, added up. -/
def total (m : PathMap (List α)) : Nat := m.entries.foldr (fun e n => e.2.length + n) 0

private theorem foldr_length_alterEntries (p : Path) (a : α) (es : List (Path × List α)) :
    (alterEntries p (fun as => as.getD [] ++ [a]) es).foldr (fun e n => e.2.length + n) 0 =
      es.foldr (fun e n => e.2.length + n) 0 + 1 := by
  induction es with
  | nil => rfl
  | cons d es ih =>
      rw [alterEntries]
      split
      · simp only [List.foldr_cons, Option.getD_none, List.nil_append, List.length_singleton]
        omega
      · split
        · simp only [List.foldr_cons, ih]
          omega
        · simp only [List.foldr_cons, Option.getD_some, List.length_append, List.length_singleton]
          omega

theorem total_push (m : PathMap (List α)) (p : Path) (a : α) :
    (m.push p a).total = m.total + 1 :=
  foldr_length_alterEntries p a m.entries

end PathMap
end LintRelay
