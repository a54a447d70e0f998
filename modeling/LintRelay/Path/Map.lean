import LintRelay.Path.Basic

/-!
# Maps keyed by paths

A `PathMap` holds at most one entry for a path, however it is spelled, in the order of paths. The
spelling under which a path came first is kept when its value is replaced.

`PathMap.find?` is the view: every operation is described by what it does to `find?`.
-/

namespace LintRelay

/-- Entries in strictly increasing order of their paths. -/
structure PathMap (α : Type) where
  entries : List (Path × α)
  increasing : entries.Pairwise (fun a b => a.1.key < b.1.key)

namespace PathMap

variable {α β : Type}

/-- Whether the entry is for the path `p`. -/
abbrev isAt (p : Path) (e : Path × α) : Bool := e.1.key == p.key

/-- Replaces the value at `p` by what `f` makes of it, or adds an entry with what `f` makes of
nothing. -/
def alterEntries (p : Path) (f : Option α → α) : List (Path × α) → List (Path × α)
  | [] => [(p, f none)]
  | (q, a) :: es =>
    if p.key < q.key then (p, f none) :: (q, a) :: es
    else if q.key < p.key then (q, a) :: alterEntries p f es
    else (q, f (some a)) :: es

theorem mem_alterEntries {p : Path} {f : Option α → α} {es : List (Path × α)} {e : Path × α}
    (h : e ∈ alterEntries p f es) : e.1.key = p.key ∨ e ∈ es := by
  induction es with
  | nil => simp_all [alterEntries]
  | cons d es ih =>
    obtain ⟨q, a⟩ := d
    rw [alterEntries] at h
    split at h
    · rcases List.mem_cons.1 h with rfl | h
      · exact .inl rfl
      · exact .inr h
    · split at h
      · rcases List.mem_cons.1 h with rfl | h
        · exact .inr (List.mem_cons_self ..)
        · exact (ih h).imp_right (List.mem_cons_of_mem _)
      · rename_i h₁ h₂
        rcases List.mem_cons.1 h with rfl | h
        · exact .inl (List.le_antisymm (Std.not_lt.1 h₁) (Std.not_lt.1 h₂))
        · exact .inr (List.mem_cons_of_mem _ h)

theorem pairwise_alterEntries (p : Path) (f : Option α → α) {es : List (Path × α)}
    (h : es.Pairwise (fun a b => a.1.key < b.1.key)) :
    (alterEntries p f es).Pairwise (fun a b => a.1.key < b.1.key) := by
  induction es with
  | nil => simp [alterEntries]
  | cons d es ih =>
    obtain ⟨q, a⟩ := d
    rw [List.pairwise_cons] at h
    rw [alterEntries]
    split
    · rename_i hlt
      refine List.pairwise_cons.2 ⟨fun e he => ?_, List.pairwise_cons.2 h⟩
      rcases List.mem_cons.1 he with rfl | he
      · exact hlt
      · exact List.lt_trans hlt (h.1 e he)
    · split
      · rename_i hlt
        refine List.pairwise_cons.2 ⟨fun e he => ?_, ih h.2⟩
        rcases mem_alterEntries he with he | he
        · exact he ▸ hlt
        · exact h.1 e he
      · exact List.pairwise_cons.2 ⟨h.1, h.2⟩

/-- The map without entries. -/
def empty : PathMap α := ⟨[], .nil⟩

/-- Replaces the value at `p` by what `f` makes of it, or adds an entry with what `f` makes of
nothing. -/
def alter (m : PathMap α) (p : Path) (f : Option α → α) : PathMap α :=
  ⟨alterEntries p f m.entries, pairwise_alterEntries p f m.increasing⟩

/-- Sets the value at `p`. -/
def insert (m : PathMap α) (p : Path) (a : α) : PathMap α := m.alter p fun _ => a

/-- The value at `p`. -/
def find? (m : PathMap α) (p : Path) : Option α := (m.entries.find? (isAt p)).map (·.2)

/-- Whether there is an entry for `p`. -/
def contains (m : PathMap α) (p : Path) : Bool := m.entries.any (isAt p)

/-- The map without the entry for `p`. -/
def erase (m : PathMap α) (p : Path) : PathMap α :=
  ⟨m.entries.filter (fun e => !isAt p e), m.increasing.filter _⟩

/-- The number of entries. -/
def size (m : PathMap α) : Nat := m.entries.length

/-- The paths in their order. -/
def paths (m : PathMap α) : List Path := m.entries.map (·.1)

/-- Entries set one after the other. -/
def ofList (es : List (Path × α)) : PathMap α := es.foldl (fun m e => m.insert e.1 e.2) empty

/-- Adds `a` to the end of the list at `p`. -/
def push (m : PathMap (List α)) (p : Path) (a : α) : PathMap (List α) :=
  m.alter p fun as => as.getD [] ++ [a]

instance : Inhabited (PathMap α) := ⟨empty⟩

end PathMap
end LintRelay
