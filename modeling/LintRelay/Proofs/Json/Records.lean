import LintRelay.Proofs.Json.Taking

/-!
# Records both ways

What a record takes and what it reads is the same, if that is so of each of its fields
(`Record.Exact`). `takes_record` says what a record takes; here is the converse (`reads_filled`): a
text that gives the fields a record needs, in one of the two forms of records, is read as what they
make of a blank draft. For a whole text both together are one equivalence (`read_eq_ok_iff`).
-/

namespace LintRelay.Json

variable {α ρ : Type}

/-! ## Whole texts -/

/-- A reader that reads certain texts and takes no others accepts a whole text exactly if it is one
of them with blanks around it. -/
theorem read_eq_ok_iff {read : Reader α} {P : α → List Char → Prop} (htakes : Takes read P)
    (hreads : ∀ a v, P a v → Reads read nestingBudget v a) {cs : List Char} {a : α} :
    read.read cs = .ok a ↔ ∃ g v g', Gap g ∧ Gap g' ∧ cs = g ++ v ++ g' ∧ P a v := by
  constructor
  · intro h
    obtain ⟨⟨a', rest⟩, hread, hdone⟩ := exists_of_bind_ok h
    dsimp only at hdone
    split_ifs at hdone with hend
    obtain rfl := Except.ok.inj hdone
    obtain ⟨g, v, hg, hv, hcs⟩ := htakes _ _ _ _ hread
    exact ⟨g, v, rest, hg, gap_of_skipGap_eq_nil (List.isEmpty_iff.mp hend), hcs, hv⟩
  · rintro ⟨g, v, g', hg, hg', rfl, hv⟩
    have hends : Ends g' := by
      have hend := Ends.nil.gap hg'
      rwa [List.append_nil] at hend
    have hskip : skipGap g' = [] := by
      have hgap := skipGap_append hg' []
      rwa [List.append_nil] at hgap
    have hread := (hreads a v hv).reads g g' hg hends
    simp only [Reader.read, hread, bind, Except.bind, hskip]
    rfl

namespace Record

/-! ## Fields -/

/-- A field takes what its shape says, and reads all of it. -/
structure Exact (budget : Nat) (f : Field ρ) (s : Shape ρ) : Prop extends Fits f s where
  reads : ∀ put v, s.spells put v → Reads f.read budget v put

theorem Exact.of {budget : Nat} (name : String) (optional : Bool) {read : Reader α}
    {P : α → List Char → Prop} (htakes : Takes read P)
    (hreads : ∀ a v, P a v → Reads read budget v a) (put : α → ρ → ρ) :
    Exact budget (.of name optional read put) (.of name optional P put) where
  toFits := .of name optional htakes put
  reads := by
    rintro _ v ⟨a, rfl, ha⟩
    exact (hreads a v ha).map put

/-- Where names are distinct, a field is found by its name. -/
theorem find?_name {fs : List (Field ρ)} (hdistinct : (fs.map (·.name)).Nodup) {f : Field ρ}
    (hf : f ∈ fs) : fs.find? (fun g => g.name == f.name) = some f := by
  cases hfind : fs.find? (fun g => g.name == f.name) with
  | none => exact absurd (beq_self_eq_true f.name) (List.find?_eq_none.mp hfind f hf)
  | some g =>
      have hname := List.find?_some hfind
      rw [List.inj_on_of_nodup_map hdistinct (List.mem_of_find?_eq_some hfind) hf
        (eq_of_beq hname)]

/-! ## What fields make of a draft -/

/-- What holds of a draft and is kept by every field holds of the result. -/
theorem Filled.keeps {ss : List (Shape ρ)} {known : List (String × List Char)} {d d' : ρ}
    (h : Filled ss known d d') {P : ρ → Prop}
    (hput : ∀ s ∈ ss, ∀ put v, s.spells put v → ∀ d, P d → P (put d)) (hd : P d) : P d' := by
  induction h with
  | nil => exact hd
  | given hv _ ih =>
      obtain ⟨hfirst, hothers⟩ := List.forall_mem_cons.mp hput
      exact ih hothers (hfirst _ _ hv _ hd)
  | left _ _ ih => exact ih (List.forall_mem_cons.mp hput).2 hd

variable {r : Record ρ} {budget : Nat}

/-- The updates of members that fill the fields `fs` of a record, of the shapes `ss`. -/
structure Filling (r : Record ρ) (budget : Nat) (fs : List (Field ρ)) (ss : List (Shape ρ))
    (known : List (String × List Char)) (us : List (Update ρ)) (d d' : ρ) : Prop where
  gives : List.Forall₂ (r.Gives budget) known us
  names : us.flatMap Update.names = known.map Prod.fst
  sublist : (known.map Prod.fst).Sublist (fs.map (·.name))
  spelled : ∀ u ∈ us, ∃ s ∈ ss, ∃ v, s.spells u.put v
  commute : us.Pairwise Update.Commutes
  required : ∀ f ∈ fs, f.optional = false → f.name ∈ known.map Prod.fst
  draft : us.foldl (fun d u => u.put d) d = d'

theorem exists_filling {fs : List (Field ρ)} {ss : List (Shape ρ)}
    (hexact : List.Forall₂ (Exact budget) fs ss) (hfs : ∀ f ∈ fs, f ∈ r.fields)
    (hdistinct : (r.fields.map (·.name)).Nodup) (hcommute : ss.Pairwise Shape.Commutes)
    {known : List (String × List Char)} {d d' : ρ} (h : Filled ss known d d') :
    ∃ us, Filling r budget fs ss known us d d' := by
  -- on the fields, of which each is given or left out
  induction hexact generalizing known d with
  | nil =>
      obtain ⟨rfl, rfl⟩ := h.of_nil
      exact ⟨[], .nil, rfl, .slnil, by simp, .nil, by simp, rfl⟩
  | @cons f s fs ss hf _ ih =>
      obtain ⟨hmem, hothers⟩ := List.forall_mem_cons.mp hfs
      obtain ⟨hfirst, hcommute⟩ := List.pairwise_cons.mp hcommute
      cases h with
      | @given _ _ put v known _ _ hv hfilled =>
          obtain ⟨us, hus⟩ := ih hothers hcommute hfilled
          have hfind := hf.name ▸ find?_name hdistinct hmem
          refine ⟨⟨[s.name], put⟩ :: us, ?_⟩
          exact {
            gives := .cons (.known hfind (hf.reads put v hv)) hus.gives
            names := congrArg (s.name :: ·) hus.names
            sublist := by
              rw [List.map_cons, List.map_cons, hf.name]
              exact hus.sublist.cons_cons _
            spelled := by
              refine List.forall_mem_cons.mpr ⟨⟨s, List.mem_cons_self .., v, hv⟩, fun u hu => ?_⟩
              obtain ⟨s', hs', w, hw⟩ := hus.spelled u hu
              exact ⟨s', List.mem_cons_of_mem _ hs', w, hw⟩
            commute := by
              refine List.pairwise_cons.mpr ⟨fun u hu => ?_, hus.commute⟩
              obtain ⟨s', hs', w, hw⟩ := hus.spelled u hu
              exact hfirst s' hs' _ _ _ _ hv hw
            required := by
              rw [List.map_cons, ← hf.name]
              refine List.forall_mem_cons.mpr ⟨fun _ => List.mem_cons_self .., ?_⟩
              exact fun g hg hneeded => List.mem_cons_of_mem _ (hus.required g hg hneeded)
            draft := hus.draft }
      | left hoptional hfilled =>
          obtain ⟨us, hus⟩ := ih hothers hcommute hfilled
          refine ⟨us, hus.gives, hus.names, hus.sublist.cons _, ?_, hus.commute, ?_, hus.draft⟩
          · intro u hu
            obtain ⟨s', hs', w, hw⟩ := hus.spelled u hu
            exact ⟨s', List.mem_cons_of_mem _ hs', w, hw⟩
          · refine List.forall_mem_cons.mpr ⟨fun hneeded => ?_, hus.required⟩
            exact absurd ((hf.optional.trans hoptional).symm.trans hneeded) (by simp)

/-- **What fills the fields of a record is read.** -/
theorem reads_filled {ss : List (Shape ρ)} (hexact : List.Forall₂ (Exact budget) r.fields ss)
    (hdistinct : (r.fields.map (·.name)).Nodup) (hcommute : ss.Pairwise Shape.Commutes)
    {known : List (String × List Char)} {a : ρ} {v : List Char} (h : Filled ss known r.blank a)
    (htext : RecordText (r.fields.map (·.name)) known v) (hbudget : 0 < budget) :
    Reads r.reader (budget + 1) v a := by
  obtain ⟨us, hus⟩ := exists_filling hexact (fun _ hf => hf) hdistinct hcommute h
  refine reads_record htext hus.gives hdistinct ?_ hus.commute ?_ hus.draft hbudget
  · rw [hus.names]
    exact hus.sublist.nodup hdistinct
  · rw [hus.names]
    exact hus.required

end Record
end LintRelay.Json
