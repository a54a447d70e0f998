import LintRelay.Proofs.Json.Passing
import Mathlib.Data.List.Nodup

/-!
# What readers take

The converse of reading texts. `Takes read P` says that a reader takes nothing but texts `v` with
`P a v` as `a`, blanks before them aside. Each kind of reader has one lemma for it; those of lists
and records are about any readers of their parts.

A record is taken from an object or from an array, so what it takes is a `RecordText`. Which fields
there are and what they make of a blank draft does not depend on the form (`Filled`): the members of
an object are sorted by the order of the fields, as their updates commute (`exists_filled`).
-/

namespace LintRelay.Json

variable {α β σ ρ : Type}

/-- Whether a reader takes as `a` only what `P a` allows. -/
def Takes (read : Reader α) (P : α → List Char → Prop) : Prop :=
  ∀ (budget : Nat) (cs : List Char) (a : α) (rest : List Char), read budget cs = .ok (a, rest) →
    ∃ g v, Gap g ∧ P a v ∧ cs = g ++ v ++ rest

theorem exists_of_atFront {cs : List Char}
    {read : Char → List Char → Option (OrError (α × List Char))}
    {expected : String} {r : α × List Char} (h : atFront cs read expected = .ok r) :
    ∃ g c rest, Gap g ∧ cs = g ++ c :: rest ∧ read c rest = some (.ok r) := by
  unfold atFront at h
  split at h
  · simp at h
  · rename_i c rest hskip
    obtain ⟨g, hg, rfl⟩ := exists_gap_cons hskip
    split at h
    · rename_i step hread
      exact ⟨g, c, rest, hg, rfl, hread.trans (congrArg some h)⟩
    · simp at h

/-! ## Scalars -/

theorem takes_string : Takes .string StringText := by
  intro budget cs s rest h
  obtain ⟨g, c, behind, hg, rfl, hread⟩ := exists_of_atFront h
  split_ifs at hread with hquote
  obtain ⟨⟨t, rest'⟩, hstring, hdone⟩ := exists_of_bind_ok (Option.some.inj hread)
  obtain ⟨rfl, rfl⟩ := Prod.mk.inj (Except.ok.inj hdone)
  obtain ⟨v, hv, hcs⟩ := stringText_of_readString hstring
  exact ⟨g, v, hg, hv, by rw [eq_of_beq hquote, hcs, List.append_assoc]⟩

theorem takes_natural (expected : String) (greatest : Nat) :
    Takes (.natural expected greatest) fun n v => NaturalText n v ∧ n ≤ greatest := by
  intro budget cs n rest h
  obtain ⟨g, c, behind, hg, rfl, hread⟩ := exists_of_atFront h
  split_ifs at hread with hminus hdigit
  · -- Nothing after a minus counts as a natural number.
    obtain ⟨⟨x, rest'⟩, hnumber, hnatural⟩ := exists_of_bind_ok (Option.some.inj hread)
    obtain ⟨m, hm, -⟩ := exists_of_bind_ok hnatural
    exact absurd (naturalText_of_readNumber hnumber hm).1 (by simp)
  · obtain ⟨⟨x, rest'⟩, hnumber, hnatural⟩ := exists_of_bind_ok (Option.some.inj hread)
    obtain ⟨m, hm, hdone⟩ := exists_of_bind_ok hnatural
    obtain ⟨rfl, rfl⟩ := Prod.mk.inj (Except.ok.inj hdone)
    obtain ⟨-, hle, t, ht, hcs⟩ := naturalText_of_readNumber hnumber hm
    exact ⟨g, t, hg, ⟨ht, hle⟩, by rw [hcs, List.append_assoc]⟩

/-- A value or null. -/
inductive OrNull (P : α → List Char → Prop) : Option α → List Char → Prop
  | null : OrNull P none ['n', 'u', 'l', 'l']
  | value {a : α} {v : List Char} : P a v → OrNull P (some a) v

theorem Takes.nullable {read : Reader α} {P : α → List Char → Prop} (h : Takes read P) :
    Takes (.nullable read) (OrNull P) := by
  intro budget cs o rest hread
  obtain ⟨g, hg, hcs⟩ := exists_gap cs
  unfold Reader.nullable at hread
  split at hread
  · rename_i behind hskip
    obtain ⟨rest', hword, hdone⟩ := exists_of_bind_ok hread
    obtain ⟨rfl, rfl⟩ := Prod.mk.inj (Except.ok.inj hdone)
    exact ⟨g, _, hg, .null, by rw [hcs, hskip, eq_of_expectWord hword, List.append_assoc]; rfl⟩
  · obtain ⟨⟨a, rest'⟩, hvalue, hdone⟩ := exists_of_bind_ok hread
    obtain ⟨rfl, rfl⟩ := Prod.mk.inj (Except.ok.inj hdone)
    obtain ⟨g', v, hg', hv, hskip⟩ := h _ _ _ _ hvalue
    exact ⟨g ++ g', v, hg.append hg', .value hv, by rw [hcs, hskip]; simp⟩

theorem Takes.map {read : Reader α} {P : α → List Char → Prop} (h : Takes read P) (f : α → β) :
    Takes (read.map f) fun b v => ∃ a, b = f a ∧ P a v := by
  intro budget cs b rest hread
  obtain ⟨⟨a, rest'⟩, hvalue, hdone⟩ := exists_of_bind_ok hread
  obtain ⟨rfl, rfl⟩ := Prod.mk.inj (Except.ok.inj hdone)
  obtain ⟨g, v, hg, hv, hcs⟩ := h _ _ _ _ hvalue
  exact ⟨g, v, hg, ⟨a, rfl, hv⟩, hcs⟩

theorem Takes.imp {read : Reader α} {P Q : α → List Char → Prop} (h : Takes read P)
    (himp : ∀ a v, P a v → Q a v) : Takes read Q := by
  intro budget cs a rest hread
  obtain ⟨g, v, hg, hv, hcs⟩ := h _ _ _ _ hread
  exact ⟨g, v, hg, himp a v hv, hcs⟩

/-! ## Lists -/

/-- An item follows what leads to it. -/
theorem exists_lead_of_nextItem {first : Bool} {cs rest : List Char}
    (h : nextItem first cs = .ok (.more rest)) :
    ∃ lead g, Lead first lead ∧ Gap g ∧ cs = lead ++ (g ++ rest) := by
  unfold nextItem at h
  split at h
  · simp at h
  · rename_i c behind hskip
    obtain ⟨g, hg, rfl⟩ := exists_gap_cons hskip
    split_ifs at h with hclose hfirst hcomma
    · simp at h
    · obtain rfl : c :: behind = rest := by simpa using h
      exact ⟨[], g, hfirst ▸ .first, hg, rfl⟩
    · split at h
      · simp at h
      · rename_i d behind' hskip'
        obtain ⟨g', hg', rfl⟩ := exists_gap_cons hskip'
        split_ifs at h with htrailing
        obtain rfl : d :: behind' = rest := by simpa using h
        exact ⟨g ++ [','], g', Bool.eq_false_iff.mpr hfirst ▸ .comma hg, hg',
          by simp [eq_of_beq hcomma]⟩

theorem exists_gap_of_nextItem {first : Bool} {cs rest : List Char}
    (h : nextItem first cs = .ok (.closed rest)) : ∃ g, Gap g ∧ cs = g ++ ']' :: rest := by
  unfold nextItem at h
  split at h
  · simp at h
  · rename_i c behind hskip
    obtain ⟨g, hg, rfl⟩ := exists_gap_cons hskip
    split_ifs at h with hclose hfirst hcomma
    · obtain rfl : behind = rest := by simpa using h
      exact ⟨g, hg, by rw [eq_of_beq hclose]⟩
    · simp at h
    · split at h
      · simp at h
      · split_ifs at h
        simp at h

theorem exists_entries_of_readItems {item : List Char → OrError (α × List Char)}
    {P : α → List Char → Prop}
    (hitem : ∀ cs a rest, item cs = .ok (a, rest) → ∃ g v, Gap g ∧ P a v ∧ cs = g ++ v ++ rest)
    {fuel : Nat} {first : Bool} {cs rest : List Char} {as : List α}
    (h : readItems item fuel first cs = .ok (as, rest)) :
    ∃ vs t, List.Forall₂ P as vs ∧ Entries first vs t ∧ cs = t ++ ']' :: rest := by
  induction fuel generalizing first cs as with
  | zero => simp [readItems] at h
  | succ fuel ih =>
      unfold readItems at h
      split at h
      · simp at h
      · rename_i behind hnext
        obtain ⟨rfl, rfl⟩ := Prod.mk.inj (Except.ok.inj h)
        obtain ⟨g, hg, rfl⟩ := exists_gap_of_nextItem hnext
        exact ⟨[], g, .nil, .done hg, rfl⟩
      · rename_i behind hnext
        obtain ⟨lead, g, hlead, hg, rfl⟩ := exists_lead_of_nextItem hnext
        obtain ⟨⟨a, behind'⟩, hvalue, hmore⟩ := exists_of_bind_ok h
        obtain ⟨⟨as', rest'⟩, hothers, hdone⟩ := exists_of_bind_ok hmore
        obtain ⟨rfl, rfl⟩ := Prod.mk.inj (Except.ok.inj hdone)
        obtain ⟨g', v, hg', hv, rfl⟩ := hitem _ _ _ hvalue
        obtain ⟨vs, t, hvs, hentries, rfl⟩ := ih hothers
        exact ⟨v :: vs, _, .cons hv hvs, .item hlead (hg.append hg') hentries, by simp⟩

theorem Takes.list {read : Reader α} {P : α → List Char → Prop} (h : Takes read P) :
    Takes (.list read) fun as v => ∃ vs, List.Forall₂ P as vs ∧ ArrayText vs v := by
  intro budget cs as rest hread
  obtain ⟨g, c, behind, hg, rfl, hlist⟩ := exists_of_atFront hread
  split_ifs at hlist with hopening
  obtain ⟨inner, -, hitems⟩ := exists_of_bind_ok (Option.some.inj hlist)
  obtain ⟨vs, t, hvs, hentries, rfl⟩ := exists_entries_of_readItems (h inner) hitems
  refine ⟨g, _, hg, ⟨vs, hvs, hentries.bracketed '[' ']'⟩, ?_⟩
  simp [eq_of_beq hopening]

/-! ## Members -/

/-- The name of a member follows what leads to it. -/
theorem exists_lead_of_nextMember {first : Bool} {cs rest : List Char}
    (h : nextMember first cs = .ok (.more rest)) :
    ∃ lead g, Lead first lead ∧ Gap g ∧ cs = lead ++ (g ++ '"' :: rest) := by
  unfold nextMember at h
  split at h
  · simp at h
  · rename_i c behind hskip
    obtain ⟨g, hg, rfl⟩ := exists_gap_cons hskip
    split_ifs at h with hclose hfirst hquote hcomma
    · simp at h
    · obtain rfl : behind = rest := by simpa using h
      exact ⟨[], g, hfirst ▸ .first, hg, by simp [eq_of_beq hquote]⟩
    · split at h
      · simp at h
      · rename_i d behind' hskip'
        obtain ⟨g', hg', rfl⟩ := exists_gap_cons hskip'
        split_ifs at h with hquote
        obtain rfl : behind' = rest := by simpa using h
        exact ⟨g ++ [','], g', Bool.eq_false_iff.mpr hfirst ▸ .comma hg, hg',
          by simp [eq_of_beq hcomma, eq_of_beq hquote]⟩

theorem exists_gap_of_nextMember {first : Bool} {cs rest : List Char}
    (h : nextMember first cs = .ok (.closed rest)) : ∃ g, Gap g ∧ cs = g ++ '\x7d' :: rest := by
  unfold nextMember at h
  split at h
  · simp at h
  · rename_i c behind hskip
    obtain ⟨g, hg, rfl⟩ := exists_gap_cons hskip
    split_ifs at h with hclose hfirst hquote hcomma
    · obtain rfl : behind = rest := by simpa using h
      exact ⟨g, hg, by rw [eq_of_beq hclose]⟩
    · simp at h
    · split at h
      · simp at h
      · split_ifs at h
        simp at h

theorem exists_value_of_memberValue {read : List Char → OrError (α × List Char)}
    {cs rest : List Char} {a : α} (h : memberValue read cs = .ok (a, rest)) :
    ∃ g cs', Gap g ∧ cs = g ++ ':' :: cs' ∧ read cs' = .ok (a, rest) := by
  obtain ⟨cs', hcolon, hread⟩ := exists_of_bind_ok h
  obtain ⟨g, hg, rfl⟩ := exists_colon_of_expectColon hcolon
  exact ⟨g, cs', hg, rfl, hread⟩

/-- What members do one after the other, each as `Q` says. -/
inductive Chain (Q : String × List Char → σ → σ → Prop) : List (String × List Char) → σ → σ → Prop
  | nil (s : σ) : Chain Q [] s s
  | cons {m : String × List Char} {ms : List (String × List Char)} {s s' s'' : σ} :
      Q m s s' → Chain Q ms s' s'' → Chain Q (m :: ms) s s''

theorem exists_entries_of_readMembers {member : σ → String → List Char → OrError (σ × List Char)}
    {Q : String × List Char → σ → σ → Prop}
    (hmember : ∀ s name cs s' rest, member s name cs = .ok (s', rest) →
      ∃ g g' v, Gap g ∧ Gap g' ∧ cs = g ++ ':' :: (g' ++ v ++ rest) ∧ Q (name, v) s s')
    {fuel : Nat} {first : Bool} {s s' : σ} {cs rest : List Char}
    (h : readMembers member fuel first s cs = .ok (s', rest)) :
    ∃ ms items t, List.Forall₂ NamedText ms items ∧ Entries first items t ∧
      cs = t ++ '\x7d' :: rest ∧ Chain Q ms s s' := by
  induction fuel generalizing first s cs with
  | zero => simp [readMembers] at h
  | succ fuel ih =>
      unfold readMembers at h
      split at h
      · simp at h
      · rename_i behind hnext
        obtain ⟨rfl, rfl⟩ := Prod.mk.inj (Except.ok.inj h)
        obtain ⟨g, hg, rfl⟩ := exists_gap_of_nextMember hnext
        exact ⟨[], [], g, .nil, .done hg, rfl, .nil s⟩
      · rename_i behind hnext
        obtain ⟨lead, g, hlead, hg, rfl⟩ := exists_lead_of_nextMember hnext
        obtain ⟨⟨name, behind'⟩, hname, hmore⟩ := exists_of_bind_ok h
        obtain ⟨⟨s₁, behind''⟩, hstep, hothers⟩ := exists_of_bind_ok hmore
        obtain ⟨n, hn, hquoted⟩ := stringText_of_readString hname
        obtain ⟨g₁, g₂, v, hg₁, hg₂, rfl, hq⟩ := hmember _ _ _ _ _ hstep
        obtain ⟨ms, items, t, hitems, hentries, rfl, hchain⟩ := ih hothers
        refine ⟨(String.ofList name, v) :: ms, _, _, .cons ⟨n, hn, .member hg₁ hg₂⟩ hitems,
          .item hlead hg hentries, ?_, .cons hq hchain⟩
        rw [hquoted]
        simp

/-! ## Records -/

namespace Record

/-- What a field of a record looks like: its name, whether it may be left out, and how a value is
spelled that is put into the draft. -/
structure Shape (ρ : Type) where
  name : String
  optional : Bool
  spells : (ρ → ρ) → List Char → Prop

/-- A field of the shape takes only what the shape says. -/
structure Fits (f : Field ρ) (s : Shape ρ) : Prop where
  name : f.name = s.name
  optional : f.optional = s.optional
  takes : Takes f.read s.spells

/-- The shape of a field that is put into the draft with `put`. -/
def Shape.of (name : String) (optional : Bool) (P : α → List Char → Prop) (put : α → ρ → ρ) :
    Shape ρ :=
  ⟨name, optional, fun change v => ∃ a, change = put a ∧ P a v⟩

theorem Fits.of (name : String) (optional : Bool) {read : Reader α} {P : α → List Char → Prop}
    (h : Takes read P) (put : α → ρ → ρ) :
    Fits (.of name optional read put) (.of name optional P put) :=
  ⟨rfl, rfl, h.map put⟩

/-- Whether values of two fields may be put into a draft in either order. -/
def Shape.Commutes (s s' : Shape ρ) : Prop :=
  ∀ put v put' v', s.spells put v → s'.spells put' v' → ∀ d, put' (put d) = put (put' d)

/-- The members that give the fields in their own order, and what they make of a draft. -/
inductive Filled : List (Shape ρ) → List (String × List Char) → ρ → ρ → Prop
  | nil (d : ρ) : Filled [] [] d d
  | given {s : Shape ρ} {ss : List (Shape ρ)} {put : ρ → ρ} {v : List Char}
      {ms : List (String × List Char)} {d d' : ρ} :
      s.spells put v → Filled ss ms (put d) d' → Filled (s :: ss) ((s.name, v) :: ms) d d'
  | left {s : Shape ρ} {ss : List (Shape ρ)} {ms : List (String × List Char)} {d d' : ρ} :
      s.optional = true → Filled ss ms d d' → Filled (s :: ss) ms d d'

theorem Shape.commutes_of {name name' : String} {optional optional' : Bool}
    {P : α → List Char → Prop} {P' : β → List Char → Prop} {put : α → ρ → ρ} {put' : β → ρ → ρ}
    (h : ∀ a b d, put' b (put a d) = put a (put' b d)) :
    Shape.Commutes (.of name optional P put) (.of name' optional' P' put') := by
  rintro _ v _ v' ⟨a, rfl, -⟩ ⟨b, rfl, -⟩ d
  exact h a b d

/-- A field that has to be given is the first member. -/
theorem Filled.of_required {name : String} {P : α → List Char → Prop} {put : α → ρ → ρ}
    {ss : List (Shape ρ)} {known : List (String × List Char)} {d d' : ρ}
    (h : Filled (.of name false P put :: ss) known d d') :
    ∃ a v ms, P a v ∧ known = (name, v) :: ms ∧ Filled ss ms (put a d) d' := by
  cases h with
  | given hv hothers =>
      obtain ⟨a, rfl, ha⟩ := hv
      exact ⟨a, _, _, ha, rfl, hothers⟩
  | left hoptional => exact absurd hoptional Bool.false_ne_true

/-- A field that may be left out is the first member, or it is not given. -/
theorem Filled.of_optional {name : String} {P : α → List Char → Prop} {put : α → ρ → ρ}
    {ss : List (Shape ρ)} {known : List (String × List Char)} {d d' : ρ}
    (h : Filled (.of name true P put :: ss) known d d') :
    (∃ a v ms, P a v ∧ known = (name, v) :: ms ∧ Filled ss ms (put a d) d') ∨
      Filled ss known d d' := by
  cases h with
  | given hv hothers =>
      obtain ⟨a, rfl, ha⟩ := hv
      exact .inl ⟨a, _, _, ha, rfl, hothers⟩
  | left _ hothers => exact .inr hothers

theorem Filled.of_nil {known : List (String × List Char)} {d d' : ρ} (h : Filled [] known d d') :
    known = [] ∧ d' = d := by
  cases h with
  | nil => exact ⟨rfl, rfl⟩

variable {r : Record ρ} {budget : Nat}

/-! ### Lists of fields -/

theorem filled_of_optional {ss : List (Shape ρ)} (h : ∀ s ∈ ss, s.optional = true) (d : ρ) :
    Filled ss [] d d := by
  induction ss with
  | nil => exact .nil d
  | cons s ss ih =>
      obtain ⟨hs, hss⟩ := List.forall_mem_cons.mp h
      exact .left hs (ih hss)

/-- Where the list has ended, the fields that are left stay as they are. -/
theorem readFields_closed {fs : List (Field ρ)} {i : Nat} {draft d : ρ} {cs behind rest : List Char}
    {first : Bool} (hclosed : nextItem first cs = .ok (.closed behind))
    (h : r.readFields budget fs i draft cs = .ok (d, rest)) :
    d = draft ∧ rest = behind ∧ ∀ f ∈ fs, f.optional = true := by
  have hstays : ∀ i : Nat, nextItem (i == 0) cs = .ok (.closed behind) := by
    intro i
    obtain ⟨g, hg, rfl⟩ := exists_gap_of_nextItem hclosed
    exact nextItem_close hg _ behind
  induction fs generalizing i with
  | nil =>
      simp only [readFields, hstays i] at h
      obtain ⟨rfl, rfl⟩ := Prod.mk.inj (Except.ok.inj h)
      exact ⟨rfl, rfl, by simp⟩
  | cons f fs ih =>
      simp only [readFields, hstays i] at h
      split_ifs at h with hoptional
      obtain ⟨hd, hrest, hfs⟩ := ih h
      exact ⟨hd, hrest, List.forall_mem_cons.mpr ⟨hoptional, hfs⟩⟩

theorem exists_filled_of_readFields {fs : List (Field ρ)} {ss : List (Shape ρ)}
    (hfits : List.Forall₂ Fits fs ss) {i : Nat} {draft d : ρ} {cs rest : List Char}
    (h : r.readFields budget fs i draft cs = .ok (d, rest)) :
    ∃ known t, Filled ss known draft d ∧ known.map Prod.fst <+: ss.map (·.name) ∧
      Entries (i == 0) (known.map Prod.snd) t ∧ cs = t ++ ']' :: rest := by
  induction hfits generalizing i draft cs with
  | nil =>
      unfold readFields at h
      split at h
      · rename_i behind hnext
        obtain ⟨rfl, rfl⟩ := Prod.mk.inj (Except.ok.inj h)
        obtain ⟨g, hg, rfl⟩ := exists_gap_of_nextItem hnext
        exact ⟨[], g, .nil draft, List.prefix_refl _, .done hg, rfl⟩
      · simp at h
      · simp at h
      · simp at h
  | @cons f s fs ss hf hfs ih =>
      cases hnext : nextItem (i == 0) cs with
      | error e => simp [readFields, hnext] at h
      | ok next =>
          cases next with
          | more behind =>
              simp only [readFields, hnext] at h
              obtain ⟨⟨put, behind'⟩, hvalue, hothers⟩ := exists_of_bind_ok h
              obtain ⟨lead, g, hlead, hg, rfl⟩ := exists_lead_of_nextItem hnext
              obtain ⟨g', v, hg', hv, rfl⟩ := hf.takes _ _ _ _ hvalue
              obtain ⟨known, t, hfilled, hprefix, hentries, rfl⟩ := ih hothers
              refine ⟨(s.name, v) :: known, _, .given hv hfilled, ?_,
                .item hlead (hg.append hg') hentries, by simp⟩
              exact List.cons_prefix_cons.mpr ⟨rfl, hprefix⟩
          | closed behind =>
              obtain ⟨rfl, rfl, hoptional⟩ := readFields_closed hnext h
              obtain ⟨g, hg, rfl⟩ := exists_gap_of_nextItem hnext
              refine ⟨[], g, filled_of_optional ?_ _, List.nil_prefix, .done hg, rfl⟩
              intro s' hs'
              obtain ⟨f', hf', hfit⟩ := exists_of_forall₂ (.cons hf hfs) hs'
              rw [← hfit.optional]
              exact hoptional f' hf'

/-! ### Members of objects -/

/-- What a member gives: the value of the field of its name, or nothing if it has none of the
names. -/
inductive Taken (names : List String) (ss : List (Shape ρ)) :
    String × List Char → Update ρ → Prop
  | known {s : Shape ρ} {put : ρ → ρ} {v : List Char} :
      s ∈ ss → s.spells put v → Taken names ss (s.name, v) ⟨[s.name], put⟩
  | unknown {name : String} {v : List Char} :
      name ∉ names → ValueText v → Taken names ss (name, v) .none

/-- What a member does with the progress: its update, if that gives nothing a second time. -/
def Takeover (names : List String) (ss : List (Shape ρ)) (m : String × List Char)
    (p p' : Progress ρ) : Prop :=
  ∃ u, Taken names ss m u ∧ p' = Update.apply p u ∧ ∀ name ∈ u.names, name ∉ p.2

theorem takeover_of_member {ss : List (Shape ρ)} (hfits : List.Forall₂ Fits r.fields ss)
    {p p' : Progress ρ} {name : String} {cs rest : List Char}
    (h : r.member budget p name cs = .ok (p', rest)) :
    ∃ g g' v, Gap g ∧ Gap g' ∧ cs = g ++ ':' :: (g' ++ v ++ rest) ∧
      Takeover (ss.map (·.name)) ss (name, v) p p' := by
  cases hfind : r.fields.find? (fun f => f.name == name) with
  | none =>
      simp only [member, hfind] at h
      obtain ⟨behind, hcolon, hmore⟩ := exists_of_bind_ok h
      obtain ⟨rest', hskip, hdone⟩ := exists_of_bind_ok hmore
      obtain ⟨rfl, rfl⟩ := Prod.mk.inj (Except.ok.inj hdone)
      obtain ⟨g, hg, rfl⟩ := exists_colon_of_expectColon hcolon
      obtain ⟨g', v, hg', hv, rfl⟩ := exists_valueText_of_skipValue hskip
      refine ⟨g, g', v, hg, hg', rfl, _, .unknown ?_ hv, rfl, by simp [Update.none]⟩
      intro hname
      obtain ⟨s, hs, rfl⟩ := List.mem_map.mp hname
      obtain ⟨f, hf, hfit⟩ := exists_of_forall₂ hfits hs
      exact List.find?_eq_none.mp hfind f hf (beq_iff_eq.mpr hfit.name)
  | some f =>
      simp only [member, hfind] at h
      split_ifs at h with hgiven
      obtain ⟨⟨put, rest'⟩, hvalue, hdone⟩ := exists_of_bind_ok h
      obtain ⟨rfl, rfl⟩ := Prod.mk.inj (Except.ok.inj hdone)
      obtain ⟨g, behind, hg, rfl, hread⟩ := exists_value_of_memberValue hvalue
      obtain ⟨s, hs, hfit⟩ := exists_of_forall₂ hfits.flip (List.mem_of_find?_eq_some hfind)
      obtain ⟨g', v, hg', hv, rfl⟩ := hfit.takes _ _ _ _ hread
      have hname : name = s.name := by
        rw [← hfit.name]
        have hfound := List.find?_some hfind
        exact (eq_of_beq hfound).symm
      subst hname
      exact ⟨g, g', v, hg, hg', rfl, _, .known hs hv, rfl, by simpa using hgiven⟩

/-- Members with their updates. -/
abbrev Gifts (ρ : Type) := List ((String × List Char) × Update ρ)

/-- The fields that are given. -/
def Gifts.names (gifts : Gifts ρ) : List String := gifts.flatMap fun e => e.2.names

/-- What the updates make of a draft. -/
def Gifts.put (gifts : Gifts ρ) (d : ρ) : ρ := gifts.foldl (fun d e => e.2.put d) d

theorem exists_gifts_of_chain {names : List String} {ss : List (Shape ρ)}
    {ms : List (String × List Char)} {p p' : Progress ρ} (h : Chain (Takeover names ss) ms p p') :
    ∃ gifts : Gifts ρ, gifts.map Prod.fst = ms ∧ (∀ e ∈ gifts, Taken names ss e.1 e.2) ∧
      gifts.names.Nodup ∧ p'.1 = gifts.put p.1 ∧
      (∀ name, name ∈ p'.2 ↔ name ∈ gifts.names ∨ name ∈ p.2) ∧
      ∀ name ∈ gifts.names, name ∉ p.2 := by
  induction h with
  | nil p =>
      exact ⟨[], rfl, by simp, List.nodup_nil, rfl, by simp [Gifts.names], by simp [Gifts.names]⟩
  | @cons m ms p p₁ p' hstep _ ih =>
      obtain ⟨u, hu, rfl, hnew⟩ := hstep
      obtain ⟨gifts, hms, htaken, hnodup, hdraft, hnames, hfresh⟩ := ih
      refine ⟨(m, u) :: gifts, ?_, List.forall_mem_cons.mpr ⟨hu, htaken⟩, ?_, hdraft, ?_, ?_⟩
      · rw [List.map_cons, hms]
      · refine List.nodup_append.mpr ⟨?_, hnodup, ?_⟩
        · cases hu with
          | known => exact List.nodup_cons.mpr ⟨List.not_mem_nil, List.nodup_nil⟩
          | unknown => exact List.nodup_nil
        · rintro name hname _ hother rfl
          exact hfresh name hother (List.mem_append_left _ hname)
      · intro name
        rw [hnames, Update.apply, List.mem_append, Gifts.names, Gifts.names, List.flatMap_cons,
          List.mem_append]
        tauto
      · intro name hname
        rcases List.mem_append.mp hname with hname | hname
        · exact hnew name hname
        · exact fun hgiven => hfresh name hname (List.mem_append_right _ hgiven)

/-- An update may be made before those with which it commutes. -/
theorem Gifts.put_move {before behind : Gifts ρ} {e : (String × List Char) × Update ρ}
    (h : ∀ w ∈ before, w.2.Commutes e.2) (d : ρ) :
    Gifts.put (before ++ e :: behind) d = Gifts.put (before ++ behind) (e.2.put d) := by
  induction before generalizing d with
  | nil => rfl
  | cons w before ih =>
      obtain ⟨hw, hbefore⟩ := List.forall_mem_cons.mp h
      have hrest := ih hbefore (w.2.put d)
      rw [hw d] at hrest
      exact hrest

/-- Gifts of unknown names leave the draft as it is. -/
theorem Gifts.put_unknown {gifts : Gifts ρ} (h : ∀ e ∈ gifts, e.2 = .none) (d : ρ) :
    gifts.put d = d := by
  induction gifts generalizing d with
  | nil => rfl
  | cons e gifts ih =>
      obtain ⟨he, hgifts⟩ := List.forall_mem_cons.mp h
      rw [Gifts.put, List.foldl_cons, he]
      exact ih hgifts d

section Sorting

variable {names : List String} {s : Shape ρ} {ss : List (Shape ρ)}

/-- A member that does not give the first field gives one of the others, or none. -/
theorem Taken.other {m : String × List Char} {u : Update ρ} (h : Taken names (s :: ss) m u)
    (hother : s.name ∉ u.names) : Taken names ss m u := by
  cases h with
  | known hs hv =>
      rcases List.mem_cons.mp hs with rfl | hs
      · exact absurd (List.mem_singleton_self _) hother
      · exact .known hs hv
  | unknown hname hv => exact .unknown hname hv

/-- A member that gives the first field. -/
theorem Taken.first {m : String × List Char} {u : Update ρ} (h : Taken names (s :: ss) m u)
    (hnew : s.name ∉ ss.map (·.name)) (hfirst : s.name ∈ u.names) :
    ∃ v put, s.spells put v ∧ m = (s.name, v) ∧ u = ⟨[s.name], put⟩ := by
  cases h with
  | @known s' put v hs hv =>
      have hname : s.name = s'.name := List.mem_singleton.mp hfirst
      rcases List.mem_cons.mp hs with rfl | hs
      · exact ⟨v, put, hv, rfl, rfl⟩
      · exact absurd (List.mem_map.mpr ⟨s', hs, hname.symm⟩) hnew
  | unknown => exact absurd hfirst List.not_mem_nil

/-- A value of the first field may be put into a draft before those of the others. -/
theorem Taken.commutes {m : String × List Char} {u : Update ρ} (h : Taken names ss m u)
    (hcommute : ∀ s' ∈ ss, s.Commutes s') {put : ρ → ρ} {v : List Char} (hv : s.spells put v) :
    u.Commutes ⟨[s.name], put⟩ := by
  intro d
  cases h with
  | known hs hv' => exact (hcommute _ hs _ _ _ _ hv hv' d).symm
  | unknown => rfl

/-- The member that gives the first field, taken out of the others. -/
theorem exists_giver {gifts : Gifts ρ} (htaken : ∀ e ∈ gifts, Taken names (s :: ss) e.1 e.2)
    (hnodup : gifts.names.Nodup) (hnew : s.name ∉ ss.map (·.name)) (hgiven : s.name ∈ gifts.names) :
    ∃ before behind v put, gifts = before ++ ((s.name, v), ⟨[s.name], put⟩) :: behind ∧
      s.spells put v ∧ (∀ e ∈ before ++ behind, Taken names ss e.1 e.2) ∧
      (Gifts.names (before ++ behind)).Nodup ∧
      ∀ name ∈ gifts.names, name ≠ s.name → name ∈ Gifts.names (before ++ behind) := by
  obtain ⟨⟨m, u⟩, he, hname⟩ := List.mem_flatMap.mp hgiven
  obtain ⟨before, behind, rfl⟩ := List.append_of_mem he
  obtain ⟨v, put, hv, rfl, rfl⟩ := (htaken _ he).first hnew hname
  have hsplit : Gifts.names (before ++ ((s.name, v), ⟨[s.name], put⟩) :: behind) =
      Gifts.names before ++ s.name :: Gifts.names behind := by
    simp [Gifts.names]
  have happend : Gifts.names (before ++ behind) = Gifts.names before ++ Gifts.names behind :=
    List.flatMap_append
  rw [hsplit, List.nodup_middle, ← happend] at hnodup
  obtain ⟨honce, hnodup⟩ := List.nodup_cons.mp hnodup
  refine ⟨before, behind, v, put, rfl, hv, ?_, hnodup, ?_⟩
  · intro w hw
    refine (htaken w ?_).other fun hmem => honce (List.mem_flatMap.mpr ⟨w, hw, hmem⟩)
    exact List.perm_middle.mem_iff.mpr (List.mem_cons_of_mem _ hw)
  · intro name hmem hother
    rw [hsplit, List.perm_middle.mem_iff, ← happend] at hmem
    exact (List.mem_cons.mp hmem).resolve_left hother

/-- **The members of an object in the order of the fields.** What is left over has other names. -/
theorem exists_filled {gifts : Gifts ρ} (htaken : ∀ e ∈ gifts, Taken names ss e.1 e.2)
    (hnodup : gifts.names.Nodup) (hdistinct : (ss.map (·.name)).Nodup)
    (hcommute : ss.Pairwise Shape.Commutes)
    (hrequired : ∀ s ∈ ss, s.optional = false → s.name ∈ gifts.names) (d : ρ) :
    ∃ known extra, (gifts.map Prod.fst).Perm (known ++ extra) ∧
      (∀ m ∈ extra, m.1 ∉ names ∧ ValueText m.2) ∧ Filled ss known d (gifts.put d) := by
  induction ss generalizing gifts d with
  | nil =>
      have hunknown : ∀ e ∈ gifts, (e.1.1 ∉ names ∧ ValueText e.1.2) ∧ e.2 = .none := by
        rintro ⟨m, u⟩ he
        cases htaken _ he with
        | known hs => exact absurd hs List.not_mem_nil
        | unknown hname hv => exact ⟨⟨hname, hv⟩, rfl⟩
      refine ⟨[], gifts.map Prod.fst, .refl _, ?_, ?_⟩
      · intro m hm
        obtain ⟨e, he, rfl⟩ := List.mem_map.mp hm
        exact (hunknown e he).1
      · rw [Gifts.put_unknown fun e he => (hunknown e he).2]
        exact .nil d
  | cons s ss ih =>
      obtain ⟨hfirst, hothers⟩ := List.pairwise_cons.mp hcommute
      obtain ⟨hnew, hdistinctOthers⟩ := List.nodup_cons.mp hdistinct
      by_cases hgiven : s.name ∈ gifts.names
      · obtain ⟨before, behind, v, put, rfl, hv, hrest, hnodup, hothersGiven⟩ :=
          exists_giver htaken hnodup hnew hgiven
        have hneeded : ∀ s' ∈ ss, s'.optional = false →
            s'.name ∈ Gifts.names (before ++ behind) := by
          intro s' hs' hoptional
          refine hothersGiven _ (hrequired s' (List.mem_cons_of_mem _ hs') hoptional) ?_
          exact fun heq => hnew (List.mem_map.mpr ⟨s', hs', heq⟩)
        obtain ⟨known, extra, hperm, hextra, hfilled⟩ :=
          ih hrest hnodup hdistinctOthers hothers hneeded (put d)
        refine ⟨(s.name, v) :: known, extra, ?_, hextra, ?_⟩
        · rw [List.map_append, List.map_cons]
          refine List.perm_middle.trans (.cons _ ?_)
          rwa [← List.map_append]
        · -- The value of the first field may be put in first, as the updates commute.
          have hcommutes : ∀ w ∈ before, w.2.Commutes ⟨[s.name], put⟩ := fun w hw =>
            (hrest w (List.mem_append_left _ hw)).commutes hfirst hv
          rw [Gifts.put_move hcommutes]
          exact .given hv hfilled
      · have hrest : ∀ e ∈ gifts, Taken names ss e.1 e.2 := fun e he =>
          (htaken e he).other fun hmem => hgiven (List.mem_flatMap.mpr ⟨e, he, hmem⟩)
        obtain ⟨known, extra, hperm, hextra, hfilled⟩ := ih hrest hnodup hdistinctOthers hothers
          (fun s' hs' => hrequired s' (List.mem_cons_of_mem _ hs')) d
        have hoptional : s.optional = true := by
          by_contra hneeded
          exact hgiven (hrequired s (List.mem_cons_self ..) (Bool.eq_false_iff.mpr hneeded))
        exact ⟨known, extra, hperm, hextra, .left hoptional hfilled⟩

end Sorting

/-- What is not missing is given. -/
theorem mem_of_missing?_eq_none {given : List String} (h : r.missing? given = Option.none) :
    ∀ f ∈ r.fields, f.optional = false → f.name ∈ given := by
  intro f hf hoptional
  rw [missing?, Option.map_eq_none_iff, List.find?_eq_none] at h
  have hgiven := h f hf
  simpa [hoptional] using hgiven

/-- **What a record takes.** It is an object or an array, and its values make the result of a blank
draft. -/
theorem takes_record {ss : List (Shape ρ)} (hfits : List.Forall₂ Fits r.fields ss)
    (hdistinct : (ss.map (·.name)).Nodup) (hcommute : ss.Pairwise Shape.Commutes) :
    Takes r.reader fun a v =>
      ∃ known, Filled ss known r.blank a ∧ RecordText (ss.map (·.name)) known v := by
  intro budget cs a rest h
  obtain ⟨g, c, behind, hg, rfl, hread⟩ := exists_of_atFront h
  split_ifs at hread with hlist hobject
  · obtain ⟨inner, -, hfields⟩ := exists_of_bind_ok (Option.some.inj hread)
    obtain ⟨known, t, hfilled, hprefix, hentries, rfl⟩ := exists_filled_of_readFields hfits hfields
    refine ⟨g, _, hg, ⟨known, hfilled, .listed hprefix (hentries.bracketed '[' ']')⟩, ?_⟩
    simp [eq_of_beq hlist]
  · obtain ⟨inner, -, hmembers⟩ := exists_of_bind_ok (Option.some.inj hread)
    obtain ⟨⟨⟨draft, given⟩, behind'⟩, hread, hcomplete⟩ := exists_of_bind_ok hmembers
    obtain ⟨ms, items, t, hitems, hentries, rfl, hchain⟩ :=
      exists_entries_of_readMembers (fun _ _ _ _ _ => takeover_of_member hfits) hread
    obtain ⟨gifts, rfl, htaken, hnodup, hdraft, hnames, -⟩ := exists_gifts_of_chain hchain
    cases hmissing : r.missing? given with
    | some name => simp [hmissing] at hcomplete
    | none =>
        simp only [hmissing] at hcomplete
        obtain ⟨rfl, rfl⟩ := Prod.mk.inj (Except.ok.inj hcomplete)
        have hrequired : ∀ s ∈ ss, s.optional = false → s.name ∈ gifts.names := by
          intro s hs hoptional
          obtain ⟨f, hf, hfit⟩ := exists_of_forall₂ hfits hs
          have hgiven := mem_of_missing?_eq_none hmissing f hf (hfit.optional.trans hoptional)
          rw [hfit.name, hnames] at hgiven
          exact hgiven.resolve_right List.not_mem_nil
        obtain ⟨known, extra, hperm, hextra, hfilled⟩ :=
          exists_filled htaken hnodup hdistinct hcommute hrequired r.blank
        rw [← hdraft] at hfilled
        have htext : ObjectWith (ss.map (·.name)) known ('\x7b' :: t ++ ['\x7d']) :=
          ⟨extra, _, hextra, hperm, items, hitems, hentries.bracketed _ _⟩
        refine ⟨g, _, hg, ⟨known, hfilled, .object htext⟩, ?_⟩
        simp [eq_of_beq hobject]

end Record
end LintRelay.Json
