import LintRelay.Proofs.Json.Skipping
import Mathlib.Data.List.Nodup
import Mathlib.Data.List.Pairwise
import Mathlib.Data.List.Perm.Basic

/-!
# Readers on the texts of their values

`Reads read budget v a` says that a reader takes the text `v` as `a`, whatever blanks stand before
it and whatever follows. Each kind of reader has one lemma for it; those of lists and records are
about any readers of their parts.

A record is read from an object with its members in any order. Each member changes the draft by its
`Update`, and the updates of different fields commute, so the draft depends only on which members
there are (`reads_object`).
-/

namespace LintRelay.Json

variable {α β σ ρ : Type}

/-- Whether a reader takes `v` as `a`. -/
structure Reads (read : Reader α) (budget : Nat) (v : List Char) (a : α) : Prop where
  begins : Begins v
  reads : ∀ g rest, Gap g → Ends rest → read budget (g ++ v ++ rest) = .ok (a, rest)

theorem Reads.here {read : Reader α} {budget : Nat} {v : List Char} {a : α}
    (h : Reads read budget v a) {rest : List Char} (hrest : Ends rest) :
    read budget (v ++ rest) = .ok (a, rest) :=
  h.reads [] rest Gap.nil hrest

theorem atFront_value {g : List Char} {c : Char} (hg : Gap g) (hc : isGap c = false)
    (cs : List Char) {read : Char → List Char → Option (OrError (α × List Char))}
    {step : OrError (α × List Char)} (hread : read c cs = some step) (expected : String) :
    atFront (g ++ c :: cs) read expected = step := by
  rw [atFront, skipGap_value hg hc]
  dsimp only
  rw [hread]

/-! ## Scalars -/

theorem StringText.reads {s : String} {v : List Char} (h : StringText s v) (budget : Nat) :
    Reads .string budget v s := by
  obtain ⟨body, hbody, rfl⟩ := h
  refine ⟨⟨_, _, rfl, .inl (by decide)⟩, ?_⟩
  intro g rest hg _
  rw [List.append_assoc, Reader.string]
  refine atFront_value hg rfl _ ?_ _
  show some ((readString .text (body ++ ['"'] ++ rest)).bind _) = _
  rw [List.append_assoc]
  show some ((readString .text (body ++ '"' :: rest)).bind _) = _
  rw [readString_chars hbody]
  show some (Except.ok (String.ofList s.toList, rest)) = _
  rw [String.ofList_toList]

theorem NaturalText.reads {n : Nat} {v : List Char} (h : NaturalText n v) {expected : String}
    {greatest : Nat} (hn : n ≤ greatest) (hgreatest : greatest ≤ greatestNatural) (budget : Nat) :
    Reads (.natural expected greatest) budget v n := by
  obtain ⟨d, ds, rfl, hd⟩ := h.1.begins_digit
  refine ⟨⟨d, ds, rfl, .inr hd⟩, ?_⟩
  intro g rest hg hrest
  have hminus : (d == '-') = false := by
    refine beq_false_of_ne ?_
    rintro rfl
    exact absurd hd (by decide)
  have hdigit : (digitValue? d).isSome = true := by rw [digitValue?_eq, if_pos hd]; rfl
  have hread : readNumber false (d :: (ds ++ rest)) = .ok (.integer n, rest) :=
    readNumber_natural h (Nat.le_trans hn hgreatest) hrest
  have hrange : Number.natural expected greatest (.integer n) = .ok n := by
    simp [Number.natural, hn]
  rw [List.append_assoc, List.cons_append, Reader.natural]
  refine atFront_value hg (isGap_of_isDigit hd) _ ?_ _
  rw [hminus, hdigit, hread]
  simp only [bind, Except.bind, hrange]
  rfl

theorem reads_null (read : Reader α) (budget : Nat) :
    Reads (.nullable read) budget ['n', 'u', 'l', 'l'] none := by
  refine ⟨⟨_, _, rfl, .inl (by decide)⟩, ?_⟩
  intro g rest hg _
  rw [List.append_assoc, Reader.nullable, skipGap_append hg]
  rfl

theorem Reads.nullable {read : Reader α} {budget : Nat} {v : List Char} {a : α}
    (h : Reads read budget v a) (hnull : v.head? ≠ some 'n') :
    Reads (.nullable read) budget v (some a) := by
  refine ⟨h.begins, ?_⟩
  intro g rest hg hrest
  have hhere := h.here hrest
  obtain ⟨c, cs, rfl, hc⟩ := h.begins
  have hne : c ≠ 'n' := fun heq => hnull (congrArg some heq)
  rw [List.append_assoc, List.cons_append, Reader.nullable, skipGap_value hg hc.isGap_eq_false]
  split
  · rename_i heq
    exact absurd (List.cons.inj heq).1 hne
  · rw [List.cons_append] at hhere
    rw [hhere]
    rfl

theorem Reads.map {read : Reader α} {budget : Nat} {v : List Char} {a : α}
    (h : Reads read budget v a) (f : α → β) : Reads (read.map f) budget v (f a) := by
  refine ⟨h.begins, ?_⟩
  intro g rest hg hrest
  rw [Reader.map, h.reads g rest hg hrest]
  rfl

/-! ## Lists -/

/-- What stands before an item: nothing before the first one, a comma before any other. -/
inductive Lead : Bool → List Char → Prop
  | first : Lead true []
  | comma {g : List Char} : Gap g → Lead false (g ++ [','])

theorem nextItem_lead {first : Bool} {lead g : List Char} {c : Char} (hlead : Lead first lead)
    (hg : Gap g) (hc : StartsValue c) (cs : List Char) :
    nextItem first (lead ++ (g ++ c :: cs)) = .ok (.more (c :: cs)) := by
  have hgap := hc.isGap_eq_false
  have hclose : (c == ']') = false := beq_false_of_ne (hc.ne_close .array)
  cases hlead with
  | first =>
      rw [List.nil_append, nextItem, skipGap_value hg hgap]
      simp [hclose]
  | comma hbefore =>
      rw [List.append_assoc, nextItem, List.singleton_append, skipGap_value hbefore rfl]
      simp [skipGap_value hg hgap, hclose]

theorem nextItem_close {g : List Char} (hg : Gap g) (first : Bool) (rest : List Char) :
    nextItem first (g ++ ']' :: rest) = .ok (.closed rest) := by
  rw [nextItem, skipGap_value hg rfl]
  rfl

theorem readItems_items {read : Reader α} {budget : Nat} {vs : List (List Char)} {as : List α}
    {cs : List Char} (h : ItemsText vs cs) (has : List.Forall₂ (Reads read budget) vs as)
    {first : Bool} {lead : List Char} (hlead : Lead first lead) {fuel : Nat}
    (hfuel : vs.length < fuel) (rest : List Char) :
    readItems (read budget) fuel first (lead ++ (cs ++ ']' :: rest)) = .ok (as, rest) := by
  induction h generalizing as first lead fuel with
  | @one g v g' hg hg' =>
      cases has with
      | @cons _ a _ as hv hnone =>
          cases hnone
          obtain ⟨left, rfl⟩ : ∃ left, fuel = left + 2 :=
            ⟨fuel - 2, by simp only [List.length_singleton] at hfuel; omega⟩
          have hends : Ends (g' ++ ']' :: rest) := (Ends.cons (by decide) rest).gap hg'
          have hread := hv.here hends
          obtain ⟨c, t, rfl, hc⟩ := hv.begins
          rw [List.cons_append] at hread
          have hnext := nextItem_lead hlead hg hc (t ++ (g' ++ ']' :: rest))
          simp only [List.append_assoc, List.cons_append]
          rw [readItems, hnext]
          simp only [bind, Except.bind, hread]
          rw [readItems, nextItem_close hg']
          rfl
  | @more g v g' cs vs hg hg' _ ih =>
      cases has with
      | @cons _ a _ as hv hmore =>
          obtain ⟨left, rfl⟩ : ∃ left, fuel = left + 1 := ⟨fuel - 1, by omega⟩
          have hends : Ends (g' ++ ',' :: (cs ++ ']' :: rest)) :=
            (Ends.cons (by decide) _).gap hg'
          have hread := hv.here hends
          have hrest := ih hmore (.comma hg') (Nat.lt_of_succ_lt_succ hfuel)
          obtain ⟨c, t, rfl, hc⟩ := hv.begins
          rw [List.append_assoc, List.singleton_append] at hrest
          rw [List.cons_append] at hread
          have hnext := nextItem_lead hlead hg hc (t ++ (g' ++ ',' :: (cs ++ ']' :: rest)))
          simp only [List.append_assoc, List.cons_append]
          rw [readItems, hnext]
          simp only [bind, Except.bind, hread, hrest]
          rfl

theorem descend_succ {budget : Nat} (h : 0 < budget) : descend (budget + 1) = .ok budget := by
  rw [descend, if_neg (by omega)]
  rfl

theorem ItemsText.length_le {vs : List (List Char)} {cs : List Char} (h : ItemsText vs cs) :
    vs.length ≤ cs.length + 1 := by
  induction h with
  | one => simp
  | more _ _ _ ih =>
      simp only [List.length_cons, List.length_append]
      omega

/-- What follows the opening bracket of an array is read up to its end. -/
theorem readItems_array {read : Reader α} {budget : Nat} {vs : List (List Char)} {as : List α}
    {v : List Char} (h : ArrayText vs v) (has : List.Forall₂ (Reads read budget) vs as) :
    ∃ t, v = '[' :: t ∧ ∀ rest,
      readItems (read budget) ((t ++ rest).length + 1) true (t ++ rest) = .ok (as, rest) := by
  cases h with
  | @empty g hg =>
      cases has
      refine ⟨g ++ [']'], rfl, ?_⟩
      intro rest
      rw [List.append_assoc, List.singleton_append, readItems, nextItem_close hg]
  | @items _ cs hitems =>
      refine ⟨cs ++ [']'], rfl, ?_⟩
      intro rest
      have hlength := hitems.length_le
      have hfuel : vs.length < (cs ++ ']' :: rest).length + 1 := by
        simp only [List.length_append, List.length_cons]
        omega
      rw [List.append_assoc, List.singleton_append]
      exact readItems_items hitems has .first hfuel rest

theorem reads_list {read : Reader α} {budget : Nat} {vs : List (List Char)} {as : List α}
    {v : List Char} (h : ArrayText vs v) (has : List.Forall₂ (Reads read budget) vs as)
    (hbudget : 0 < budget) : Reads (.list read) (budget + 1) v as := by
  obtain ⟨t, rfl, hitems⟩ := readItems_array h has
  refine ⟨⟨_, t, rfl, .inl (by decide)⟩, ?_⟩
  intro g rest hg _
  rw [List.append_assoc, List.cons_append, Reader.list]
  refine atFront_value hg rfl _ ?_ _
  show some ((descend (budget + 1)).bind _) = _
  rw [descend_succ hbudget, ← hitems rest]
  rfl

/-! ## Members -/

/-- What a member does with a state, wherever its colon stands. -/
def Steps (member : σ → String → List Char → OrError (σ × List Char)) (m : String × List Char)
    (s s' : σ) : Prop :=
  ∀ g g' rest, Gap g → Gap g' → Ends rest →
    member s m.1 (g ++ ':' :: (g' ++ (m.2 ++ rest))) = .ok (s', rest)

/-- What members do one after the other. -/
inductive Runs (member : σ → String → List Char → OrError (σ × List Char)) :
    List (String × List Char) → σ → σ → Prop
  | nil (s : σ) : Runs member [] s s
  | cons {m : String × List Char} {ms : List (String × List Char)} {s s' s'' : σ} :
      Steps member m s s' → Runs member ms s' s'' → Runs member (m :: ms) s s''

theorem nextMember_lead {first : Bool} {lead g : List Char} (hlead : Lead first lead) (hg : Gap g)
    (cs : List Char) : nextMember first (lead ++ (g ++ '"' :: cs)) = .ok (.more cs) := by
  cases hlead with
  | first =>
      rw [List.nil_append, nextMember, skipGap_value hg rfl]
      rfl
  | comma hbefore =>
      have hquote : isGap '"' = false := rfl
      rw [List.append_assoc, nextMember, List.singleton_append, skipGap_value hbefore rfl]
      simp [skipGap_value hg hquote]

theorem nextMember_close {g : List Char} (hg : Gap g) (first : Bool) (rest : List Char) :
    nextMember first (g ++ '\x7d' :: rest) = .ok (.closed rest) := by
  rw [nextMember, skipGap_value hg rfl]
  rfl

/-- One more member: its name is read, and then it changes the state. -/
theorem readMembers_step {member : σ → String → List Char → OrError (σ × List Char)}
    {m : String × List Char} {item : List Char} (hitem : NamedText m item) {s s' : σ}
    (hstep : Steps member m s s') {first : Bool} {lead g : List Char} (hlead : Lead first lead)
    (hg : Gap g) {rest : List Char} (hrest : Ends rest) (fuel : Nat) :
    readMembers member (fuel + 1) first s (lead ++ (g ++ (item ++ rest))) =
      readMembers member fuel false s' rest := by
  obtain ⟨_, ⟨body, hbody, rfl⟩, hmember⟩ := hitem
  cases hmember with
  | @member _ before after _ hbefore hafter =>
      have hnext := nextMember_lead hlead hg
        (body ++ '"' :: (before ++ ':' :: (after ++ (m.2 ++ rest))))
      have hmember := hstep before after rest hbefore hafter hrest
      simp only [List.append_assoc, List.cons_append, List.nil_append]
      rw [readMembers, hnext]
      simp only [bind, Except.bind, readString_chars hbody, String.ofList_toList, hmember]

theorem readMembers_items {member : σ → String → List Char → OrError (σ × List Char)}
    {ms : List (String × List Char)} {items : List (List Char)} {cs : List Char} {s s' : σ}
    (h : ItemsText items cs) (hms : List.Forall₂ NamedText ms items) (hruns : Runs member ms s s')
    {first : Bool} {lead : List Char} (hlead : Lead first lead) {fuel : Nat}
    (hfuel : items.length < fuel) (rest : List Char) :
    readMembers member fuel first s (lead ++ (cs ++ '\x7d' :: rest)) = .ok (s', rest) := by
  induction h generalizing ms s first lead fuel with
  | @one g v g' hg hg' =>
      cases hms with
      | cons hm hnone =>
          cases hnone
          cases hruns with
          | cons hstep hdone =>
              cases hdone
              obtain ⟨left, rfl⟩ : ∃ left, fuel = left + 2 :=
                ⟨fuel - 2, by simp only [List.length_singleton] at hfuel; omega⟩
              have hends : Ends (g' ++ '\x7d' :: rest) := (Ends.cons (by decide) rest).gap hg'
              simp only [List.append_assoc]
              rw [readMembers_step hm hstep hlead hg hends, readMembers, nextMember_close hg']
  | @more g v g' cs vs hg hg' _ ih =>
      cases hms with
      | cons hm hmore =>
          cases hruns with
          | cons hstep hothers =>
              obtain ⟨left, rfl⟩ : ∃ left, fuel = left + 1 := ⟨fuel - 1, by omega⟩
              have hends : Ends (g' ++ ',' :: (cs ++ '\x7d' :: rest)) :=
                (Ends.cons (by decide) _).gap hg'
              have hrest := ih hmore hothers (.comma hg') (Nat.lt_of_succ_lt_succ hfuel)
              rw [List.append_assoc, List.singleton_append] at hrest
              simp only [List.append_assoc, List.cons_append]
              rw [readMembers_step hm hstep hlead hg hends, hrest]

/-- What follows the opening bracket of an object is read up to its end. -/
theorem readMembers_object {member : σ → String → List Char → OrError (σ × List Char)}
    {ms : List (String × List Char)} {v : List Char} {s s' : σ} (h : ObjectText ms v)
    (hruns : Runs member ms s s') :
    ∃ t, v = '\x7b' :: t ∧ ∀ rest,
      readMembers member ((t ++ rest).length + 1) true s (t ++ rest) = .ok (s', rest) := by
  obtain ⟨items, hnamed, hbracketed⟩ := h
  cases hbracketed with
  | @empty g hg =>
      cases hnamed
      cases hruns
      refine ⟨g ++ ['\x7d'], rfl, ?_⟩
      intro rest
      rw [List.append_assoc, List.singleton_append, readMembers, nextMember_close hg]
  | @items _ cs htext =>
      refine ⟨cs ++ ['\x7d'], rfl, ?_⟩
      intro rest
      have hlength := htext.length_le
      have hfuel : items.length < (cs ++ '\x7d' :: rest).length + 1 := by
        simp only [List.length_append, List.length_cons]
        omega
      rw [List.append_assoc, List.singleton_append]
      exact readMembers_items htext hnamed hruns .first hfuel rest

/-! ## Records -/

namespace Record

/-- What a member does with a draft: the fields that it gives, by their names, and the change. -/
structure Update (ρ : Type) where
  names : List String
  put : ρ → ρ

/-- The progress after an update. -/
def Update.apply (p : Progress ρ) (u : Update ρ) : Progress ρ := (u.put p.1, u.names ++ p.2)

/-- The update of a member of an unknown name. -/
def Update.none : Update ρ := ⟨[], id⟩

/-- Whether the order of two updates does not matter. -/
def Update.Commutes (u w : Update ρ) : Prop := ∀ d, w.put (u.put d) = u.put (w.put d)

instance : Std.Symm (@Update.Commutes ρ) := ⟨fun _ _ h d => (h d).symm⟩

/-- What a member gives: the value of the field of its name, or nothing if there is no such
field. -/
inductive Gives (r : Record ρ) (budget : Nat) : String × List Char → Update ρ → Prop
  | known {name : String} {text : List Char} {f : Field ρ} {put : ρ → ρ} :
      r.fields.find? (fun f => f.name == name) = some f → Reads f.read budget text put →
      Gives r budget (name, text) ⟨[name], put⟩
  | unknown {name : String} {text : List Char} :
      r.fields.find? (fun f => f.name == name) = Option.none → ValueText text →
      Gives r budget (name, text) .none

variable {r : Record ρ} {budget : Nat}

/-- The usual fields give what their readers read. -/
theorem Gives.of {name : String} {text : List Char} {optional : Bool} {read : Reader α}
    {put : α → ρ → ρ} {a : α}
    (hfind : r.fields.find? (fun f => f.name == name) = some (.of name optional read put))
    (hreads : Reads read budget text a) : r.Gives budget (name, text) ⟨[name], put a⟩ :=
  .known hfind (hreads.map put)

/-- A member that gives what was not given before makes its update. -/
theorem Gives.steps {m : String × List Char} {u : Update ρ} (h : r.Gives budget m u)
    {p : Progress ρ} (hnew : ∀ name ∈ u.names, name ∉ p.2) :
    Steps (r.member budget) m p (u.apply p) := by
  intro g g' rest hg hg' hrest
  cases h with
  | @known name text f put hfind hreads =>
      have hfresh : p.2.contains name = false := by
        simpa using hnew name (List.mem_singleton_self _)
      have hvalue := hreads.reads g' rest hg' hrest
      rw [List.append_assoc] at hvalue
      rw [member]
      dsimp only
      rw [hfind]
      simp only [hfresh, memberValue, expectColon_append hg, bind, Except.bind, hvalue]
      rfl
  | unknown hfind hvalue =>
      have hskip := skipValue_append hg' hvalue hrest
      rw [List.append_assoc] at hskip
      rw [member]
      dsimp only
      rw [hfind]
      simp only [expectColon_append hg, bind, Except.bind, hskip]
      rfl

/-- Members that give every field once make their updates one after the other. -/
theorem runs_of_gives {ms : List (String × List Char)} {us : List (Update ρ)}
    (h : List.Forall₂ (r.Gives budget) ms us) (p : Progress ρ)
    (hnodup : (us.flatMap Update.names).Nodup)
    (hnew : ∀ name ∈ us.flatMap Update.names, name ∉ p.2) :
    Runs (r.member budget) ms p (us.foldl Update.apply p) := by
  induction h generalizing p with
  | nil => exact .nil p
  | @cons m u ms us hm _ ih =>
      rw [List.flatMap_cons] at hnodup hnew
      obtain ⟨-, hothers, hdisjoint⟩ := List.nodup_append.mp hnodup
      refine .cons (hm.steps fun name hname => hnew name (List.mem_append_left _ hname)) ?_
      refine ih (u.apply p) hothers ?_
      intro name hname hgiven
      rcases List.mem_append.mp hgiven with hgiven | hgiven
      · exact hdisjoint name hgiven name hname rfl
      · exact hnew name (List.mem_append_right _ hname) hgiven

theorem foldl_apply_draft (us : List (Update ρ)) (p : Progress ρ) :
    (us.foldl Update.apply p).1 = us.foldl (fun d u => u.put d) p.1 := by
  induction us generalizing p with
  | nil => rfl
  | cons u us ih => exact ih (u.apply p)

theorem mem_foldl_apply_names {us : List (Update ρ)} {p : Progress ρ} {name : String} :
    name ∈ (us.foldl Update.apply p).2 ↔ name ∈ us.flatMap Update.names ∨ name ∈ p.2 := by
  induction us generalizing p with
  | nil => simp
  | cons u us ih =>
      rw [List.foldl_cons, ih, List.flatMap_cons, Update.apply, List.mem_append, List.mem_append]
      tauto

theorem missing?_eq_none {given : List String}
    (h : ∀ f ∈ r.fields, f.optional = false → f.name ∈ given) : r.missing? given = Option.none := by
  rw [missing?, Option.map_eq_none_iff, List.find?_eq_none]
  intro f hf hmissing
  rw [Bool.and_eq_true, Bool.not_eq_true', Bool.not_eq_true', List.contains_eq_mem] at hmissing
  exact absurd (h f hf hmissing.1) (of_decide_eq_false hmissing.2)

theorem names_append_none (us : List (Update ρ)) (extra : List (String × List Char)) :
    (us ++ extra.map fun _ => Update.none).flatMap Update.names = us.flatMap Update.names := by
  rw [List.flatMap_append, List.flatMap_map]
  have hnone : extra.flatMap (fun _ => (Update.none : Update ρ).names) = [] := by
    rw [List.flatMap_eq_nil_iff]
    exact fun _ _ => rfl
  rw [hnone, List.append_nil]

theorem foldl_none (extra : List (String × List Char)) (d : ρ) :
    (extra.map fun _ => Update.none).foldl (fun d u => u.put d) d = d := by
  induction extra with
  | nil => rfl
  | cons m extra ih => exact ih

/-- Updates of which some do nothing commute if the others do. -/
theorem commutes_append_none {us : List (Update ρ)} {extra : List (String × List Char)}
    (h : us.Pairwise Update.Commutes) :
    ∀ u ∈ us ++ extra.map (fun _ => Update.none),
      ∀ w ∈ us ++ extra.map (fun _ => Update.none), u.Commutes w := by
  have hgiven := h.forall_of_forall fun _ _ _ => rfl
  have hnone : ∀ u ∈ extra.map fun _ => (Update.none : Update ρ), u = .none := by
    intro u hu
    obtain ⟨_, _, rfl⟩ := List.mem_map.mp hu
    rfl
  intro u hu w hw
  rcases List.mem_append.mp hu with hu | hu
  · rcases List.mem_append.mp hw with hw | hw
    · exact hgiven hu hw
    · rw [hnone w hw]
      exact fun _ => rfl
  · rw [hnone u hu]
    exact fun _ => rfl

/-- **A record is read from its members in any order.** The members give each field at most once,
and every field that is not optional; others of unknown names may stand among them. The draft is
what the updates make of a blank one. -/
theorem reads_object {known : List (String × List Char)} {us : List (Update ρ)} {v : List Char}
    {a : ρ} (h : ObjectWith (r.fields.map (·.name)) known v)
    (hgives : List.Forall₂ (r.Gives budget) known us)
    (hnodup : (us.flatMap Update.names).Nodup)
    (hcommute : us.Pairwise Update.Commutes)
    (hrequired : ∀ f ∈ r.fields, f.optional = false → f.name ∈ us.flatMap Update.names)
    (hdraft : us.foldl (fun d u => u.put d) r.blank = a) (hbudget : 0 < budget) :
    Reads r.reader (budget + 1) v a := by
  obtain ⟨extra, ms, hextra, hperm, htext⟩ := h
  -- The updates in the order in which the members are written.
  have hall : List.Forall₂ (r.Gives budget) (known ++ extra)
      (us ++ extra.map fun _ => Update.none) := by
    refine List.rel_append hgives ?_
    rw [List.forall₂_map_right_iff, List.forall₂_same]
    intro m hm
    obtain ⟨hname, hvalue⟩ := hextra m hm
    refine .unknown (List.find?_eq_none.mpr fun f hf heq => hname ?_) hvalue
    rw [← eq_of_beq heq]
    exact List.mem_map_of_mem hf
  obtain ⟨written, hwritten, hwrittenPerm⟩ := List.perm_comp_forall₂ hperm hall
  have hnames : (written.flatMap Update.names).Perm (us.flatMap Update.names) := by
    rw [← names_append_none us extra]
    exact hwrittenPerm.flatMap_right _
  have hruns := runs_of_gives hwritten (r.blank, []) (hnames.nodup_iff.mpr hnodup)
    fun _ _ => List.not_mem_nil
  obtain ⟨t, rfl, hread⟩ := readMembers_object htext hruns
  have hresult : (written.foldl Update.apply (r.blank, [])).1 = a := by
    have hsame := hwrittenPerm.symm.foldl_eq' (f := fun (d : ρ) (u : Update ρ) => u.put d)
      (fun u hu w hw d => commutes_append_none hcommute u hu w hw d) r.blank
    rw [foldl_apply_draft, ← hsame, List.foldl_append, foldl_none, hdraft]
  have hmissing : r.missing? (written.foldl Update.apply (r.blank, [])).2 = Option.none :=
    missing?_eq_none fun f hf hneeded => mem_foldl_apply_names.mpr
      (.inl (hnames.mem_iff.mpr (hrequired f hf hneeded)))
  refine ⟨⟨_, t, rfl, .inl (by decide)⟩, ?_⟩
  intro g rest hg _
  rw [List.append_assoc, List.cons_append, Record.reader]
  refine atFront_value hg rfl _ ?_ _
  show some ((descend (budget + 1)).bind fun inner => r.ofObject inner (t ++ rest)) = _
  rw [descend_succ hbudget]
  show some (r.ofObject budget (t ++ rest)) = _
  simp only [ofObject, hread rest, bind, Except.bind, hmissing, hresult]
  rfl

/-! ## Records as lists -/

/-- The values of fields in the order of the fields, and what they make of a draft. Those that are
left over may be left out. -/
inductive Fills (budget : Nat) : List (Field ρ) → List (List Char) → ρ → ρ → Prop
  | left {fs : List (Field ρ)} (d : ρ) : (∀ f ∈ fs, f.optional = true) → Fills budget fs [] d d
  | given {f : Field ρ} {fs : List (Field ρ)} {v : List Char} {vs : List (List Char)}
      {put : ρ → ρ} {d d' : ρ} :
      Reads f.read budget v put → Fills budget fs vs (put d) d' →
      Fills budget (f :: fs) (v :: vs) d d'

theorem Fills.of_nil {fs : List (Field ρ)} {d d' : ρ} (h : Fills budget fs [] d d') :
    d' = d ∧ ∀ f ∈ fs, f.optional = true := by
  cases h with
  | left _ hoptional => exact ⟨rfl, hoptional⟩

theorem readFields_close {fs : List (Field ρ)} (hfs : ∀ f ∈ fs, f.optional = true) (i : Nat) (d : ρ)
    {g : List Char} (hg : Gap g) (rest : List Char) :
    r.readFields budget fs i d (g ++ ']' :: rest) = .ok (d, rest) := by
  induction fs generalizing i with
  | nil => simp only [readFields, nextItem_close hg]
  | cons f fs ih =>
      obtain ⟨hf, hothers⟩ := List.forall_mem_cons.mp hfs
      simp only [readFields, nextItem_close hg, hf, if_true, ih hothers]

theorem readFields_items {fs : List (Field ρ)} {vs : List (List Char)} {cs : List Char}
    (h : ItemsText vs cs) {d d' : ρ} (hfills : Fills budget fs vs d d') {i : Nat}
    {lead : List Char} (hlead : Lead (i == 0) lead) (rest : List Char) :
    r.readFields budget fs i d (lead ++ (cs ++ ']' :: rest)) = .ok (d', rest) := by
  induction h generalizing fs d i lead with
  | @one g v g' hg hg' =>
      cases hfills with
      | given hv hleft =>
          cases hleft with
          | left _ hoptional =>
              have hends : Ends (g' ++ ']' :: rest) := (Ends.cons (by decide) rest).gap hg'
              have hread := hv.here hends
              obtain ⟨c, t, rfl, hc⟩ := hv.begins
              rw [List.cons_append] at hread
              have hnext := nextItem_lead hlead hg hc (t ++ (g' ++ ']' :: rest))
              simp only [List.append_assoc, List.cons_append]
              simp only [readFields, hnext, bind, Except.bind, hread]
              exact readFields_close hoptional (i + 1) _ hg' rest
  | @more g v g' cs vs hg hg' _ ih =>
      cases hfills with
      | given hv hothers =>
          have hends : Ends (g' ++ ',' :: (cs ++ ']' :: rest)) :=
            (Ends.cons (by decide) _).gap hg'
          have hread := hv.here hends
          have hrest := ih hothers (i := i + 1) (.comma hg')
          obtain ⟨c, t, rfl, hc⟩ := hv.begins
          rw [List.append_assoc, List.singleton_append] at hrest
          rw [List.cons_append] at hread
          have hnext := nextItem_lead hlead hg hc (t ++ (g' ++ ',' :: (cs ++ ']' :: rest)))
          simp only [List.append_assoc, List.cons_append]
          simp only [readFields, hnext, bind, Except.bind, hread, hrest]

theorem reads_listed {vs : List (List Char)} {v : List Char} {a : ρ} (h : ArrayText vs v)
    (hfills : Fills budget r.fields vs r.blank a) (hbudget : 0 < budget) :
    Reads r.reader (budget + 1) v a := by
  obtain ⟨t, rfl, hfields⟩ : ∃ t, v = '[' :: t ∧ ∀ rest,
      r.readFields budget r.fields 0 r.blank (t ++ rest) = .ok (a, rest) := by
    cases h with
    | @empty g hg =>
        obtain ⟨rfl, hoptional⟩ := hfills.of_nil
        refine ⟨g ++ [']'], rfl, fun rest => ?_⟩
        rw [List.append_assoc, List.singleton_append]
        exact readFields_close hoptional 0 _ hg rest
    | @items _ cs hitems =>
        refine ⟨cs ++ [']'], rfl, fun rest => ?_⟩
        rw [List.append_assoc, List.singleton_append]
        exact readFields_items (i := 0) hitems hfills .first rest
  refine ⟨⟨_, t, rfl, .inl (by decide)⟩, ?_⟩
  intro g rest hg _
  rw [List.append_assoc, List.cons_append, Record.reader]
  refine atFront_value hg rfl _ ?_ _
  show some ((descend (budget + 1)).bind fun inner =>
    r.readFields inner r.fields 0 r.blank (t ++ rest)) = _
  rw [descend_succ hbudget, ← hfields rest]
  rfl

/-- A member of a known name gives the field of that name. -/
theorem Gives.field {m : String × List Char} {u : Update ρ} (h : r.Gives budget m u) {f : Field ρ}
    (hf : f ∈ r.fields) (hdistinct : (r.fields.map (·.name)).Nodup) (hname : f.name = m.1) :
    ∃ put, u = ⟨[f.name], put⟩ ∧ Reads f.read budget m.2 put := by
  cases h with
  | @known name text f' put hfind hreads =>
      obtain rfl : f = f' := by
        have hname' := List.find?_some hfind
        exact List.inj_on_of_nodup_map hdistinct hf (List.mem_of_find?_eq_some hfind)
          (hname.trans (eq_of_beq hname').symm)
      exact ⟨put, by rw [hname], hreads⟩
  | unknown hfind => exact absurd (beq_iff_eq.mpr hname) (List.find?_eq_none.mp hfind f hf)

/-- Members in the order of the fields fill them. -/
theorem fills_of_gives {known : List (String × List Char)} {us : List (Update ρ)}
    (hgives : List.Forall₂ (r.Gives budget) known us) (hdistinct : (r.fields.map (·.name)).Nodup)
    {fs : List (Field ρ)} (hfs : fs <:+ r.fields) (horder : known.map Prod.fst <+: fs.map (·.name))
    (hrequired : ∀ f ∈ fs, f.optional = false → f.name ∈ us.flatMap Update.names) (d : ρ) :
    Fills budget fs (known.map Prod.snd) d (us.foldl (fun d u => u.put d) d) := by
  induction hgives generalizing fs d with
  | nil =>
      refine .left d fun f hf => ?_
      by_contra hoptional
      exact absurd (hrequired f hf (Bool.eq_false_iff.mpr hoptional)) List.not_mem_nil
  | @cons m u known us hm _ ih =>
      cases fs with
      | nil => exact absurd (List.prefix_nil.mp horder) (by simp)
      | cons f fs =>
          obtain ⟨hname, horder⟩ := List.cons_prefix_cons.mp horder
          obtain ⟨put, rfl, hreads⟩ :=
            hm.field (hfs.mem (List.mem_cons_self ..)) hdistinct hname.symm
          refine .given hreads (ih ((List.suffix_cons f fs).trans hfs) horder ?_ (put d))
          intro f' hf' hneeded
          have hgiven := hrequired f' (List.mem_cons_of_mem _ hf') hneeded
          rw [List.flatMap_cons, List.singleton_append] at hgiven
          refine (List.mem_cons.mp hgiven).resolve_left ?_
          -- The names are distinct, so the first field is none of the others.
          have honce := (hfs.sublist.map (·.name)).nodup hdistinct
          exact fun heq => (List.nodup_cons.mp honce).1 (List.mem_map.mpr ⟨f', hf', heq⟩)

/-- **A record is read in either form.** -/
theorem reads_record {known : List (String × List Char)} {us : List (Update ρ)} {v : List Char}
    {a : ρ} (h : RecordText (r.fields.map (·.name)) known v)
    (hgives : List.Forall₂ (r.Gives budget) known us)
    (hdistinct : (r.fields.map (·.name)).Nodup)
    (hnodup : (us.flatMap Update.names).Nodup)
    (hcommute : us.Pairwise Update.Commutes)
    (hrequired : ∀ f ∈ r.fields, f.optional = false → f.name ∈ us.flatMap Update.names)
    (hdraft : us.foldl (fun d u => u.put d) r.blank = a) (hbudget : 0 < budget) :
    Reads r.reader (budget + 1) v a := by
  cases h with
  | object hobject => exact reads_object hobject hgives hnodup hcommute hrequired hdraft hbudget
  | listed horder harray =>
      have hfills := fills_of_gives hgives hdistinct (List.suffix_refl _) horder hrequired r.blank
      rw [hdraft] at hfills
      exact reads_listed harray hfills hbudget

end Record
end LintRelay.Json
