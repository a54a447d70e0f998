import LintRelay.Proofs.Json.Reading
import LintRelay.Proofs.Json.Spelling

/-!
# What is passed over is a value

The converse of passing over values: whatever a reader passes over is the text of one value
(`exists_valueText_of_skipValue`). The walk has no value in hand, only the stack of the brackets
that are open. `Closes` is what has to follow for that stack: the rest of the innermost bracket,
then the rest of the one around it, and so on. A step takes a scalar or an opening bracket off the
front; what follows an opening bracket closes it, and so the bracket with its items is a value
again.
-/

namespace LintRelay.Json

/-! ## Items in brackets -/

/-- The items of a bracket from one spot to its end, each behind what leads to it. -/
inductive Entries : Bool → List (List Char) → List Char → Prop
  | done {first : Bool} {g : List Char} : Gap g → Entries first [] g
  | item {first : Bool} {lead g v more : List Char} {vs : List (List Char)} :
      Lead first lead → Gap g → Entries false vs more →
      Entries first (v :: vs) (lead ++ (g ++ v ++ more))

/-- An item with those behind it. -/
theorem Entries.itemsText {vs : List (List Char)} {more : List Char} (hmore : Entries false vs more)
    {g : List Char} (hg : Gap g) (v : List Char) : ItemsText (v :: vs) (g ++ v ++ more) := by
  induction vs generalizing more g v with
  | nil =>
      cases hmore with
      | done hafter => exact .one hg hafter
  | cons w vs ih =>
      cases hmore with
      | item hlead hbefore hothers =>
          cases hlead with
          | comma hafter =>
              have htext := ItemsText.more (v := v) hg hafter (ih hothers hbefore w)
              simpa using htext

theorem Entries.bracketed {vs : List (List Char)} {t : List Char} (h : Entries true vs t)
    (opening closing : Char) : Bracketed opening closing vs (opening :: t ++ [closing]) := by
  cases h with
  | done hg => exact .empty hg
  | item hlead hg hmore =>
      cases hlead with
      | first => exact .items (hmore.itemsText hg _)

/-- What stands in a bracket: a value in an array, a name with a value in an object. -/
inductive ItemText : Bracket → List Char → Prop
  | value {v : List Char} : ValueText v → ItemText .array v
  | member {n v item : List Char} :
      LooseText n → ValueText v → MemberText (n, v) item → ItemText .object item

/-- What follows an item inside open brackets: their ends, and behind them what is left. -/
inductive Closes : List Bracket → List Char → List Char → Prop
  | nil (rest : List Char) : Closes [] rest rest
  | cons {b : Bracket} {bs : List Bracket} {items : List (List Char)} {more cs rest : List Char} :
      Entries false items more → (∀ i ∈ items, ItemText b i) → Closes bs cs rest →
      Closes (b :: bs) (more ++ b.close :: cs) rest

/-- What follows where the next item of the innermost bracket stands, or nothing is open. -/
def Goes (bs : List Bracket) (cs rest : List Char) : Prop :=
  match bs with
  | [] => cs = rest
  | b :: bs => ∃ g item cs', Gap g ∧ ItemText b item ∧ cs = g ++ item ++ cs' ∧
      Closes (b :: bs) cs' rest

theorem exists_pairs {items : List (List Char)} (h : ∀ i ∈ items, ItemText .object i) :
    ∃ ps, List.Forall₂ MemberText ps items ∧ (∀ p ∈ ps, LooseText p.1) ∧
      ∀ p ∈ ps, ValueText p.2 := by
  induction items with
  | nil => exact ⟨[], .nil, by simp, by simp⟩
  | cons item items ih =>
      obtain ⟨hitem, hitems⟩ := List.forall_mem_cons.mp h
      obtain ⟨ps, hps, hnames, hvalues⟩ := ih hitems
      cases hitem with
      | @member n v _ hn hv hmember =>
          exact ⟨(n, v) :: ps, .cons hmember hps, List.forall_mem_cons.mpr ⟨hn, hnames⟩,
            List.forall_mem_cons.mpr ⟨hv, hvalues⟩⟩

/-- A bracket with its items is a value. -/
theorem valueText_of_bracketed {b : Bracket} {items : List (List Char)} {cs : List Char}
    (h : Bracketed b.opening b.close items cs) (hitems : ∀ i ∈ items, ItemText b i) :
    ValueText cs := by
  cases b with
  | array =>
      refine .array h fun v hv => ?_
      cases hitems v hv with
      | value hvalue => exact hvalue
  | object =>
      obtain ⟨ps, hps, hnames, hvalues⟩ := exists_pairs hitems
      exact .object ⟨items, hps, h⟩ hnames hvalues

/-! ## Steps -/

/-- What is passed over at one spot is a scalar or an opening bracket. -/
theorem cases_of_passOne {cs : List Char} {p : Passed} (h : passOne cs = .ok p) :
    (∃ g v rest, Gap g ∧ ValueText v ∧ cs = g ++ v ++ rest ∧ p = .scalar rest) ∨
      ∃ g b rest, Gap g ∧ cs = g ++ Bracket.opening b :: rest ∧ p = .opened b rest := by
  unfold passOne at h
  split at h
  · simp at h
  · rename_i c cs' hskip
    obtain ⟨g, hg, rfl⟩ := exists_gap_cons hskip
    have scalar : ∀ {v rest : List Char} {x : OrError (List Char)},
        (x.bind fun rest => Except.ok (Passed.scalar rest)) = .ok p → x = .ok rest →
        ValueText v → c :: cs' = v ++ rest →
        ∃ g' v rest, Gap g' ∧ ValueText v ∧ g ++ c :: cs' = g' ++ v ++ rest ∧ p = .scalar rest := by
      intro v rest x hstep hx hv hcs
      rw [hx] at hstep
      exact ⟨g, v, rest, hg, hv, by rw [hcs, List.append_assoc], (Except.ok.inj hstep).symm⟩
    have word : ∀ {w : List Char},
        ((expectWord w cs').bind fun rest => Except.ok (Passed.scalar rest)) = .ok p →
        ValueText (c :: w) →
        ∃ g' v rest, Gap g' ∧ ValueText v ∧ g ++ c :: cs' = g' ++ v ++ rest ∧ p = .scalar rest := by
      intro w hstep hv
      obtain ⟨rest, hword, -⟩ := exists_of_bind_ok hstep
      exact scalar hstep hword hv (by rw [eq_of_expectWord hword, List.cons_append])
    split_ifs at h with hn ht hf hminus hdigit hquote harray hobject
    · exact .inl (word h (eq_of_beq hn ▸ .null))
    · exact .inl (word h (eq_of_beq ht ▸ .true))
    · exact .inl (word h (eq_of_beq hf ▸ .false))
    · obtain ⟨rest, hnumber, -⟩ := exists_of_bind_ok h
      obtain ⟨t, htext, hcs⟩ := exists_unsignedText_of_skipNumber hnumber
      exact .inl (scalar h hnumber (.negative htext)
        (by rw [eq_of_beq hminus, hcs, List.cons_append]))
    · obtain ⟨rest, hnumber, -⟩ := exists_of_bind_ok h
      obtain ⟨t, htext, hcs⟩ := exists_unsignedText_of_skipNumber hnumber
      exact .inl (scalar h hnumber (.unsigned htext) hcs)
    · obtain ⟨rest, hstring, -⟩ := exists_of_bind_ok h
      obtain ⟨t, htext, hcs⟩ := looseText_of_skipString hstring
      exact .inl (scalar h hstring (.string htext) (by rw [eq_of_beq hquote, hcs]))
    · exact .inr ⟨g, .array, cs', hg, by rw [eq_of_beq harray]; rfl, (Except.ok.inj h).symm⟩
    · exact .inr ⟨g, .object, cs', hg, by rw [eq_of_beq hobject]; rfl, (Except.ok.inj h).symm⟩

theorem exists_colon_of_expectColon {cs rest : List Char} (h : expectColon cs = .ok rest) :
    ∃ g, Gap g ∧ cs = g ++ ':' :: rest := by
  unfold expectColon at h
  split at h
  · simp at h
  · rename_i c cs' hskip
    obtain ⟨g, hg, rfl⟩ := exists_gap_cons hskip
    split_ifs at h with hcolon
    rw [eq_of_beq hcolon, Except.ok.inj h]
    exact ⟨g, hg, rfl⟩

theorem exists_name_of_passName {cs rest : List Char} (h : passName cs = .ok rest) :
    ∃ g n g', Gap g ∧ LooseText n ∧ Gap g' ∧ cs = g ++ n ++ g' ++ ':' :: rest := by
  unfold passName at h
  split at h
  · simp at h
  · rename_i c cs' hskip
    obtain ⟨g, hg, rfl⟩ := exists_gap_cons hskip
    split_ifs at h with hquote
    obtain ⟨behind, hstring, hcolon⟩ := exists_of_bind_ok h
    obtain ⟨n, hn, hcs⟩ := looseText_of_skipString hstring
    obtain ⟨g', hg', rfl⟩ := exists_colon_of_expectColon hcolon
    refine ⟨g, n, g', hg, hn, hg', ?_⟩
    rw [eq_of_beq hquote, hcs]
    simp only [List.append_assoc]

/-- The ends that follow close their brackets, up to the next item. -/
theorem closes_of_closeBrackets {bs bs' : List Bracket} {cs cs' rest : List Char}
    (h : closeBrackets bs true cs = .ok (bs', cs')) (hgoes : Goes bs' cs' rest) :
    Closes bs cs rest := by
  induction bs generalizing cs with
  | nil =>
      obtain ⟨rfl, rfl⟩ := Prod.mk.inj (Except.ok.inj h)
      obtain rfl : cs = rest := hgoes
      exact .nil cs
  | cons b bs ih =>
      unfold closeBrackets at h
      split at h
      · simp at h
      · rename_i c behind hskip
        obtain ⟨g, hg, rfl⟩ := exists_gap_cons hskip
        split_ifs at h with hcomma hclose hafter
        · obtain ⟨rfl, rfl⟩ := Prod.mk.inj (Except.ok.inj h)
          obtain ⟨g', item, behind', hg', hitem, rfl, hcloses⟩ := hgoes
          simp only [Bool.and_true, beq_iff_eq] at hcomma
          cases hcloses with
          | cons hmore hitems hothers =>
              have hcloses := Closes.cons (.item (.comma hg) hg' hmore)
                (List.forall_mem_cons.mpr ⟨hitem, hitems⟩) hothers
              simpa [hcomma] using hcloses
        · rw [eq_of_beq hclose]
          exact .cons (.done hg) (by simp) (ih h)
        · exact absurd rfl hafter

/-- What is passed over inside open brackets is a value, and what follows closes them. -/
theorem exists_valueText_of_skipFrom {fuel : Nat} {bs : List Bracket} {cs rest : List Char}
    (h : skipFrom fuel bs cs = .ok rest) :
    ∃ g v cs', Gap g ∧ ValueText v ∧ cs = g ++ v ++ cs' ∧ Closes bs cs' rest := by
  induction fuel generalizing bs cs with
  | zero => simp [skipFrom] at h
  | succ fuel ih =>
      have goes : ∀ {bs : List Bracket} {cs : List Char}, proceed fuel bs cs = .ok rest →
          Goes bs cs rest := by
        intro bs cs hproceed
        cases bs with
        | nil => exact Except.ok.inj hproceed
        | cons b bs =>
            cases b with
            | array =>
                obtain ⟨g, v, cs', hg, hv, hcs, hcloses⟩ := ih hproceed
                exact ⟨g, v, cs', hg, .value hv, hcs, hcloses⟩
            | object =>
                obtain ⟨behind, hname, hskip⟩ := exists_of_bind_ok hproceed
                obtain ⟨g, n, g', hg, hn, hg', rfl⟩ := exists_name_of_passName hname
                obtain ⟨g'', v, cs', hg'', hv, rfl, hcloses⟩ := ih hskip
                exact ⟨g, _, cs', hg, .member hn hv (.member hg' hg''), by simp, hcloses⟩
      have closes : ∀ {bs : List Bracket} {cs : List Char}, resume fuel bs cs = .ok rest →
          Closes bs cs rest := by
        intro bs cs hresume
        obtain ⟨p, hclose, hproceed⟩ := exists_of_bind_ok hresume
        exact closes_of_closeBrackets hclose (goes hproceed)
      cases hpass : passOne cs with
      | error e => simp [skipFrom, hpass, bind, Except.bind] at h
      | ok p =>
          rcases cases_of_passOne hpass with
            ⟨g, v, cs', hg, hv, rfl, rfl⟩ | ⟨g, b, cs', hg, rfl, rfl⟩
          · rw [skipFrom_scalar hpass] at h
            exact ⟨g, v, cs', hg, hv, rfl, closes h⟩
          · -- An opening bracket: it ends at once, or its first item follows.
            rw [skipFrom_opened hpass] at h
            obtain ⟨p, hclose, hproceed⟩ := exists_of_bind_ok h
            unfold closeBrackets at hclose
            split at hclose
            · simp at hclose
            · rename_i c behind hskip
              obtain ⟨g', hg', rfl⟩ := exists_gap_cons hskip
              simp only [Bool.and_false, Bool.false_eq_true, if_false] at hclose
              split_ifs at hclose with hend
              · refine ⟨g, _, behind, hg,
                  valueText_of_bracketed (b := b) (.empty hg') (by simp), ?_,
                  closes_of_closeBrackets hclose (goes hproceed)⟩
                simp [eq_of_beq hend]
              · obtain rfl := Except.ok.inj hclose
                obtain ⟨g'', item, cs'', hg'', hitem, hcs, hcloses⟩ := goes hproceed
                cases hcloses with
                | cons hmore hitems hothers =>
                    have htext : Entries true (item :: _) _ :=
                      .item .first (hg'.append hg'') hmore
                    refine ⟨g, _, _, hg, valueText_of_bracketed (htext.bracketed _ _)
                      (List.forall_mem_cons.mpr ⟨hitem, hitems⟩), ?_, hothers⟩
                    dsimp only at hcs
                    simp [hcs]

/-- **Whatever is passed over is the text of one value.** -/
theorem exists_valueText_of_skipValue {cs rest : List Char} (h : skipValue cs = .ok rest) :
    ∃ g v, Gap g ∧ ValueText v ∧ cs = g ++ v ++ rest := by
  obtain ⟨g, v, cs', hg, hv, rfl, hcloses⟩ := exists_valueText_of_skipFrom h
  cases hcloses with
  | nil => exact ⟨g, v, hg, hv, rfl⟩

end LintRelay.Json
