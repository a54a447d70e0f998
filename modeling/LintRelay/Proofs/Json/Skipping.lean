import LintRelay.Json.Reader
import LintRelay.Proofs.Json.Lexer

/-!
# Passing over values

Passing over a value takes exactly the text of the value, however deep its arrays and objects are
nested (`skipValue_append`). The open brackets are a stack; every step takes a scalar or an opening
bracket and then closes what ends there. So a value inside brackets brings the walk to the state
right after it with the same stack (`PassesOver`), with no more of the bound used up than the value
is long.
-/

namespace LintRelay.Json

/-! ## Beginnings of values -/

theorem StartsValue.isGap_eq_false {c : Char} (h : StartsValue c) : isGap c = false := by
  rcases h with h | h
  · simp only [List.mem_cons, List.not_mem_nil, or_false] at h
    rcases h with rfl | rfl | rfl | rfl | rfl | rfl | rfl <;> rfl
  · exact isGap_of_isDigit h

theorem StartsValue.ne_close {c : Char} (h : StartsValue c) (b : Bracket) : c ≠ b.close := by
  rintro rfl
  rcases h with h | h
  · cases b <;> exact absurd h (by decide)
  · cases b <;> exact absurd h (by decide)

/-- Whether a text begins as a value does. -/
def Begins (v : List Char) : Prop := ∃ c cs, v = c :: cs ∧ StartsValue c

theorem WholeText.begins_digit {t : List Char} (h : WholeText t) :
    ∃ d ds, t = d :: ds ∧ d.isDigit = true := by
  obtain ⟨⟨hne, hall⟩, -⟩ := h
  cases t with
  | nil => exact absurd rfl hne
  | cons d ds => exact ⟨d, ds, rfl, hall d (List.mem_cons_self ..)⟩

theorem UnsignedText.begins_digit {t : List Char} (h : UnsignedText t) :
    ∃ d ds, t = d :: ds ∧ d.isDigit = true := by
  cases h with
  | parts hwhole =>
      obtain ⟨d, ds, rfl, hd⟩ := hwhole.begins_digit
      exact ⟨d, _, rfl, hd⟩

theorem Bracketed.begins {opening closing : Char} {vs : List (List Char)} {cs : List Char}
    (h : Bracketed opening closing vs cs) : ∃ t, cs = opening :: t := by
  cases h with
  | empty => exact ⟨_, rfl⟩
  | items => exact ⟨_, rfl⟩

theorem ValueText.begins {v : List Char} (h : ValueText v) : Begins v := by
  cases h with
  | null => exact ⟨_, _, rfl, .inl (by decide)⟩
  | true => exact ⟨_, _, rfl, .inl (by decide)⟩
  | false => exact ⟨_, _, rfl, .inl (by decide)⟩
  | string h =>
      obtain ⟨body, -, rfl⟩ := h
      exact ⟨_, _, rfl, .inl (by decide)⟩
  | unsigned h =>
      obtain ⟨d, ds, rfl, hd⟩ := h.begins_digit
      exact ⟨d, ds, rfl, .inr hd⟩
  | negative => exact ⟨_, _, rfl, .inl (by decide)⟩
  | array h _ =>
      obtain ⟨t, rfl⟩ := h.begins
      exact ⟨_, t, rfl, .inl (by decide)⟩
  | object h _ _ =>
      obtain ⟨_, -, h⟩ := h
      obtain ⟨t, rfl⟩ := h.begins
      exact ⟨_, t, rfl, .inl (by decide)⟩

/-! ## Steps -/

/-- Goes on with the next item inside the innermost open bracket. -/
def proceed (fuel : Nat) (bs : List Bracket) (cs : List Char) : OrError (List Char) :=
  match bs with
  | [] => .ok cs
  | .array :: _ => skipFrom fuel bs cs
  | .object :: _ => (passName cs).bind (skipFrom fuel bs)

/-- Goes on after an item. -/
def resume (fuel : Nat) (bs : List Bracket) (cs : List Char) : OrError (List Char) :=
  (closeBrackets bs true cs).bind fun p => proceed fuel p.1 p.2

theorem skipFrom_scalar {cs rest : List Char} (h : passOne cs = .ok (.scalar rest)) (fuel : Nat)
    (bs : List Bracket) : skipFrom (fuel + 1) bs cs = resume fuel bs rest := by
  rw [skipFrom, h]
  dsimp only [bind, Except.bind, resume]
  cases closeBrackets bs Bool.true rest with
  | error e => rfl
  | ok p => rcases p with ⟨_ | ⟨_ | _, bs⟩, cs⟩ <;> rfl

theorem skipFrom_opened {cs rest : List Char} {b : Bracket} (h : passOne cs = .ok (.opened b rest))
    (fuel : Nat) (bs : List Bracket) :
    skipFrom (fuel + 1) bs cs =
      (closeBrackets (b :: bs) false rest).bind fun p => proceed fuel p.1 p.2 := by
  rw [skipFrom, h]
  dsimp only [bind, Except.bind]
  cases closeBrackets (b :: bs) Bool.false rest with
  | error e => rfl
  | ok p => rcases p with ⟨_ | ⟨_ | _, bs⟩, cs⟩ <;> rfl

theorem Bracket.isGap_close (b : Bracket) : isGap b.close = false := by cases b <;> rfl

theorem closeBrackets_close {g : List Char} (hg : Gap g) (b : Bracket) (bs : List Bracket)
    (afterItem : Bool) (cs : List Char) :
    closeBrackets (b :: bs) afterItem (g ++ b.close :: cs) = closeBrackets bs true cs := by
  rw [closeBrackets, skipGap_value hg b.isGap_close]
  have hcomma : (b.close == ',') = false := by cases b <;> rfl
  simp [hcomma]

theorem closeBrackets_item {g : List Char} {c : Char} (hg : Gap g) (hgap : isGap c = false)
    {b : Bracket} (hclose : c ≠ b.close) (bs : List Bracket) (cs : List Char) :
    closeBrackets (b :: bs) false (g ++ c :: cs) = .ok (b :: bs, c :: cs) := by
  rw [closeBrackets, skipGap_value hg hgap]
  simp [hclose]

theorem resume_comma {g : List Char} (hg : Gap g) (fuel : Nat) (b : Bracket) (bs : List Bracket)
    (cs : List Char) : resume fuel (b :: bs) (g ++ ',' :: cs) = proceed fuel (b :: bs) cs := by
  rw [resume, closeBrackets, skipGap_value hg rfl]
  rfl

theorem resume_close {g : List Char} (hg : Gap g) (fuel : Nat) (b : Bracket) (bs : List Bracket)
    (cs : List Char) : resume fuel (b :: bs) (g ++ b.close :: cs) = resume fuel bs cs := by
  rw [resume, closeBrackets_close hg, resume]

theorem resume_nil (fuel : Nat) (cs : List Char) : resume fuel [] cs = .ok cs := rfl

/-! ## Values and items -/

/-- Whether a text is passed over as a value is. -/
def PassesOver (v : List Char) : Prop :=
  ∀ (fuel : Nat) (bs : List Bracket) (g rest : List Char), Gap g → Ends rest → v.length ≤ fuel →
    ∃ left, fuel ≤ left + v.length ∧ skipFrom fuel bs (g ++ v ++ rest) = resume left bs rest

/-- Whether a text is passed over as an item inside a bracket is. -/
def PassesItem (b : Bracket) (item : List Char) : Prop :=
  ∀ (fuel : Nat) (bs : List Bracket) (g rest : List Char), Gap g → Ends rest →
    item.length ≤ fuel →
    ∃ left, fuel ≤ left + item.length ∧
      proceed fuel (b :: bs) (g ++ item ++ rest) = resume left (b :: bs) rest

theorem passesOver_of_scalar {v : List Char} (hne : v ≠ [])
    (h : ∀ g rest, Gap g → Ends rest → passOne (g ++ v ++ rest) = .ok (.scalar rest)) :
    PassesOver v := by
  intro fuel bs g rest hg hrest hfuel
  have hlength := List.length_pos_of_ne_nil hne
  obtain ⟨left, rfl⟩ : ∃ left, fuel = left + 1 := ⟨fuel - 1, by omega⟩
  exact ⟨left, by omega, skipFrom_scalar (h g rest hg hrest) left bs⟩

theorem PassesOver.passesItem {v : List Char} (h : PassesOver v) : PassesItem .array v :=
  fun fuel bs => h fuel (.array :: bs)

/-- Items are passed over one by one; the last one ends with the bracket. -/
theorem proceed_items {b : Bracket} {items : List (List Char)} {cs : List Char}
    (h : ItemsText items cs) (hitems : ∀ item ∈ items, PassesItem b item) (fuel : Nat)
    (bs : List Bracket) (rest : List Char) (hfuel : cs.length ≤ fuel) :
    ∃ left, fuel ≤ left + cs.length ∧
      proceed fuel (b :: bs) (cs ++ b.close :: rest) = resume left bs rest := by
  have hclose : b.close ∈ [',', ']', '\x7d'] := by cases b <;> decide
  induction h generalizing fuel with
  | @one g v g' hg hg' =>
      simp only [List.length_append] at hfuel
      obtain ⟨left, hleft, hpass⟩ := hitems v (by simp) fuel bs g (g' ++ b.close :: rest) hg
        ((Ends.cons hclose _).gap hg') (by omega)
      refine ⟨left, by simp only [List.length_append]; omega, ?_⟩
      rw [List.append_assoc, hpass, resume_close hg']
  | @more g v g' cs vs hg hg' _ ih =>
      simp only [List.length_append, List.length_cons] at hfuel
      obtain ⟨left, hleft, hpass⟩ := hitems v (by simp) fuel bs g
        (g' ++ ',' :: (cs ++ b.close :: rest)) hg ((Ends.cons (by decide) _).gap hg') (by omega)
      obtain ⟨last, hlast, hmore⟩ :=
        ih (fun item hitem => hitems item (List.mem_cons_of_mem _ hitem)) left (by omega)
      refine ⟨last, by simp only [List.length_append, List.length_cons]; omega, ?_⟩
      rw [List.append_assoc, List.append_assoc, List.cons_append, hpass, resume_comma hg', hmore]

/-- The blanks in front of items may be dropped. -/
theorem ItemsText.drop_gap {items : List (List Char)} {cs : List Char} (h : ItemsText items cs) :
    ∃ g cs', Gap g ∧ cs = g ++ cs' ∧ ItemsText items cs' ∧
      ∃ item ∈ items, ∃ more, cs' = item ++ more := by
  cases h with
  | @one g v g' hg hg' =>
      refine ⟨g, v ++ g', hg, by rw [List.append_assoc], .one .nil hg', v, by simp, g', rfl⟩
  | @more g v g' cs vs hg hg' hmore =>
      exact ⟨g, v ++ g' ++ ',' :: cs, hg, by simp, .more .nil hg' hmore, v, by simp, _,
        List.append_assoc ..⟩

def Bracket.opening : Bracket → Char
  | .array => '['
  | .object => '\x7b'

theorem passOne_opened {g : List Char} (hg : Gap g) (b : Bracket) (cs : List Char) :
    passOne (g ++ b.opening :: cs) = .ok (.opened b cs) := by
  cases b with
  | array =>
      rw [passOne, skipGap_value hg rfl]
      rfl
  | object =>
      rw [passOne, skipGap_value hg rfl]
      rfl

theorem passesOver_bracketed {b : Bracket} {items : List (List Char)} {cs : List Char}
    (h : Bracketed b.opening b.close items cs) (hitems : ∀ item ∈ items, PassesItem b item)
    (hbegins : ∀ item ∈ items, Begins item) : PassesOver cs := by
  intro fuel bs g rest hg hrest hfuel
  cases h with
  | @empty g' hg' =>
      simp only [List.length_append, List.length_cons, List.length_nil] at hfuel
      obtain ⟨left, rfl⟩ : ∃ left, fuel = left + 1 := ⟨fuel - 1, by omega⟩
      refine ⟨left, by simp only [List.length_append, List.length_cons]; omega, ?_⟩
      have hopen := passOne_opened hg b (g' ++ b.close :: rest)
      have hclose := closeBrackets_close hg' b bs false rest
      simp only [List.append_assoc, List.cons_append, List.nil_append]
      rw [skipFrom_opened hopen, hclose, resume]
  | @items _ inner hinner =>
      obtain ⟨g', trimmed, hg', rfl, htrimmed, item, hitem, more, hmore⟩ := hinner.drop_gap
      obtain ⟨c, t, hc, hstarts⟩ := hbegins item hitem
      simp only [List.length_append, List.length_cons, List.length_nil] at hfuel
      obtain ⟨left, rfl⟩ : ∃ left, fuel = left + 1 := ⟨fuel - 1, by omega⟩
      obtain ⟨last, hlast, hpass⟩ := proceed_items htrimmed hitems left bs rest (by omega)
      refine ⟨last, by simp only [List.length_append, List.length_cons]; omega, ?_⟩
      have hopen := passOne_opened hg b (g' ++ (trimmed ++ b.close :: rest))
      have hfirst : closeBrackets (b :: bs) false (g' ++ (trimmed ++ b.close :: rest)) =
          .ok (b :: bs, trimmed ++ b.close :: rest) := by
        rw [hmore, hc]
        exact closeBrackets_item hg' hstarts.isGap_eq_false (hstarts.ne_close b) bs _
      simp only [List.append_assoc, List.cons_append, List.nil_append]
      rw [skipFrom_opened hopen, hfirst]
      exact hpass

/-! ## Any value -/

theorem passOne_word {g rest : List Char} (hg : Gap g) {word : List Char}
    (hword : word ∈ [['n', 'u', 'l', 'l'], ['t', 'r', 'u', 'e'], ['f', 'a', 'l', 's', 'e']]) :
    passOne (g ++ word ++ rest) = .ok (.scalar rest) := by
  simp only [List.mem_cons, List.not_mem_nil, or_false] at hword
  rw [List.append_assoc, passOne, skipGap_append hg]
  rcases hword with rfl | rfl | rfl <;> rfl

theorem passOne_string {g t rest : List Char} (hg : Gap g) (h : LooseText t) :
    passOne (g ++ t ++ rest) = .ok (.scalar rest) := by
  obtain ⟨body, hbody, rfl⟩ := h
  rw [List.append_assoc, List.cons_append, List.cons_append, passOne, skipGap_value hg rfl,
    List.append_assoc]
  show (skipString .text (body ++ '"' :: rest)).bind _ = _
  rw [skipString_loose hbody]
  rfl

theorem passOne_unsigned {g t rest : List Char} (hg : Gap g) (h : UnsignedText t)
    (hrest : Ends rest) : passOne (g ++ t ++ rest) = .ok (.scalar rest) := by
  have hskip := skipNumber_append h hrest
  obtain ⟨d, ds, rfl, hd⟩ := h.begins_digit
  have hletter : ∀ c ∈ ['n', 't', 'f', '-'], (d == c) = false := by
    intro c hc
    have hall : ∀ c ∈ ['n', 't', 'f', '-'], c.isDigit = false := by simp
    refine beq_false_of_ne ?_
    rintro rfl
    rw [hall d hc] at hd
    exact Bool.false_ne_true hd
  have hdigit : (digitValue? d).isSome = true := by rw [digitValue?_eq, if_pos hd]; rfl
  rw [List.append_assoc, List.cons_append, passOne, skipGap_value hg (isGap_of_isDigit hd)]
  rw [List.cons_append] at hskip
  simp only [hletter 'n' (by decide), hletter 't' (by decide), hletter 'f' (by decide),
    hletter '-' (by decide), hdigit, hskip, bind, Except.bind]
  rfl

theorem passOne_negative {g t rest : List Char} (hg : Gap g) (h : UnsignedText t)
    (hrest : Ends rest) : passOne (g ++ '-' :: t ++ rest) = .ok (.scalar rest) := by
  rw [List.append_assoc, List.cons_append, passOne, skipGap_value hg rfl]
  show (skipNumber (t ++ rest)).bind _ = _
  rw [skipNumber_append h hrest]
  rfl

theorem expectColon_append {g : List Char} (hg : Gap g) (cs : List Char) :
    expectColon (g ++ ':' :: cs) = .ok cs := by
  rw [expectColon, skipGap_value hg rfl]
  rfl

theorem passName_append {g g' n : List Char} (hg : Gap g) (hn : LooseText n) (hg' : Gap g')
    (cs : List Char) : passName (g ++ n ++ g' ++ ':' :: cs) = .ok cs := by
  obtain ⟨body, hbody, rfl⟩ := hn
  simp only [List.append_assoc, List.cons_append, List.nil_append]
  rw [passName, skipGap_value hg rfl]
  show (skipString .text (body ++ '"' :: (g' ++ ':' :: cs))).bind _ = _
  rw [skipString_loose hbody]
  exact expectColon_append hg' cs

theorem passesItem_member {p : List Char × List Char} {item : List Char} (h : MemberText p item)
    (hname : LooseText p.1) (hvalue : PassesOver p.2) : PassesItem .object item := by
  cases h with
  | @member n g g' v hg hg' =>
      intro fuel bs g0 rest hg0 hrest hfuel
      dsimp only at hname hvalue
      simp only [List.length_append, List.length_cons] at hfuel
      obtain ⟨left, hleft, hpass⟩ := hvalue fuel (.object :: bs) g' rest hg' hrest (by omega)
      refine ⟨left, by simp only [List.length_append, List.length_cons]; omega, ?_⟩
      have hpassName := passName_append hg0 hname hg (g' ++ v ++ rest)
      simp only [List.append_assoc, List.cons_append] at hpassName hpass ⊢
      rw [proceed, hpassName]
      exact hpass

theorem LooseText.begins {t : List Char} (h : LooseText t) : Begins t := by
  obtain ⟨body, -, rfl⟩ := h
  exact ⟨_, _, rfl, .inl (by decide)⟩

theorem MemberText.begins {p : List Char × List Char} {item : List Char} (h : MemberText p item)
    (hname : Begins p.1) : Begins item := by
  cases h with
  | member =>
      obtain ⟨c, cs, rfl, hc⟩ := hname
      exact ⟨c, _, rfl, hc⟩

theorem exists_of_forall₂ {α β : Type} {R : α → β → Prop} {as : List α} {bs : List β}
    (h : List.Forall₂ R as bs) {b : β} (hb : b ∈ bs) : ∃ a ∈ as, R a b := by
  induction h with
  | nil => exact absurd hb List.not_mem_nil
  | cons hab _ ih =>
      rcases List.mem_cons.mp hb with rfl | hb
      · exact ⟨_, List.mem_cons_self .., hab⟩
      · obtain ⟨a, ha, hrel⟩ := ih hb
        exact ⟨a, List.mem_cons_of_mem _ ha, hrel⟩

theorem ValueText.passesOver {v : List Char} (h : ValueText v) : PassesOver v := by
  induction h with
  | null => exact passesOver_of_scalar (by simp) fun _ _ hg _ => passOne_word hg (by decide)
  | true => exact passesOver_of_scalar (by simp) fun _ _ hg _ => passOne_word hg (by decide)
  | false => exact passesOver_of_scalar (by simp) fun _ _ hg _ => passOne_word hg (by decide)
  | string h =>
      refine passesOver_of_scalar ?_ fun _ _ hg _ => passOne_string hg h
      obtain ⟨c, cs, rfl, -⟩ := h.begins
      simp
  | unsigned h =>
      refine passesOver_of_scalar ?_ fun _ _ hg hrest => passOne_unsigned hg h hrest
      obtain ⟨d, ds, rfl, -⟩ := h.begins_digit
      simp
  | negative h =>
      exact passesOver_of_scalar (by simp) fun _ _ hg hrest => passOne_negative hg h hrest
  | array h hvalues ih =>
      exact passesOver_bracketed (b := .array) h (fun v hv => (ih v hv).passesItem)
        fun v hv => (hvalues v hv).begins
  | @object ps _ h hnames _ ih =>
      obtain ⟨items, hmembers, hbracketed⟩ := h
      have hmember : ∀ item ∈ items, ∃ p ∈ ps, MemberText p item := fun _ =>
        exists_of_forall₂ hmembers
      refine passesOver_bracketed (b := .object) hbracketed ?_ ?_
      · intro item hitem
        obtain ⟨p, hp, htext⟩ := hmember item hitem
        exact passesItem_member htext (hnames p hp) (ih p hp)
      · intro item hitem
        obtain ⟨p, hp, htext⟩ := hmember item hitem
        exact htext.begins (hnames p hp).begins

/-- A value is passed over, and what follows it is left. -/
theorem skipValue_append {g v rest : List Char} (hg : Gap g) (hv : ValueText v)
    (hrest : Ends rest) : skipValue (g ++ v ++ rest) = .ok rest := by
  obtain ⟨left, -, hskip⟩ := hv.passesOver ((g ++ v ++ rest).length + 1) [] g rest hg hrest
    (by simp only [List.length_append]; omega)
  rw [skipValue, hskip, resume_nil]

end LintRelay.Json
