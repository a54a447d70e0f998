import LintRelay.Jsonc.Reader
import LintRelay.Proofs.Json.Printing
import LintRelay.Proofs.Jsonc.Tokens

/-!
# Strict JSON read as commented JSON

`ValueOf v t` says that the text `t` of strict JSON stands for the value `v`. Commented JSON reads
it as that value, with the members of every object in the order of their names and of two members of
one name the later (`parse_valueOf`). A reader of commented JSON is bounded by a number of steps; a
value takes no more of them than it has characters.
-/

namespace LintRelay.Jsonc

open Json (ArrayText Bracketed Ends Gap ItemsText MemberText NamedText NaturalText ObjectText
  StringText sorted)

/-- A text of strict JSON and its value. Of the numbers only natural numbers of 64 bits. -/
inductive ValueOf : Json → List Char → Prop
  | literal {v : Json} {t : List Char} :
      (v, t) ∈ [(.null, ['n', 'u', 'l', 'l']), (.bool true, ['t', 'r', 'u', 'e']),
        (.bool false, ['f', 'a', 'l', 's', 'e'])] → ValueOf v t
  | string {s : String} {t : List Char} : StringText s t → ValueOf (.string s) t
  | natural {n : Nat} {t : List Char} :
      NaturalText n t → n ≤ Json.greatestNatural → ValueOf (.ofNat n) t
  | array {items : List (Json × List Char)} {t : List Char} :
      ArrayText (items.map Prod.snd) t → (∀ i ∈ items, ValueOf i.1 i.2) →
      ValueOf (.array (items.map Prod.fst)) t
  | object {members : List (String × Json × List Char)} {t : List Char} :
      ObjectText (members.map fun m => (m.1, m.2.2)) t → (∀ m ∈ members, ValueOf m.2.1 m.2.2) →
      ValueOf (.object (members.map fun m => (m.1, m.2.1))) t

/-! ## Steps -/

theorem next_gap {g : List Char} (hg : Gap g) (cs : List Char) : next (g ++ cs) = next cs := by
  have hskip : skipGap .blank (g ++ cs) = skipGap .blank cs := by
    induction g with
    | nil => rfl
    | cons c g ih =>
        have hc := hg c (List.mem_cons_self ..)
        have hstep : skipGap .blank (c :: (g ++ cs)) = skipGap .blank (g ++ cs) := by
          simp only [Json.gapChars, List.mem_cons, List.not_mem_nil, or_false] at hc
          rcases hc with rfl | rfl | rfl | rfl <;> rfl
        rw [List.cons_append, hstep]
        exact ih fun d hd => hg d (List.mem_cons_of_mem _ hd)
  rw [next, next, hskip]

theorem next_gap_punctuation {g : List Char} (hg : Gap g) {c : Char} {t : Token}
    (h : punctuation? c = some t) (cs : List Char) : next (g ++ c :: cs) = .ok (some t, cs) := by
  rw [next_gap hg, next_punctuation h]

theorem pastComma_comma {g : List Char} (hg : Gap g) (cs : List Char) :
    pastComma (g ++ ',' :: cs) = next cs := by
  rw [pastComma, next_gap_punctuation hg rfl]
  rfl

theorem pastComma_close {g : List Char} (hg : Gap g) {c : Char} {t : Token}
    (h : punctuation? c = some t) (ht : t ≠ .comma) (cs : List Char) :
    pastComma (g ++ c :: cs) = .ok (some t, cs) := by
  rw [pastComma, next_gap_punctuation hg h]
  cases t with
  | comma => exact absurd rfl ht
  | _ => rfl

/-- Whether a text is read as a value, within as many steps as it has characters. -/
def IsRead (t : List Char) (v : Json) : Prop :=
  ∀ (fuel : Nat) (rest : List Char), Ends rest → t.length ≤ fuel →
    ∃ token cs, token ≠ .closeBracket ∧ next (t ++ rest) = .ok (some token, cs) ∧
      readValue fuel token cs = .ok (v, rest)

theorem readItems_step {token : Token} (h : token ≠ .closeBracket) (fuel : Nat) (cs : List Char) :
    readItems (fuel + 1) (some token) cs =
      (readValue fuel token cs).bind fun p => (pastComma p.2).bind fun q =>
        (readItems fuel q.1 q.2).bind fun r => .ok (p.1 :: r.1, r.2) := by
  cases token with
  | closeBracket => exact absurd rfl h
  | _ => rfl

theorem readItems_items {texts : List (List Char)} {cs : List Char} (h : ItemsText texts cs)
    {vs : List Json} (hvs : List.Forall₂ IsRead texts vs) {fuel : Nat} (hfuel : cs.length < fuel)
    (rest : List Char) :
    ∃ token cs', next (cs ++ ']' :: rest) = .ok (some token, cs') ∧
      readItems fuel (some token) cs' = .ok (vs, rest) := by
  induction h generalizing vs fuel with
  | @one g v g' hg hg' =>
      cases hvs with
      | cons hv hnone =>
          cases hnone
          simp only [List.length_append] at hfuel
          obtain ⟨left, rfl⟩ : ∃ left, fuel = left + 1 := ⟨fuel - 1, by omega⟩
          have hends : Ends (g' ++ ']' :: rest) := (Ends.cons (by decide) rest).gap hg'
          obtain ⟨token, cs, htoken, hnext, hread⟩ := hv left _ hends (by omega)
          refine ⟨token, cs, ?_, ?_⟩
          · rw [List.append_assoc, List.append_assoc, next_gap hg, hnext]
          · rw [readItems_step htoken, hread]
            dsimp only [Except.bind]
            rw [pastComma_close hg' rfl (by simp)]
            dsimp only [Except.bind]
            rw [readItems]
  | @more g v g' cs vs hg hg' _ ih =>
      cases hvs with
      | cons hv hmore =>
          simp only [List.length_append, List.length_cons] at hfuel
          obtain ⟨left, rfl⟩ : ∃ left, fuel = left + 1 := ⟨fuel - 1, by omega⟩
          have hends : Ends (g' ++ ',' :: (cs ++ ']' :: rest)) :=
            (Ends.cons (by decide) _).gap hg'
          obtain ⟨token, cs₁, htoken, hnext, hread⟩ := hv left _ hends (by omega)
          have hleft : cs.length < left := by omega
          obtain ⟨token', cs₂, hnext', hothers⟩ := ih hmore hleft
          refine ⟨token, cs₁, ?_, ?_⟩
          · rw [List.append_assoc, List.append_assoc, List.append_assoc, List.cons_append,
              next_gap hg, hnext]
          · rw [readItems_step htoken, hread]
            dsimp only [Except.bind]
            rw [pastComma_comma hg', hnext']
            dsimp only [Except.bind]
            rw [hothers]

/-- Whether an item is a name and a text that is read as a value. -/
def IsMember (item : List Char) (m : String × Json) : Prop :=
  ∃ t, NamedText (m.1, t) item ∧ IsRead t m.2

/-- One more member: its name is the token at hand, and its value is set. -/
theorem readMembers_step {item : List Char} {m : String × Json} (h : IsMember item m) {fuel : Nat}
    {rest : List Char} (hrest : Ends rest) (hfuel : item.length ≤ fuel) (acc : Json.Members) :
    ∃ token cs, next (item ++ rest) = .ok (some token, cs) ∧
      readMembers (fuel + 1) acc (some token) cs =
        (pastComma rest).bind fun q => readMembers fuel (acc.set m.1 m.2) q.1 q.2 := by
  obtain ⟨t, ⟨n, hn, hmember⟩, hread⟩ := h
  cases hmember with
  | @member _ g g' _ hg hg' =>
      simp only [List.length_append, List.length_cons] at hfuel
      obtain ⟨token, cs, -, hnext, hvalue⟩ := hread fuel rest hrest (by omega)
      refine ⟨.string m.1, g ++ ':' :: (g' ++ (t ++ rest)), ?_, ?_⟩
      · simp only [List.append_assoc, List.cons_append]
        rw [next_string hn]
      · have hcolon := next_gap_punctuation hg (c := ':') (t := .colon) rfl (g' ++ (t ++ rest))
        have hnextValue := (next_gap hg' (t ++ rest)).trans hnext
        rw [readMembers]
        · simp only [memberName?, bind, Except.bind, hcolon, hnextValue, hvalue]
        · exact fun h => Token.noConfusion h

theorem readMembers_items {items : List (List Char)} {cs : List Char} (h : ItemsText items cs)
    {ms : List (String × Json)} (hms : List.Forall₂ IsMember items ms) {fuel : Nat}
    (hfuel : cs.length < fuel) (acc : Json.Members) (rest : List Char) :
    ∃ token cs', next (cs ++ '\x7d' :: rest) = .ok (some token, cs') ∧
      readMembers fuel acc (some token) cs' =
        .ok (ms.foldl (fun acc m => acc.set m.1 m.2) acc, rest) := by
  induction h generalizing ms fuel acc with
  | @one g v g' hg hg' =>
      cases hms with
      | cons hm hnone =>
          cases hnone
          simp only [List.length_append] at hfuel
          obtain ⟨left, rfl⟩ : ∃ left, fuel = left + 1 := ⟨fuel - 1, by omega⟩
          have hends : Ends (g' ++ '\x7d' :: rest) := (Ends.cons (by decide) rest).gap hg'
          have hleft : v.length ≤ left := by omega
          obtain ⟨token, cs, hnext, hread⟩ := readMembers_step hm hends hleft acc
          refine ⟨token, cs, ?_, ?_⟩
          · rw [List.append_assoc, List.append_assoc, next_gap hg, hnext]
          · rw [hread, pastComma_close hg' rfl (by simp)]
            dsimp only [Except.bind]
            rw [readMembers]
            rfl
  | @more g v g' cs vs hg hg' _ ih =>
      cases hms with
      | @cons _ m _ ms hm hmore =>
          simp only [List.length_append, List.length_cons] at hfuel
          obtain ⟨left, rfl⟩ : ∃ left, fuel = left + 1 := ⟨fuel - 1, by omega⟩
          have hends : Ends (g' ++ ',' :: (cs ++ '\x7d' :: rest)) :=
            (Ends.cons (by decide) _).gap hg'
          have hleft : v.length ≤ left ∧ cs.length < left := by omega
          obtain ⟨token, cs₁, hnext, hread⟩ := readMembers_step hm hends hleft.1 acc
          obtain ⟨token', cs₂, hnext', hothers⟩ := ih hmore hleft.2 (acc.set m.1 m.2)
          refine ⟨token, cs₁, ?_, ?_⟩
          · rw [List.append_assoc, List.append_assoc, List.append_assoc, List.cons_append,
              next_gap hg, hnext]
          · rw [hread, pastComma_comma hg', hnext']
            exact hothers

/-! ## Values -/

/-- Items between brackets are read if they are behind the token of the opening one. -/
theorem isRead_bracketed {opening closing : Char} {opened : Token} {items : List (List Char)}
    {t : List Char} (h : Bracketed opening closing items t)
    (hopening : punctuation? opening = some opened) (hopened : opened ≠ .closeBracket) {v : Json}
    (hnone : items = [] → ∀ {g : List Char}, Gap g → ∀ fuel rest,
      readValue (fuel + 1) opened (g ++ closing :: rest) = .ok (v, rest))
    (hsome : ∀ {cs : List Char}, ItemsText items cs → ∀ {fuel : Nat}, cs.length < fuel →
      ∀ rest, readValue (fuel + 1) opened (cs ++ closing :: rest) = .ok (v, rest)) :
    IsRead t v := by
  intro fuel rest _ hfuel
  have htoken (cs : List Char) :
      next (opening :: cs ++ [closing] ++ rest) = .ok (some opened, cs ++ closing :: rest) := by
    simpa using next_punctuation hopening (cs ++ closing :: rest)
  cases h with
  | @empty g hg =>
      simp only [List.cons_append, List.length_cons] at hfuel
      obtain ⟨left, rfl⟩ : ∃ left, fuel = left + 1 := ⟨fuel - 1, by omega⟩
      exact ⟨opened, g ++ closing :: rest, hopened, htoken g, hnone rfl hg left rest⟩
  | @items _ cs hitems =>
      simp only [List.cons_append, List.length_cons, List.length_append, List.length_nil] at hfuel
      obtain ⟨left, rfl⟩ : ∃ left, fuel = left + 1 := ⟨fuel - 1, by omega⟩
      exact ⟨opened, cs ++ closing :: rest, hopened, htoken cs, hsome hitems (by omega) rest⟩

theorem isRead_array {texts : List (List Char)} {t : List Char} (h : ArrayText texts t)
    {vs : List Json} (hvs : List.Forall₂ IsRead texts vs) : IsRead t (.array vs) := by
  refine isRead_bracketed h rfl (by simp) ?_ ?_
  · rintro rfl g hg fuel rest
    cases hvs
    rw [readValue, next_gap_punctuation hg (t := .closeBracket) rfl]
    simp only [bind, Except.bind]
    rw [readItems]
    rfl
  · intro cs hitems fuel hfuel rest
    obtain ⟨token, cs', hnext, hread⟩ := readItems_items hitems hvs hfuel rest
    rw [readValue, hnext]
    simp only [bind, Except.bind, hread]
    rfl

theorem isRead_object {items : List (List Char)} {t : List Char}
    (h : Bracketed '\x7b' '\x7d' items t) {ms : List (String × Json)}
    (hms : List.Forall₂ IsMember items ms) : IsRead t (.ofMembers ms) := by
  refine isRead_bracketed h rfl (by simp) ?_ ?_
  · rintro rfl g hg fuel rest
    cases hms
    rw [readValue, next_gap_punctuation hg (t := .closeBrace) rfl]
    simp only [bind, Except.bind]
    rw [readMembers]
    rfl
  · intro cs hitems fuel hfuel rest
    obtain ⟨token, cs', hnext, hread⟩ := readMembers_items hitems hms hfuel [] rest
    rw [readValue, hnext]
    simp only [bind, Except.bind, hread]
    rfl

/-- A scalar is its own token. -/
theorem isRead_scalar {t : List Char} {v : Json} {token : Token} (hne : t ≠ [])
    (htoken : token ≠ .closeBracket)
    (hnext : ∀ rest, Ends rest → next (t ++ rest) = .ok (some token, rest))
    (hvalue : ∀ fuel rest, readValue (fuel + 1) token rest = .ok (v, rest)) : IsRead t v := by
  intro fuel rest hrest hfuel
  have hlength := List.length_pos_of_ne_nil hne
  obtain ⟨left, rfl⟩ : ∃ left, fuel = left + 1 := ⟨fuel - 1, by omega⟩
  exact ⟨token, rest, htoken, hnext rest hrest, hvalue left rest⟩

theorem ValueOf.isRead {v : Json} {t : List Char} (h : ValueOf v t) : IsRead t (sorted v) := by
  induction h with
  | literal hword =>
      simp only [List.mem_cons, Prod.mk.injEq, List.not_mem_nil, or_false] at hword
      rcases hword with ⟨rfl, rfl⟩ | ⟨rfl, rfl⟩ | ⟨rfl, rfl⟩
      · exact isRead_scalar (by simp) (by simp) (fun _ => next_literal .null) fun _ _ => rfl
      · exact isRead_scalar (by simp) (by simp) (fun _ => next_literal .true) fun _ _ => rfl
      · exact isRead_scalar (by simp) (by simp) (fun _ => next_literal .false) fun _ _ => rfl
  | string hs =>
      refine isRead_scalar ?_ (by simp) (fun rest _ => next_string hs rest) fun _ _ => rfl
      obtain ⟨body, -, rfl⟩ := hs
      simp
  | @natural n t ht hn =>
      refine isRead_scalar ht.1.1.1 (by simp) (fun _ => next_natural ht) fun fuel rest => ?_
      rw [readValue, numberValue_natural ht hn]
      rfl
  | @array items t harray _ ih =>
      rw [sorted, Json.sortedItems_eq_map, List.map_map]
      refine isRead_array harray ?_
      rw [List.forall₂_map_left_iff, List.forall₂_map_right_iff, List.forall₂_same]
      exact ih
  | @object members t hobject _ ih =>
      obtain ⟨items, hnamed, hbracketed⟩ := hobject
      rw [sorted, Json.sortedMembers_eq_map, List.map_map]
      refine isRead_object hbracketed ?_
      rw [List.forall₂_map_left_iff] at hnamed
      rw [List.forall₂_map_right_iff]
      refine ((List.forall₂_and_left _ _).mpr ⟨ih, hnamed⟩).flip.imp ?_
      rintro item ⟨name, v, t⟩ ⟨hread, hname⟩
      exact ⟨t, hname, hread⟩

/-! ## Printed values -/

theorem valueOf_compact_string (s : String) : ValueOf (.string s) (Json.compact (.string s)) :=
  .string (Json.stringText_stringText s)

theorem valueOf_compact_natural {n : Nat} (hn : n ≤ Json.greatestNatural) :
    ValueOf (.ofNat n) (Json.compact (.ofNat n)) :=
  .natural (Json.naturalText_toDigits n) hn

theorem valueOf_compact_array {vs : List Json} (h : ∀ v ∈ vs, ValueOf v (Json.compact v)) :
    ValueOf (.array vs) (Json.compact (.array vs)) := by
  have hitems : ArrayText ((vs.map fun v => (v, Json.compact v)).map Prod.snd)
      (Json.compact (.array vs)) := by
    rw [List.map_map]
    exact Json.arrayText_compact vs
  have hsame : vs.map (Prod.fst ∘ fun v => (v, Json.compact v)) = vs := List.map_id vs
  have hvalue := ValueOf.array hitems (List.forall_mem_map.mpr h)
  rwa [List.map_map, hsame] at hvalue

theorem valueOf_compact_object {ms : List (String × Json)}
    (h : ∀ m ∈ ms, ValueOf m.2 (Json.compact m.2)) :
    ValueOf (.object ms) (Json.compact (.object ms)) := by
  have hmembers : ObjectText ((ms.map fun m => (m.1, m.2, Json.compact m.2)).map
      fun m => (m.1, m.2.2)) (Json.compact (.object ms)) := by
    rw [List.map_map]
    exact Json.objectText_compact ms
  have hsame : ms.map ((fun m => (m.1, m.2.1)) ∘ fun m => (m.1, m.2, Json.compact m.2)) = ms :=
    List.map_id ms
  have hvalue := ValueOf.object hmembers (List.forall_mem_map.mpr h)
  rwa [List.map_map, hsame] at hvalue

/-! ## Texts -/

/-- **Strict JSON is read as it is meant**, with blanks around it or not. -/
theorem parse_valueOf {v : Json} {g t g' : List Char} (h : ValueOf v t) (hg : Gap g)
    (hg' : Gap g') : parse (String.ofList (g ++ t ++ g')) = .ok (some (sorted v)) := by
  have hends : Ends g' := by
    have hnil := Ends.nil.gap hg'
    rwa [List.append_nil] at hnil
  obtain ⟨token, cs, -, hnext, hread⟩ :=
    h.isRead (2 * (g ++ t ++ g').length + 2) g' hends (by simp only [List.length_append]; omega)
  have hlast : next g' = .ok (none, []) := by
    have hgap := next_gap hg' []
    rw [List.append_nil] at hgap
    exact hgap.trans next_nil
  rw [parse, String.toList_ofList]
  rw [List.append_assoc, next_gap hg, hnext]
  rw [List.append_assoc] at hread
  simp only [bind, Except.bind, hread, hlast]
  rfl

end LintRelay.Jsonc
