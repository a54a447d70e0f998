import LintRelay.Jsonc.Token
import LintRelay.Proofs.Json.Skipping
import Mathlib.Data.List.TakeDrop

/-!
# Tokens of strict JSON

Commented JSON extends JSON, so a reader of it has to find in a text of strict JSON the tokens that
are meant: a string in any of its spellings (`next_string`), a natural number (`next_natural`) and
the literal words (`next_literal`), each up to its end.
-/

namespace LintRelay.Jsonc

open Json (CharText CharsText StringText HexDigit HexText NaturalText WholeText Ends)

/-! ## Where tokens begin -/

theorem skipGap_cons {c : Char} (hblank : Text.isBlank c = false) (hslash : c ≠ '/')
    (cs : List Char) : skipGap .blank (c :: cs) = .ok (c :: cs) := by
  unfold skipGap
  split
  all_goals first
    | rfl
    | simp_all

theorem next_cons {c : Char} (hblank : Text.isBlank c = false) (hslash : c ≠ '/')
    {cs rest : List Char} {t : Token} (htoken : readToken c cs = .ok (t, rest)) :
    next (c :: cs) = .ok (some t, rest) := by
  rw [next, skipGap_cons hblank hslash]
  simp only [bind, Except.bind, htoken]
  rfl

theorem next_nil : next [] = .ok (none, []) := rfl

/-- A character that is a token of its own. -/
theorem next_punctuation {c : Char} {t : Token} (h : punctuation? c = some t) (cs : List Char) :
    next (c :: cs) = .ok (some t, cs) := by
  have hstart : Text.isBlank c = false ∧ c ≠ '/' := by
    unfold punctuation? at h
    split_ifs at h with h1 h2 h3 h4 h5 h6
    all_goals simp_all
    all_goals decide
  refine next_cons hstart.1 hstart.2 ?_
  rw [readToken, h]

/-! ## Strings -/

theorem hexNumber_of_hexText {n : Nat} {hs : List Char} (h : HexText n hs) : hexNumber hs = n := by
  cases h with
  | digits ha hb hc hd =>
      simp [hexNumber, Json.hexValue?_of_hexDigit ha, Json.hexValue?_of_hexDigit hb,
        Json.hexValue?_of_hexDigit hc, Json.hexValue?_of_hexDigit hd]

/-- What becomes of a string after the four digits of an escape. -/
def afterUnit (hs cs : List Char) : Option (List Char) → OrFault (List Char × List Char)
  | none =>
    match Unit16.ofDigits hs with
    | .char e => consRead e (readString '"' .text cs)
    | .high => readString '"' (.afterHigh hs) cs
    | .low => .error (loneHalf hs "unpaired low surrogate")
  | some high =>
    match Unit16.ofDigits hs with
    | .low =>
      consRead (Json.pairedChar (hexNumber high) (hexNumber hs)) (readString '"' .text cs)
    | _ => .error (loneHalf high "high surrogate not followed by low surrogate")

theorem readString_hex {n : Nat} {hs : List Char} (h : HexText n hs) (high : Option (List Char))
    (cs : List Char) : readString '"' (.hex 3 [] high) (hs ++ cs) = afterUnit hs cs high := by
  cases h with
  | digits ha hb hc hd =>
      simp only [List.cons_append, List.nil_append, readString, Json.hexValue?_of_hexDigit ha,
        Json.hexValue?_of_hexDigit hb, Json.hexValue?_of_hexDigit hc, Json.hexValue?_of_hexDigit hd,
        Option.isNone_some, Bool.false_eq_true, if_false]
      cases high <;> rfl

theorem escaped_of_mem {l c : Char} (h : (l, c) ∈ Json.letterEscapes) :
    l ≠ 'u' ∧ escaped '"' l = .ok c := by
  simp only [Json.letterEscapes, List.mem_cons, Prod.mk.injEq, List.not_mem_nil, or_false] at h
  rcases h with ⟨rfl, rfl⟩ | ⟨rfl, rfl⟩ | ⟨rfl, rfl⟩ | ⟨rfl, rfl⟩ | ⟨rfl, rfl⟩ | ⟨rfl, rfl⟩ |
    ⟨rfl, rfl⟩ | ⟨rfl, rfl⟩
  all_goals exact ⟨by decide, rfl⟩

/-- Every spelling of a character is read as the character. -/
theorem readString_char {c : Char} {t : List Char} (h : CharText c t) (cs : List Char) :
    readString '"' .text (t ++ cs) = consRead c (readString '"' .text cs) := by
  cases h with
  | plain hplain =>
      obtain ⟨-, hquote, hslash⟩ := hplain
      rw [List.singleton_append, readString, if_neg (by simpa using hquote),
        if_neg (by simpa using hslash)]
  | letter hletter =>
      obtain ⟨hu, hescaped⟩ := escaped_of_mem hletter
      simp [readString, hu, hescaped]
  | @unit _ hs hunit =>
      obtain ⟨hlow, hhigh⟩ := Json.not_half c
      have hchar : Unit16.ofDigits hs = .char c := by
        simp [Unit16.ofDigits, hexNumber_of_hexText hunit, hlow, hhigh]
      simp [readString, readString_hex hunit, afterUnit, hchar]
  | @pair _ hs ls hbeyond hhs hls =>
      obtain ⟨-, hhigh, hlow, hpair⟩ := Json.halves hbeyond
      have hlowNot : Json.isHighHalf (Json.lowHalf c) = false := by
        rw [Bool.eq_false_iff, ne_eq, Json.isHighHalf_iff]
        have hrange := Json.isLowHalf_iff.mp hlow
        omega
      have hfirst : Unit16.ofDigits hs = .high := by
        simp [Unit16.ofDigits, hexNumber_of_hexText hhs, hhigh]
      have hsecond : Unit16.ofDigits ls = .low := by
        simp [Unit16.ofDigits, hexNumber_of_hexText hls, hlow, hlowNot]
      simp [readString, readString_hex hhs, readString_hex hls, afterUnit, hfirst, hsecond,
        hexNumber_of_hexText hhs, hexNumber_of_hexText hls, hpair]

theorem readString_chars {s t : List Char} (h : CharsText s t) (rest : List Char) :
    readString '"' .text (t ++ '"' :: rest) = .ok (s, rest) := by
  induction h with
  | nil => rfl
  | cons hc _ ih => rw [List.append_assoc, readString_char hc, ih, consRead]

theorem next_string {s : String} {v : List Char} (h : StringText s v) (rest : List Char) :
    next (v ++ rest) = .ok (some (.string s), rest) := by
  obtain ⟨body, hbody, rfl⟩ := h
  rw [List.append_assoc, List.cons_append]
  refine next_cons (by decide) (by decide) ?_
  show (readString '"' .text (body ++ '"' :: rest)).map _ = _
  rw [readString_chars hbody]
  show Except.ok (Token.string (String.ofList s.toList), rest) = _
  rw [String.ofList_toList]

/-! ## Numbers -/

theorem isDigit_eq (c : Char) : isDigit c = c.isDigit := by
  rw [isDigit, Json.digitValue?_eq]
  cases c.isDigit <;> rfl

theorem someOf_digits {ds rest : List Char} (hds : Json.Digits ds) (hrest : Json.NoDigit rest)
    (fault : Fault) : someOf isDigit fault (ds ++ rest) = .ok (ds, rest) := by
  obtain ⟨hne, hall⟩ := hds
  have hdigits : ∀ c ∈ ds, isDigit c = true := fun c hc => (isDigit_eq c).trans (hall c hc)
  have hspan : (ds ++ rest).span isDigit = (ds, rest) := by
    rw [List.span_eq_takeWhile_dropWhile, List.takeWhile_append_of_pos hdigits,
      List.dropWhile_append_of_pos hdigits]
    cases rest with
    | nil => simp
    | cons c rest => simp [isDigit_eq, hrest c rfl]
  rw [someOf, hspan]
  simp [hne]

theorem fractionText_ends {rest : List Char} (h : rest.head? ≠ some '.') :
    fractionText rest = .ok ([], rest) := by
  unfold fractionText
  split
  · exact absurd rfl h
  · rfl

theorem exponentText_ends {rest : List Char}
    (h : rest.head? ≠ some 'e' ∧ rest.head? ≠ some 'E') : exponentText rest = .ok ([], rest) := by
  cases rest with
  | nil => rfl
  | cons c rest =>
      have hc : (c == 'e' || c == 'E') = false := by simpa using h
      unfold exponentText
      dsimp only
      rw [if_neg (Bool.eq_false_iff.mp hc)]

theorem wholeText_append {t rest : List Char} (ht : WholeText t) (hrest : Ends rest) :
    wholeText (t ++ rest) = .ok (t, rest) := by
  unfold wholeText
  split
  · rename_i cs heq
    -- A zero in front is all there is.
    obtain ⟨d, ds, rfl, -⟩ := ht.begins_digit
    obtain ⟨rfl, hcs⟩ := List.cons.inj heq
    obtain rfl : ds = [] := (List.cons.inj (ht.2 rfl)).2
    rw [← hcs]
    rfl
  · exact someOf_digits ht.1 hrest.noDigit _

theorem decimal_append {t rest : List Char} (ht : WholeText t) (hrest : Ends rest) :
    unsignedText.decimal (t ++ rest) = .ok (t, rest) := by
  have hfraction := fractionText_ends (hrest.head?_ne (by decide))
  have hexponent := exponentText_ends ⟨hrest.head?_ne (by decide), hrest.head?_ne (by decide)⟩
  rw [unsignedText.decimal, wholeText_append ht hrest]
  simp only [bind, Except.bind, hfraction, hexponent, List.append_nil]
  rfl

/-- What follows a lone zero is no `x`. -/
theorem unsignedText_append {t rest : List Char} (ht : WholeText t) (hrest : Ends rest) :
    unsignedText (t ++ rest) = .ok (t, rest) := by
  unfold unsignedText
  split
  · rename_i x behind heq
    obtain ⟨d, ds, rfl, -⟩ := ht.begins_digit
    obtain ⟨rfl, hcs⟩ := List.cons.inj heq
    obtain rfl : ds = [] := (List.cons.inj (ht.2 rfl)).2
    have hx : (x == 'x' || x == 'X') = false := by
      have hall : ∀ c, c ∈ Json.gapChars ∨ c ∈ [',', ']', '\x7d'] →
          (c == 'x' || c == 'X') = false := by
        intro c hc
        simp only [Json.gapChars, List.mem_cons, List.not_mem_nil, or_false] at hc
        rcases hc with (rfl | rfl | rfl | rfl) | rfl | rfl | rfl <;> rfl
      exact hall x (hrest x (congrArg List.head? hcs))
    rw [if_neg (Bool.eq_false_iff.mp hx)]
    exact decimal_append ht hrest
  · exact decimal_append ht hrest

theorem next_natural {n : Nat} {t rest : List Char} (h : NaturalText n t) (hrest : Ends rest) :
    next (t ++ rest) = .ok (some (.number t), rest) := by
  have hunsigned := unsignedText_append h.1 hrest
  obtain ⟨d, ds, rfl, hd⟩ := h.1.begins_digit
  have hne : ∀ c, c.isDigit = false → d ≠ c := by
    rintro c hc rfl
    exact Bool.false_ne_true (hc.symm.trans hd)
  have hpunctuation : punctuation? d = none := by
    simp [punctuation?, hne '\x7b' rfl, hne '\x7d' rfl, hne '[' rfl, hne ']' rfl, hne ',' rfl,
      hne ':' rfl]
  have hnumber : numberText (d :: (ds ++ rest)) = .ok (d :: ds, rest) := by
    unfold numberText
    split
    · rename_i heq
      exact absurd (List.cons.inj heq).1 (hne _ rfl)
    · rename_i heq
      exact absurd (List.cons.inj heq).1 (hne _ rfl)
    · exact hunsigned
  have hblank : Text.isBlank d = false := by
    have hcode := Char.isDigit_iff_toNat.mp hd
    have hbounds : 48 ≤ d.toNat ∧ d.toNat ≤ 57 := hcode
    simp only [Text.isBlank, Bool.or_eq_false_iff, Bool.and_eq_false_iff, beq_eq_false_iff_ne,
      decide_eq_false_iff_not]
    omega
  rw [List.cons_append]
  refine next_cons hblank (hne _ rfl) ?_
  rw [readToken, hpunctuation]
  simp [hne '"' rfl, hne '\'' rfl, hne '/' rfl, isDigit_eq, hd, hnumber, Except.map]

theorem numberValue_natural {n : Nat} {t : List Char} (h : NaturalText n t)
    (hn : n ≤ Json.greatestNatural) : numberValue t = .ofNat n := by
  have hread := Json.readNumber_natural h hn Ends.nil
  rw [List.append_nil] at hread
  obtain ⟨d, ds, rfl, hd⟩ := h.1.begins_digit
  have hne : ∀ c, c.isDigit = false → d ≠ c := by
    rintro c hc rfl
    exact Bool.false_ne_true (hc.symm.trans hd)
  have hhex : hexDigits? (d :: ds) = none := by
    unfold hexDigits?
    split
    · rename_i heq
      obtain ⟨rfl, hds⟩ := List.cons.inj heq
      exact absurd (hds.symm.trans (List.cons.inj (h.1.2 rfl)).2) (by simp)
    · rename_i heq
      obtain ⟨rfl, hds⟩ := List.cons.inj heq
      exact absurd (hds.symm.trans (List.cons.inj (h.1.2 rfl)).2) (by simp)
    · rfl
  unfold numberValue
  split
  rename_i negative unsigned hsign
  have hplain : negative = false ∧ unsigned = d :: ds := by
    split at hsign
    · rename_i heq
      exact absurd (List.cons.inj heq).1 (hne _ rfl)
    · rename_i heq
      exact absurd (List.cons.inj heq).1 (hne _ rfl)
    · obtain ⟨rfl, rfl⟩ := Prod.mk.inj hsign
      exact ⟨rfl, rfl⟩
  obtain ⟨rfl, rfl⟩ := hplain
  simp only [hhex, hread]
  rfl

/-! ## Words -/

/-- What may follow a value is not taken for a part of a word. -/
theorem not_alphanumeric_of_ends {rest : List Char} (h : Ends rest) :
    rest.head?.any Text.isAlphanumeric = false := by
  have hall : ∀ c, c ∈ Json.gapChars ∨ c ∈ [',', ']', '\x7d'] → Text.isAlphanumeric c = false := by
    intro c hc
    simp only [Json.gapChars, List.mem_cons, List.not_mem_nil, or_false] at hc
    rcases hc with (rfl | rfl | rfl | rfl) | rfl | rfl | rfl <;> decide
  cases rest with
  | nil => rfl
  | cons c rest => exact hall c (h c rfl)

theorem afterLiteral?_append (word : List Char) {rest : List Char} (h : Ends rest) :
    afterLiteral? word (word ++ rest) = some rest := by
  simp [afterLiteral?, not_alphanumeric_of_ends h]

/-- A literal word and its token. -/
inductive Literal : List Char → Token → Prop
  | null : Literal ['n', 'u', 'l', 'l'] .null
  | true : Literal ['t', 'r', 'u', 'e'] (.bool true)
  | false : Literal ['f', 'a', 'l', 's', 'e'] (.bool false)

theorem next_literal {word : List Char} {t : Token} (h : Literal word t) {rest : List Char}
    (hrest : Ends rest) : next (word ++ rest) = .ok (some t, rest) := by
  have hafter := afterLiteral?_append word hrest
  cases h with
  | null =>
      refine next_cons (by decide) (by decide) ?_
      show readWordToken (['n', 'u', 'l', 'l'] ++ rest) = _
      rw [readWordToken, hafter]
      rfl
  | true =>
      refine next_cons (by decide) (by decide) ?_
      show readWordToken (['t', 'r', 'u', 'e'] ++ rest) = _
      rw [readWordToken, hafter]
  | false =>
      refine next_cons (by decide) (by decide) ?_
      show readWordToken (['f', 'a', 'l', 's', 'e'] ++ rest) = _
      rw [readWordToken, hafter]
      rfl

end LintRelay.Jsonc
