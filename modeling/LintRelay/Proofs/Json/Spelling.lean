import LintRelay.Json.Reader
import LintRelay.Proofs.Json.Lexer
import Mathlib.Data.List.TakeWhile

/-!
# How the words of JSON are spelled

The converse of reading words: whatever a reader of blanks, strings or numbers takes from the front
of a text is spelled as the grammar says, and what it leaves is what follows. A string is taken as
the characters that it spells; a string that is only passed over may hold halves of pairs.
-/

namespace LintRelay.Json

/-- What stands behind a step that succeeds has succeeded. -/
theorem exists_of_bind_ok {ε α β : Type} {x : Except ε α} {f : α → Except ε β} {b : β}
    (h : x.bind f = .ok b) : ∃ a, x = .ok a ∧ f a = .ok b := by
  cases x with
  | error e => exact absurd h (by simp [Except.bind])
  | ok a => exact ⟨a, rfl, h⟩

/-! ## Blanks -/

theorem mem_gapChars_of_isGap {c : Char} (h : isGap c = true) : c ∈ gapChars := by
  simp only [isGap, Bool.or_eq_true, beq_iff_eq] at h
  rcases h with ((rfl | rfl) | rfl) | rfl <;> decide

/-- A text is its blanks and what is left of them. -/
theorem exists_gap (cs : List Char) : ∃ g, Gap g ∧ cs = g ++ skipGap cs := by
  refine ⟨cs.takeWhile isGap, ?_, List.takeWhile_append_dropWhile.symm⟩
  intro c hc
  exact mem_gapChars_of_isGap (List.mem_takeWhile_imp hc)

theorem gap_of_skipGap_eq_nil {cs : List Char} (h : skipGap cs = []) : Gap cs := by
  obtain ⟨g, hg, hcs⟩ := exists_gap cs
  rw [h, List.append_nil] at hcs
  exact hcs ▸ hg

theorem exists_gap_cons {cs rest : List Char} {c : Char} (h : skipGap cs = c :: rest) :
    ∃ g, Gap g ∧ cs = g ++ c :: rest := by
  obtain ⟨g, hg, hcs⟩ := exists_gap cs
  exact ⟨g, hg, hcs.trans (by rw [h])⟩

theorem eq_of_expectWord {word cs rest : List Char} (h : expectWord word cs = .ok rest) :
    cs = word ++ rest := by
  induction word generalizing cs with
  | nil => exact Except.ok.inj h
  | cons w word ih =>
      cases cs with
      | nil => exact absurd h (by simp [expectWord])
      | cons c cs =>
          rw [expectWord] at h
          split at h
          · rename_i hc
            rw [eq_of_beq hc, ih h, List.cons_append]
          · exact absurd h (by simp)

/-! ## Hexadecimal escapes -/

theorem hexDigit_of_hexValue? {d : Nat} {c : Char} (h : hexValue? c = some d) : HexDigit d c := by
  have hall : ∀ n < 103, (hexValue? (Char.ofNat n)).all fun d =>
      d < 16 && (Char.ofNat n == d.digitChar || Char.ofNat n == d.digitChar.toUpper) := by
    decide
  have hbound : c.toNat < 103 := by
    have hle : c ≤ '9' ∨ c ≤ 'f' ∨ c ≤ 'F' := by
      unfold hexValue? at h
      split_ifs at h <;> simp_all
    have toNat_le : ∀ {d : Char}, c ≤ d → c.toNat ≤ d.toNat := UInt32.le_iff_toNat_le.mp
    rcases hle with hle | hle | hle
    · exact Nat.lt_of_le_of_lt (toNat_le hle) (by decide)
    · exact Nat.lt_of_le_of_lt (toNat_le hle) (by decide)
    · exact Nat.lt_of_le_of_lt (toNat_le hle) (by decide)
  have hc := hall c.toNat hbound
  rw [Char.ofNat_toNat, h, Option.all_some, Bool.and_eq_true, Bool.or_eq_true] at hc
  obtain ⟨hd, hc | hc⟩ := hc
  · rw [eq_of_beq hc]
    exact .lower (of_decide_eq_true hd)
  · rw [eq_of_beq hc]
    exact .upper (of_decide_eq_true hd)

/-- What a string goes on with after a digit of an escape that has the value `n` so far. -/
def afterDigit (missing n : Nat) (high : Option Nat) (cs : List Char) :
    OrError (List Char × List Char) :=
  match missing with
  | k + 1 => readString (.hex k n high) cs
  | 0 => afterUnit n cs high

theorem exists_digit_of_readString {missing value : Nat} {high : Option Nat} {cs : List Char}
    {r : List Char × List Char} (h : readString (.hex missing value high) cs = .ok r) :
    ∃ d c rest, HexDigit d c ∧ cs = c :: rest ∧
      afterDigit missing (value * 16 + d) high rest = .ok r := by
  cases cs with
  | nil => exact absurd h (by simp [readString])
  | cons c rest =>
      cases hvalue : hexValue? c with
      | none => simp [readString, hvalue] at h
      | some d =>
          refine ⟨d, c, rest, hexDigit_of_hexValue? hvalue, rfl, ?_⟩
          simp only [readString, hvalue] at h
          cases missing with
          | succ k => exact h
          | zero => cases high <;> exact h

theorem exists_hexText_of_readString {high : Option Nat} {cs : List Char}
    {r : List Char × List Char} (h : readString (.hex 3 0 high) cs = .ok r) :
    ∃ n hs rest, HexText n hs ∧ cs = hs ++ rest ∧ afterUnit n rest high = .ok r := by
  obtain ⟨a, w, _, hw, rfl, hfirst⟩ := exists_digit_of_readString h
  obtain ⟨b, x, _, hx, rfl, hsecond⟩ := exists_digit_of_readString hfirst
  obtain ⟨c, y, _, hy, rfl, hthird⟩ := exists_digit_of_readString hsecond
  obtain ⟨d, z, rest, hz, rfl, hlast⟩ := exists_digit_of_readString hthird
  rw [Nat.zero_mul, Nat.zero_add] at hlast
  exact ⟨_, _, rest, .digits hw hx hy hz, rfl, hlast⟩

theorem exists_hexText_of_skipString {cs rest : List Char} {value : Nat} {high : Option Nat}
    (h : skipString (.hex 3 value high) cs = .ok rest) :
    ∃ n hs cs', HexText n hs ∧ cs = hs ++ cs' ∧ skipString .text cs' = .ok rest := by
  have digit : ∀ {missing value : Nat} {high : Option Nat} {cs : List Char},
      skipString (.hex missing value high) cs = .ok rest →
      ∃ d c cs', HexDigit d c ∧ cs = c :: cs' ∧
        (match missing with
          | k + 1 => skipString (.hex k 0 none) cs'
          | 0 => skipString .text cs') = .ok rest := by
    intro missing value high cs h
    cases cs with
    | nil => exact absurd h (by simp [skipString])
    | cons c cs' =>
        cases hvalue : hexValue? c with
        | none => simp [skipString, hvalue] at h
        | some d =>
            refine ⟨d, c, cs', hexDigit_of_hexValue? hvalue, rfl, ?_⟩
            simp only [skipString, hvalue] at h
            cases missing <;> exact h
  obtain ⟨a, w, _, hw, rfl, hfirst⟩ := digit h
  obtain ⟨b, x, _, hx, rfl, hsecond⟩ := digit hfirst
  obtain ⟨c, y, _, hy, rfl, hthird⟩ := digit hsecond
  obtain ⟨d, z, cs', hz, rfl, hlast⟩ := digit hthird
  exact ⟨_, _, cs', .digits hw hx hy hz, rfl, hlast⟩

theorem HexDigit.lt {d : Nat} {c : Char} (h : HexDigit d c) : d < 16 := by
  cases h <;> assumption

theorem HexText.lt {n : Nat} {hs : List Char} (h : HexText n hs) : n < 0x10000 := by
  cases h with
  | digits ha hb hc hd =>
      have hlt := And.intro ha.lt (And.intro hb.lt (And.intro hc.lt hd.lt))
      omega

theorem toNat_ofNat_of_valid {n : Nat} (h : n.isValidChar) : (Char.ofNat n).toNat = n := by
  rw [Char.ofNat, dif_pos h]
  rfl

/-- Two halves are those of the character that they make. -/
theorem halves_pairedChar {high low : Nat} (hhigh : isHighHalf high = true)
    (hlow : isLowHalf low = true) :
    0x10000 ≤ (pairedChar high low).toNat ∧ highHalf (pairedChar high low) = high ∧
      lowHalf (pairedChar high low) = low := by
  have hh := isHighHalf_iff.mp hhigh
  have hl := isLowHalf_iff.mp hlow
  have hnat : (pairedChar high low).toNat =
      (high - 0xD800) * 0x400 + (low - 0xDC00) + 0x10000 := by
    refine toNat_ofNat_of_valid (.inr ?_)
    omega
  refine ⟨by omega, ?_, ?_⟩
  · unfold highHalf
    omega
  · unfold lowHalf
    omega

/-- A code unit that is no half is the code of a character. -/
theorem toNat_ofNat_of_not_half {n : Nat} (hn : n < 0x10000) (hlow : isLowHalf n = false)
    (hhigh : isHighHalf n = false) : (Char.ofNat n).toNat = n := by
  rw [Bool.eq_false_iff, ne_eq, isLowHalf_iff] at hlow
  rw [Bool.eq_false_iff, ne_eq, isHighHalf_iff] at hhigh
  refine toNat_ofNat_of_valid ?_
  rcases Nat.lt_or_ge n 0xD800 with hsmall | hlarge
  · exact .inl hsmall
  · exact .inr (by omega)

/-! ## Strings -/

theorem exists_of_consRead_ok {c : Char} {s : OrError (List Char × List Char)} {t rest : List Char}
    (h : consRead c s = .ok (t, rest)) : ∃ t', s = .ok (t', rest) ∧ t = c :: t' := by
  cases s with
  | error e => exact absurd h (by simp [consRead])
  | ok p =>
      obtain ⟨t', rest'⟩ := p
      obtain ⟨ht, hrest⟩ := Prod.mk.inj (Except.ok.inj h)
      exact ⟨t', by rw [hrest], ht.symm⟩

theorem mem_letterEscapes_of_simpleEscape? {l c : Char} (h : simpleEscape? l = some c) :
    (l, c) ∈ letterEscapes := by
  unfold simpleEscape? at h
  simp only [beq_iff_eq] at h
  split_ifs at h <;> cases h <;> subst_vars <;> decide

/-- Whether a text begins with a spelling of `c` and the string goes on behind it. -/
def Spells (c : Char) (cs : List Char) (r : List Char × List Char) : Prop :=
  ∃ t cs', CharText c t ∧ cs = t ++ cs' ∧ consRead c (readString .text cs') = .ok r

/-- The second half of a pair follows the first. -/
theorem exists_lowUnit_of_readString {high : Nat} {cs : List Char} {r : List Char × List Char}
    (h : readString (.afterHigh high) cs = .ok r) :
    ∃ low hs cs', HexText low hs ∧ isLowHalf low = true ∧ cs = '\\' :: 'u' :: (hs ++ cs') ∧
      consRead (pairedChar high low) (readString .text cs') = .ok r := by
  match cs with
  | [] => simp [readString] at h
  | [c] =>
      simp only [readString] at h
      split_ifs at h
  | c :: u :: cs =>
      simp only [readString] at h
      split_ifs at h with hslash hu hroom
      obtain ⟨low, hs, cs', hunit, rfl, hrest⟩ := exists_hexText_of_readString h
      dsimp only [afterUnit] at hrest
      split_ifs at hrest with hlow
      exact ⟨low, hs, cs', hunit, hlow, by rw [eq_of_beq hslash, eq_of_beq hu], hrest⟩

/-- A backslash begins a spelling. -/
theorem spells_of_escape {cs : List Char} {r : List Char × List Char}
    (h : readString .escape cs = .ok r) : ∃ c, Spells c ('\\' :: cs) r := by
  match cs with
  | [] => simp [readString] at h
  | l :: cs =>
      rw [readString] at h
      split_ifs at h with hu hroom
      · obtain ⟨n, hs, cs', hunit, rfl, hrest⟩ := exists_hexText_of_readString h
        obtain rfl := eq_of_beq hu
        dsimp only [afterUnit] at hrest
        split_ifs at hrest with hlow hhigh
        · obtain ⟨low, ls, cs'', hsecond, hlow, rfl, hmore⟩ := exists_lowUnit_of_readString hrest
          obtain ⟨hbeyond, heqHigh, heqLow⟩ := halves_pairedChar hhigh hlow
          rw [← heqHigh] at hunit
          rw [← heqLow] at hsecond
          exact ⟨_, _, cs'', .pair hbeyond hunit hsecond, by simp, hmore⟩
        · have hcode := toNat_ofNat_of_not_half hunit.lt (Bool.eq_false_iff.mpr hlow)
            (Bool.eq_false_iff.mpr hhigh)
          rw [← hcode] at hunit
          exact ⟨_, _, cs', .unit hunit, by simp, hrest⟩
      · cases hsimple : simpleEscape? l with
        | none => simp [hsimple] at h
        | some e =>
            simp only [hsimple] at h
            exact ⟨e, _, cs, .letter (mem_letterEscapes_of_simpleEscape? hsimple), rfl, h⟩

/-- A string is closed, or goes on with a character. -/
theorem cases_of_readString {cs : List Char} {r : List Char × List Char}
    (h : readString .text cs = .ok r) : (∃ rest, cs = '"' :: rest ∧ r = ([], rest)) ∨
      ∃ c, Spells c cs r := by
  cases cs with
  | nil => simp [readString] at h
  | cons c cs =>
      rw [readString] at h
      split_ifs at h with hquote hslash hcontrol
      · rw [eq_of_beq hquote]
        exact .inl ⟨cs, rfl, (Except.ok.inj h).symm⟩
      · rw [eq_of_beq hslash]
        exact .inr (spells_of_escape h)
      · have hplain : IsPlain c := ⟨by omega, by simpa using hquote, by simpa using hslash⟩
        exact .inr ⟨c, [c], cs, .plain hplain, rfl, h⟩

theorem CharText.ne_nil {c : Char} {t : List Char} (h : CharText c t) : t ≠ [] := by
  cases h <;> simp

/-- What is read of a string is what stands before the closing quote. -/
theorem charsText_of_readString {cs s rest : List Char}
    (h : readString .text cs = .ok (s, rest)) :
    ∃ body, CharsText s body ∧ cs = body ++ '"' :: rest := by
  induction hlength : cs.length using Nat.strongRecOn generalizing cs s with
  | ind n ih =>
      rcases cases_of_readString h with ⟨rest', rfl, hr⟩ | ⟨c, t, cs', hc, rfl, hmore⟩
      · obtain ⟨rfl, rfl⟩ := Prod.mk.inj hr
        exact ⟨[], .nil, rfl⟩
      · obtain ⟨s', hread, rfl⟩ := exists_of_consRead_ok hmore
        have hshorter : cs'.length < n := by
          have hpos := List.length_pos_of_ne_nil hc.ne_nil
          simp only [List.length_append] at hlength
          omega
        obtain ⟨body, hbody, rfl⟩ := ih _ hshorter hread rfl
        exact ⟨t ++ body, .cons hc hbody, (List.append_assoc ..).symm⟩

theorem stringText_of_readString {cs s rest : List Char}
    (h : readString .text cs = .ok (s, rest)) :
    ∃ v, StringText (String.ofList s) v ∧ '"' :: cs = v ++ rest := by
  obtain ⟨body, hbody, rfl⟩ := charsText_of_readString h
  refine ⟨_, ⟨body, ?_, rfl⟩, by simp⟩
  rwa [String.toList_ofList]

/-- What is passed over of a string is what stands before the closing quote. -/
theorem looseChars_of_skipString {cs rest : List Char} (h : skipString .text cs = .ok rest) :
    ∃ body, LooseChars body ∧ cs = body ++ '"' :: rest := by
  induction hlength : cs.length using Nat.strongRecOn generalizing cs with
  | ind n ih =>
      match cs with
      | [] => simp [skipString] at h
      | [c] =>
          simp only [skipString] at h
          split_ifs at h with hquote
          rw [eq_of_beq hquote, Except.ok.inj h]
          exact ⟨[], .nil, rfl⟩
      | c :: l :: cs =>
          rw [skipString] at h
          split_ifs at h with hquote hslash hcontrol
          · rw [eq_of_beq hquote, Except.ok.inj h]
            exact ⟨[], .nil, rfl⟩
          · obtain rfl := eq_of_beq hslash
            rw [skipString] at h
            split_ifs at h with hu hroom hsimple
            · obtain ⟨code, hs, cs', hunit, rfl, hmore⟩ := exists_hexText_of_skipString h
              have hshorter : cs'.length < n := by
                simp only [List.length_cons, List.length_append] at hlength
                omega
              obtain ⟨body, hbody, rfl⟩ := ih _ hshorter hmore rfl
              rw [eq_of_beq hu]
              exact ⟨_, .unit hunit hbody, by simp⟩
            · obtain ⟨e, he⟩ := Option.isSome_iff_exists.mp hsimple
              have hshorter : cs.length < n := by
                simp only [List.length_cons] at hlength
                omega
              obtain ⟨body, hbody, rfl⟩ := ih _ hshorter h rfl
              exact ⟨_, .letter (mem_letterEscapes_of_simpleEscape? he) hbody, rfl⟩
          · have hplain : IsPlain c := ⟨by omega, by simpa using hquote, by simpa using hslash⟩
            have hshorter : (l :: cs).length < n := by
              simp only [List.length_cons] at hlength ⊢
              omega
            obtain ⟨body, hbody, hcs⟩ := ih _ hshorter h rfl
            exact ⟨c :: body, .plain hplain hbody, by rw [hcs, List.cons_append]⟩

theorem looseText_of_skipString {cs rest : List Char} (h : skipString .text cs = .ok rest) :
    ∃ v, LooseText v ∧ '"' :: cs = v ++ rest := by
  obtain ⟨body, hbody, rfl⟩ := looseChars_of_skipString h
  exact ⟨_, ⟨body, hbody, rfl⟩, by simp⟩

/-! ## Numbers -/

/-- A text is the digits at its front and what is left of them. -/
theorem exists_digits_of_spanDigits (cs : List Char) :
    ∃ t, (∀ c ∈ t, c.isDigit = true) ∧ (spanDigits cs).1 = t.map digitOf ∧
      cs = t ++ (spanDigits cs).2 := by
  induction cs with
  | nil => exact ⟨[], by simp, rfl, rfl⟩
  | cons c cs ih =>
      by_cases hc : c.isDigit = true
      · obtain ⟨t, ht, hds, hcs⟩ := ih
        refine ⟨c :: t, List.forall_mem_cons.mpr ⟨hc, ht⟩, ?_, ?_⟩
        · simp [spanDigits, digitValue?_eq, hc, hds]
        · simpa [spanDigits, digitValue?_eq, hc] using hcs
      · exact ⟨[], by simp, by simp [spanDigits, digitValue?_eq, hc],
          by simp [spanDigits, digitValue?_eq, hc]⟩

theorem exists_digits_of_someDigits {e : ReadError} {cs rest : List Char} {ds : List Nat}
    (h : someDigits e cs = .ok (ds, rest)) :
    ∃ t, Digits t ∧ ds = t.map digitOf ∧ cs = t ++ rest := by
  obtain ⟨t, ht, hds, hcs⟩ := exists_digits_of_spanDigits cs
  have hspan : spanDigits cs = (ds, rest) ∧ ds ≠ [] := by
    unfold someDigits at h
    split at h
    · simp at h
    · simp at h
    · rename_i ds' rest' hnotEnd hnotEmpty heq
      obtain ⟨rfl, rfl⟩ := Prod.mk.inj (Except.ok.inj h)
      refine ⟨heq, ?_⟩
      rintro rfl
      cases rest' with
      | nil => exact hnotEnd rfl rfl
      | cons c rest' => exact hnotEmpty c rest' rfl rfl
  rw [hspan.1] at hds hcs
  refine ⟨t, ⟨?_, ht⟩, hds, hcs⟩
  rintro rfl
  exact hspan.2 hds

theorem exists_wholeText_of_wholeDigits {e : ReadError} {cs rest : List Char} {ds : List Nat}
    (h : wholeDigits e cs = .ok (ds, rest)) :
    ∃ t, WholeText t ∧ ds = t.map digitOf ∧ cs = t ++ rest := by
  have hshape : someDigits e cs = .ok (ds, rest) ∧ ∀ d ds', ds ≠ 0 :: d :: ds' := by
    unfold wholeDigits at h
    split at h
    · simp at h
    · rename_i hnotZero
      refine ⟨h, ?_⟩
      rintro d ds' rfl
      exact hnotZero d ds' rest h
  obtain ⟨t, ht, rfl, rfl⟩ := exists_digits_of_someDigits hshape.1
  refine ⟨t, ⟨ht, ?_⟩, rfl, rfl⟩
  intro hzero
  match t with
  | [] => simp at hzero
  | [c] => rw [Option.some.inj hzero]
  | c :: d :: t =>
      rw [Option.some.inj hzero] at hshape
      exact absurd rfl (hshape.2 (digitOf d) (t.map digitOf))

theorem exists_fractionText_of_fractionDigits {e : ReadError} {cs rest : List Char}
    {point : Bool} {ds : List Nat} (h : fractionDigits e cs = .ok ((point, ds), rest)) :
    ∃ t, FractionText t ∧ cs = t ++ rest ∧ (point = false → t = []) := by
  unfold fractionDigits at h
  split at h
  · rename_i cs
    cases hdigits : someDigits e cs with
    | error e => simp [hdigits] at h
    | ok p =>
        rw [hdigits] at h
        obtain ⟨hpoint, rfl⟩ := Prod.mk.inj (Except.ok.inj h)
        obtain ⟨t, ht, -, rfl⟩ := exists_digits_of_someDigits hdigits
        refine ⟨'.' :: t, .present ht, rfl, ?_⟩
        rintro rfl
        exact absurd (Prod.mk.inj hpoint).1 (by simp)
  · obtain ⟨-, rfl⟩ := Prod.mk.inj (Except.ok.inj h)
    exact ⟨[], .absent, rfl, fun _ => rfl⟩

theorem exists_sign_of_exponentSign (cs : List Char) :
    ∃ sign ∈ [[], ['+'], ['-']], cs = sign ++ (exponentSign cs).2 := by
  unfold exponentSign
  split
  · exact ⟨['+'], by simp, rfl⟩
  · exact ⟨['-'], by simp, rfl⟩
  · exact ⟨[], by simp, rfl⟩

theorem exists_exponentText_of_exponentPart {e : ReadError} {cs rest : List Char}
    {x : Option Int} (h : exponentPart e cs = .ok (x, rest)) :
    ∃ t, ExponentText t ∧ cs = t ++ rest ∧ (x = none → t = []) := by
  cases cs with
  | nil =>
      obtain ⟨-, rfl⟩ := Prod.mk.inj (Except.ok.inj h)
      exact ⟨[], .absent, rfl, fun _ => rfl⟩
  | cons c cs =>
      rw [exponentPart] at h
      split_ifs at h with hletter
      · obtain ⟨sign, hsign, hcs⟩ := exists_sign_of_exponentSign cs
        dsimp only at h
        cases hdigits : someDigits e (exponentSign cs).2 with
        | error e => simp [hdigits] at h
        | ok p =>
            rw [hdigits] at h
            obtain ⟨hx, rfl⟩ := Prod.mk.inj (Except.ok.inj h)
            obtain ⟨t, ht, -, hrest⟩ := exists_digits_of_someDigits hdigits
            refine ⟨c :: sign ++ t, .present (by simpa using hletter) hsign ht, ?_, ?_⟩
            · rw [hcs, hrest, List.cons_append, List.cons_append, List.append_assoc]
            · rintro rfl
              exact absurd hx (by simp)
      · obtain ⟨-, rfl⟩ := Prod.mk.inj (Except.ok.inj h)
        exact ⟨[], .absent, rfl, fun _ => rfl⟩

/-- A number is scanned as what it is spelled. Where neither a point nor an exponent is noted, its
whole digits are all of it. -/
theorem exists_unsignedText_of_scanNumber {e : ReadError} {negative : Bool} {cs rest : List Char}
    {n : NumberText} (h : scanNumber e negative cs = .ok (n, rest)) :
    ∃ t, UnsignedText t ∧ cs = t ++ rest ∧ n.negative = negative ∧
      (n.hasPoint = false → n.exponent = none → WholeText t ∧ n.whole = t.map digitOf) := by
  obtain ⟨⟨ds, cs'⟩, hwhole, hmore⟩ := exists_of_bind_ok h
  obtain ⟨⟨⟨point, fs⟩, cs''⟩, hfraction, hlast⟩ := exists_of_bind_ok hmore
  obtain ⟨⟨x, cs'''⟩, hexponent, hdone⟩ := exists_of_bind_ok hlast
  obtain ⟨rfl, rfl⟩ := Prod.mk.inj (Except.ok.inj hdone)
  obtain ⟨whole, hwholeText, rfl, rfl⟩ := exists_wholeText_of_wholeDigits hwhole
  obtain ⟨fraction, hfractionText, rfl, hpoint⟩ := exists_fractionText_of_fractionDigits hfraction
  obtain ⟨exponent, hexponentText, rfl, hnone⟩ := exists_exponentText_of_exponentPart hexponent
  refine ⟨_, .parts hwholeText hfractionText hexponentText, by simp, rfl, ?_⟩
  intro hnoPoint hnoExponent
  rw [hpoint hnoPoint, hnone hnoExponent, List.append_nil, List.append_nil]
  exact ⟨hwholeText, rfl⟩

theorem exists_unsignedText_of_skipNumber {cs rest : List Char} (h : skipNumber cs = .ok rest) :
    ∃ t, UnsignedText t ∧ cs = t ++ rest := by
  unfold skipNumber at h
  split at h
  · rename_i n cs' hscan
    obtain ⟨t, ht, hcs, -, -⟩ := exists_unsignedText_of_scanNumber hscan
    exact ⟨t, ht, by rw [hcs, Except.ok.inj h]⟩
  · simp at h

/-! ## Natural numbers -/

/-- Where every digit is taken, the number is that of the digits. -/
theorem takeDigits_of_all {n m : Nat} {ds : List Nat} (h : takeDigits n ds = (m, ds.length)) :
    m = ds.foldl (fun n d => n * 10 + d) n := by
  induction ds generalizing n with
  | nil => exact (Prod.mk.inj h).1.symm
  | cons d ds ih =>
      rw [takeDigits] at h
      split_ifs at h with hfits
      · obtain ⟨hm, hall⟩ := Prod.mk.inj h
        exact ih (Prod.ext hm (Nat.succ.inj hall))
      · exact absurd (Prod.mk.inj h).2 (by simp)

theorem takeDigits_snd_le (n : Nat) (ds : List Nat) : (takeDigits n ds).2 ≤ ds.length := by
  induction ds generalizing n with
  | nil => exact Nat.le_refl 0
  | cons d ds ih =>
      rw [takeDigits]
      split_ifs
      · exact Nat.succ_le_succ (ih _)
      · exact Nat.zero_le _

/-- Only digits without sign, point and exponent count as a natural number. -/
theorem natural_of_value? {t : NumberText} {x : Number} (hx : t.value? = some x) {expected : String}
    {greatest n : Nat} (h : x.natural expected greatest = .ok n) :
    t.negative = false ∧ t.hasPoint = false ∧ t.exponent = none ∧ n = ofDigits t.whole ∧
      n ≤ greatest := by
  have hfloat : ∀ y, x ≠ .float y := by
    rintro y rfl
    simp [Number.natural] at h
  have hnone : ∀ o : Option Decimal.Binary64, o.map Number.float ≠ some x := by
    intro o ho
    obtain ⟨y, -, hy⟩ := Option.map_eq_some_iff.mp ho
    exact hfloat y hy.symm
  unfold NumberText.value? at hx
  dsimp only at hx
  split_ifs at hx with hplain hsign hrange
  · simp only [Bool.and_eq_true, Bool.not_eq_true', beq_iff_eq, Option.isNone_iff_eq_none] at hplain
    obtain ⟨⟨hdropped, hpoint⟩, hexponent⟩ := hplain
    have hall : takeDigits 0 t.whole = ((takeDigits 0 t.whole).1, t.whole.length) := by
      have hle := takeDigits_snd_le 0 t.whole
      exact Prod.ext rfl (by omega)
    obtain rfl := Option.some.inj hx
    simp only [Number.natural] at h
    split_ifs at h with hfits
    obtain rfl := Except.ok.inj h
    simp only [Int.toNat_natCast, Bool.and_eq_true, decide_eq_true_eq] at hfits
    exact ⟨by simpa using hsign, hpoint, hexponent, takeDigits_of_all hall, hfits.2⟩
  · obtain rfl := Option.some.inj hx
    simp only [Number.natural] at h
    split_ifs at h with hfits
    simp only [Bool.and_eq_true, decide_eq_true_eq] at hfits hrange
    omega
  · exact absurd hx (hnone _)
  · exact absurd hx (hnone _)

/-- What counts as a natural number is spelled as one. -/
theorem naturalText_of_readNumber {negative : Bool} {cs rest : List Char} {x : Number}
    (h : readNumber negative cs = .ok (x, rest)) {expected : String} {greatest n : Nat}
    (hn : x.natural expected greatest = .ok n) :
    negative = false ∧ n ≤ greatest ∧ ∃ t, NaturalText n t ∧ cs = t ++ rest := by
  obtain ⟨⟨spelled, rest'⟩, hscan, hvalue⟩ := exists_of_bind_ok h
  obtain ⟨t, -, rfl, hnegative, hwhole⟩ := exists_unsignedText_of_scanNumber hscan
  cases hspelled : spelled.value? with
  | none => simp [hspelled] at hvalue
  | some y =>
      simp only [hspelled] at hvalue
      obtain ⟨rfl, rfl⟩ := Prod.mk.inj (Except.ok.inj hvalue)
      obtain ⟨hpositive, hpoint, hexponent, hdigits, hle⟩ := natural_of_value? hspelled hn
      obtain ⟨htext, hds⟩ := hwhole hpoint hexponent
      refine ⟨hnegative ▸ hpositive, hle, t, ⟨htext, ?_⟩, rfl⟩
      rw [hdigits, hds, ofDigits_map_digitOf]

end LintRelay.Json
