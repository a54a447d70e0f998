import LintRelay.Json.Lexer
import LintRelay.Proofs.Json.Grammar

/-!
# Reading the words of JSON

Each reader of blanks, strings and numbers takes exactly the text that the grammar gives and leaves
what follows. A string ends with its quote; a number ends where what follows is no part of it, so
its lemmas ask for that.
-/

namespace LintRelay.Json

/-! ## Blanks -/

theorem isGap_of_mem {c : Char} (h : c ∈ gapChars) : isGap c = true := by
  simp only [gapChars, List.mem_cons, List.not_mem_nil, or_false] at h
  rcases h with rfl | rfl | rfl | rfl <;> rfl

theorem isGap_of_isDigit {c : Char} (h : c.isDigit = true) : isGap c = false := by
  refine Bool.eq_false_iff.mpr fun hgap => ?_
  simp only [isGap, Bool.or_eq_true, beq_iff_eq] at hgap
  rcases hgap with ((rfl | rfl) | rfl) | rfl <;> exact absurd h (by decide)

theorem skipGap_append {g : List Char} (hg : Gap g) (cs : List Char) :
    skipGap (g ++ cs) = skipGap cs := by
  induction g with
  | nil => rfl
  | cons c g ih =>
      rw [List.cons_append, skipGap, List.dropWhile_cons_of_pos (isGap_of_mem (hg c (by simp)))]
      exact ih fun d hd => hg d (List.mem_cons_of_mem _ hd)

theorem skipGap_cons {c : Char} (hc : isGap c = false) (cs : List Char) :
    skipGap (c :: cs) = c :: cs := by
  rw [skipGap, List.dropWhile_cons_of_neg (by simp [hc])]

theorem skipGap_value {g : List Char} {c : Char} (hg : Gap g) (hc : isGap c = false)
    (cs : List Char) : skipGap (g ++ c :: cs) = c :: cs := by
  rw [skipGap_append hg, skipGap_cons hc]

/-! ## Hexadecimal escapes -/

theorem hexValue?_of_hexDigit {d : Nat} {c : Char} (h : HexDigit d c) : hexValue? c = some d := by
  cases h with
  | lower hd =>
      have hall : ∀ d < 16, hexValue? d.digitChar = some d := by decide
      exact hall d hd
  | upper hd =>
      have hall : ∀ d < 16, hexValue? d.digitChar.toUpper = some d := by decide
      exact hall d hd

theorem hasHexRoom_of_hexText {n : Nat} {hs : List Char} (h : HexText n hs) (cs : List Char) :
    hasHexRoom (hs ++ cs) = true := by
  cases h with
  | @digits _ _ _ _ w x y z =>
      have hw := w.utf8Size_pos
      have hx := x.utf8Size_pos
      have hy := y.utf8Size_pos
      have hz := z.utf8Size_pos
      have hroom : 4 ≤ w.utf8Size + (x.utf8Size + (y.utf8Size + (z.utf8Size + 0))) := by omega
      exact decide_eq_true hroom

/-- What becomes of a string after the four digits of an escape. -/
def afterUnit (n : Nat) (cs : List Char) : Option Nat → OrError (List Char × List Char)
  | some h =>
    if isLowHalf n then consRead (pairedChar h n) (readString .text cs) else .error .loneSurrogate
  | none =>
    if isLowHalf n then .error .loneSurrogate
    else if isHighHalf n then readString (.afterHigh n) cs
    else consRead (Char.ofNat n) (readString .text cs)

theorem readString_hex {n : Nat} {hs : List Char} (h : HexText n hs) (high : Option Nat)
    (cs : List Char) : readString (.hex 3 0 high) (hs ++ cs) = afterUnit n cs high := by
  cases h with
  | digits ha hb hc hd =>
      simp only [List.cons_append, List.nil_append, readString, hexValue?_of_hexDigit ha,
        hexValue?_of_hexDigit hb, hexValue?_of_hexDigit hc, hexValue?_of_hexDigit hd,
        Nat.zero_mul, Nat.zero_add]
      cases high <;> rfl

theorem skipString_hex {n : Nat} {hs : List Char} (h : HexText n hs) (cs : List Char) :
    skipString (.hex 3 0 none) (hs ++ cs) = skipString .text cs := by
  cases h with
  | digits ha hb hc hd =>
      simp only [List.cons_append, List.nil_append, skipString, hexValue?_of_hexDigit ha,
        hexValue?_of_hexDigit hb, hexValue?_of_hexDigit hc, hexValue?_of_hexDigit hd]

theorem isHighHalf_iff {n : Nat} : isHighHalf n = true ↔ 0xD800 ≤ n ∧ n ≤ 0xDBFF := by
  simp [isHighHalf]

theorem isLowHalf_iff {n : Nat} : isLowHalf n = true ↔ 0xDC00 ≤ n ∧ n ≤ 0xDFFF := by
  simp [isLowHalf]

theorem toNat_valid (c : Char) : c.toNat < 0xD800 ∨ 0xDFFF < c.toNat ∧ c.toNat < 0x110000 :=
  c.valid

/-- A character is no half of a pair. -/
theorem not_half (c : Char) : isLowHalf c.toNat = false ∧ isHighHalf c.toNat = false := by
  have hvalid := toNat_valid c
  rw [Bool.eq_false_iff, Bool.eq_false_iff, ne_eq, ne_eq, isLowHalf_iff, isHighHalf_iff]
  omega

/-- The code units of a character beyond the first 65536 are the two halves of a pair, and the pair
is the character. -/
theorem halves {c : Char} (h : 0x10000 ≤ c.toNat) :
    isLowHalf (highHalf c) = false ∧ isHighHalf (highHalf c) = true ∧
      isLowHalf (lowHalf c) = true ∧ pairedChar (highHalf c) (lowHalf c) = c := by
  have hvalid := toNat_valid c
  have hhigh : 0xD800 ≤ highHalf c ∧ highHalf c ≤ 0xDBFF := by
    unfold highHalf
    omega
  have hlow : 0xDC00 ≤ lowHalf c ∧ lowHalf c ≤ 0xDFFF := by
    unfold lowHalf
    omega
  have hsum : (highHalf c - 0xD800) * 0x400 + (lowHalf c - 0xDC00) + 0x10000 = c.toNat := by
    unfold highHalf lowHalf
    omega
  refine ⟨?_, isHighHalf_iff.mpr hhigh, isLowHalf_iff.mpr hlow, ?_⟩
  · rw [Bool.eq_false_iff, ne_eq, isLowHalf_iff]
    omega
  · rw [pairedChar, hsum, Char.ofNat_toNat]

/-! ## Strings -/

theorem simpleEscape?_of_mem {l c : Char} (h : (l, c) ∈ letterEscapes) :
    l ≠ 'u' ∧ simpleEscape? l = some c := by
  have hall : ∀ e ∈ letterEscapes, e.1 ≠ 'u' ∧ simpleEscape? e.1 = some e.2 := by decide
  exact hall (l, c) h

theorem readString_plain {c : Char} (h : IsPlain c) (cs : List Char) :
    readString .text (c :: cs) = consRead c (readString .text cs) := by
  obtain ⟨hcontrol, hquote, hslash⟩ := h
  rw [readString, if_neg (by simpa using hquote), if_neg (by simpa using hslash),
    if_neg (by omega)]

/-- A hexadecimal escape, after a backslash that is not the second one of a pair. -/
theorem readString_unit {n : Nat} {hs : List Char} (h : HexText n hs) (cs : List Char) :
    readString .text ('\\' :: 'u' :: hs ++ cs) = afterUnit n cs none := by
  have hroom := hasHexRoom_of_hexText h cs
  simp [readString, hroom, readString_hex h]

theorem readString_lowUnit {n : Nat} {hs : List Char} (h : HexText n hs) (high : Nat)
    (cs : List Char) :
    readString (.afterHigh high) ('\\' :: 'u' :: hs ++ cs) = afterUnit n cs (some high) := by
  have hroom := hasHexRoom_of_hexText h cs
  simp [readString, hroom, readString_hex h]

theorem readString_char {c : Char} {t : List Char} (h : CharText c t) (cs : List Char) :
    readString .text (t ++ cs) = consRead c (readString .text cs) := by
  cases h with
  | plain hplain => exact readString_plain hplain cs
  | letter hletter =>
      obtain ⟨hu, hsimple⟩ := simpleEscape?_of_mem hletter
      simp [readString, hu, hsimple]
  | unit hunit =>
      obtain ⟨hlow, hhigh⟩ := not_half c
      rw [readString_unit hunit, afterUnit, hlow, hhigh, Char.ofNat_toNat]
      rfl
  | pair hbeyond hhs hls =>
      obtain ⟨hnotLow, hhigh, hlow, hpair⟩ := halves hbeyond
      rw [List.append_assoc, readString_unit hhs, afterUnit, hnotLow, hhigh]
      show readString (.afterHigh (highHalf c)) _ = _
      rw [readString_lowUnit hls, afterUnit, hlow, hpair]
      rfl

theorem readString_chars {s t : List Char} (h : CharsText s t) (rest : List Char) :
    readString .text (t ++ '"' :: rest) = .ok (s, rest) := by
  induction h with
  | nil => rfl
  | cons hc _ ih => rw [List.append_assoc, readString_char hc, ih, consRead]

theorem skipString_loose {t : List Char} (h : LooseChars t) (rest : List Char) :
    skipString .text (t ++ '"' :: rest) = .ok rest := by
  induction h with
  | nil => rfl
  | plain hplain _ ih =>
      obtain ⟨hcontrol, hquote, hslash⟩ := hplain
      rw [List.cons_append, skipString, if_neg (by simpa using hquote),
        if_neg (by simpa using hslash), if_neg (by omega), ih]
  | letter hletter _ ih =>
      obtain ⟨hu, hsimple⟩ := simpleEscape?_of_mem hletter
      simp [skipString, hu, hsimple, ih]
  | @unit _ hs cs hunit _ ih =>
      have hroom := hasHexRoom_of_hexText hunit (cs ++ '"' :: rest)
      simp [skipString, hroom, skipString_hex hunit, ih]

/-! ## Digits -/

/-- The value of a character that is a digit. -/
def digitOf (c : Char) : Nat := c.toNat - 48

theorem digitValue?_eq (c : Char) :
    digitValue? c = if c.isDigit = true then some (digitOf c) else none := by
  have hdigit : ('0' ≤ c && c ≤ '9') = c.isDigit := by simp [Char.isDigit, Char.le_def]
  rw [digitValue?, hdigit, digitOf]

theorem digitOf_eq_zero {c : Char} (h : c.isDigit = true) (hzero : digitOf c = 0) : c = '0' := by
  have hbounds := Char.isDigit_iff_toNat.mp h
  have hlow : 48 ≤ c.toNat := hbounds.1
  have hnat : c.toNat = 48 := by
    unfold digitOf at hzero
    omega
  rw [← Char.ofNat_toNat c, hnat]

/-- Whether a text does not go on with a digit. -/
def NoDigit (rest : List Char) : Prop := ∀ c, rest.head? = some c → c.isDigit = false

theorem spanDigits_append {ds rest : List Char} (hds : ∀ c ∈ ds, c.isDigit = true)
    (hrest : NoDigit rest) : spanDigits (ds ++ rest) = (ds.map digitOf, rest) := by
  induction ds with
  | nil =>
      cases rest with
      | nil => rfl
      | cons c rest => simp [spanDigits, digitValue?_eq, hrest c rfl]
  | cons d ds ih =>
      have hd := hds d (List.mem_cons_self ..)
      simp [spanDigits, digitValue?_eq, hd, ih fun c hc => hds c (List.mem_cons_of_mem _ hc)]

theorem someDigits_append {ds rest : List Char} (hds : Digits ds) (hrest : NoDigit rest)
    (e : ReadError) : someDigits e (ds ++ rest) = .ok (ds.map digitOf, rest) := by
  obtain ⟨hne, hall⟩ := hds
  cases ds with
  | nil => exact absurd rfl hne
  | cons d ds =>
      rw [someDigits, spanDigits_append hall hrest]
      rfl

theorem wholeDigits_append {ds rest : List Char} (hds : WholeText ds) (hrest : NoDigit rest)
    (e : ReadError) : wholeDigits e (ds ++ rest) = .ok (ds.map digitOf, rest) := by
  obtain ⟨hdigits, hzero⟩ := hds
  rw [wholeDigits, someDigits_append hdigits hrest]
  split
  · rename_i d ds' rest' heq
    -- A zero with more digits after it is no whole number.
    obtain ⟨hmap, -⟩ := Prod.mk.inj (Except.ok.inj heq)
    cases ds with
    | nil => exact absurd hmap (by simp)
    | cons c ds =>
        obtain ⟨hc, hmore⟩ := List.cons.inj hmap
        have hlone := hzero (congrArg some (digitOf_eq_zero (hdigits.2 c (by simp)) hc))
        rw [(List.cons.inj hlone).2] at hmore
        exact absurd hmore (by simp)
  · rfl

/-! ## Numbers -/

theorem Ends.noDigit {rest : List Char} (h : Ends rest) : NoDigit rest := by
  intro c hc
  have hall : ∀ d, d ∈ gapChars ∨ d ∈ [',', ']', '\x7d'] → d.isDigit = false := by
    intro d hd
    simp only [gapChars, List.mem_cons, List.not_mem_nil, or_false] at hd
    rcases hd with (rfl | rfl | rfl | rfl) | rfl | rfl | rfl <;> decide
  exact hall c (h c hc)

theorem fractionDigits_ends {rest : List Char} (h : rest.head? ≠ some '.') (e : ReadError) :
    fractionDigits e rest = .ok ((false, []), rest) := by
  unfold fractionDigits
  split
  · exact absurd rfl h
  · rfl

theorem exponentPart_ends {rest : List Char}
    (h : rest.head? ≠ some 'e' ∧ rest.head? ≠ some 'E') (e : ReadError) :
    exponentPart e rest = .ok (none, rest) := by
  cases rest with
  | nil => rfl
  | cons c rest =>
      have hc : (c == 'e' || c == 'E') = false := by simpa using h
      rw [exponentPart, hc]
      rfl

theorem Ends.head?_ne {rest : List Char} (h : Ends rest) {c : Char} (hc : c ∈ ['.', 'e', 'E']) :
    rest.head? ≠ some c := by
  intro hhead
  have hall : ∀ d ∈ ['.', 'e', 'E'], ¬(d ∈ gapChars ∨ d ∈ [',', ']', '\x7d']) := by
    simp [gapChars]
  exact hall c hc (h c hhead)

theorem ExponentText.noDigit {t rest : List Char} (h : ExponentText t) (hrest : Ends rest) :
    NoDigit (t ++ rest) := by
  cases h with
  | absent => exact hrest.noDigit
  | present he _ _ =>
      intro c hc
      obtain rfl := Option.some.inj hc
      have hall : ∀ d ∈ ['e', 'E'], d.isDigit = false := by simp
      exact hall _ he

theorem ExponentText.head?_ne {t rest : List Char} (h : ExponentText t) (hrest : Ends rest) :
    (t ++ rest).head? ≠ some '.' := by
  cases h with
  | absent => exact hrest.head?_ne (by decide)
  | present he _ _ =>
      intro hc
      rw [Option.some.inj hc] at he
      exact absurd he (by decide)

theorem FractionText.noDigit {t rest : List Char} (h : FractionText t) (hrest : NoDigit rest) :
    NoDigit (t ++ rest) := by
  cases h with
  | absent => exact hrest
  | present =>
      intro c hc
      obtain rfl := Option.some.inj hc
      rfl

theorem fractionDigits_append {t rest : List Char} (h : FractionText t) (hrest : NoDigit rest)
    (hpoint : rest.head? ≠ some '.') (e : ReadError) :
    ∃ p, fractionDigits e (t ++ rest) = .ok (p, rest) := by
  cases h with
  | absent => exact ⟨_, fractionDigits_ends hpoint e⟩
  | @present ds hds =>
      refine ⟨(true, ds.map digitOf), ?_⟩
      rw [List.cons_append, fractionDigits, someDigits_append hds hrest]

theorem exponentSign_append {sign ds : List Char} (hsign : sign ∈ [[], ['+'], ['-']])
    (hds : Digits ds) (rest : List Char) :
    (exponentSign (sign ++ ds ++ rest)).2 = ds ++ rest := by
  simp only [List.mem_cons, List.not_mem_nil, or_false] at hsign
  rcases hsign with rfl | rfl | rfl
  · obtain ⟨hne, hall⟩ := hds
    cases ds with
    | nil => exact absurd rfl hne
    | cons d ds =>
        have hd := hall d (List.mem_cons_self ..)
        rw [List.nil_append, List.cons_append]
        unfold exponentSign
        split
        · rename_i heq
          rw [(List.cons.inj heq).1] at hd
          exact absurd hd (by decide)
        · rename_i heq
          rw [(List.cons.inj heq).1] at hd
          exact absurd hd (by decide)
        · rfl
  · rfl
  · rfl

theorem exponentPart_append {t rest : List Char} (h : ExponentText t) (hrest : Ends rest)
    (e : ReadError) : ∃ x, exponentPart e (t ++ rest) = .ok (x, rest) := by
  cases h with
  | absent =>
      exact ⟨_, exponentPart_ends ⟨hrest.head?_ne (by decide), hrest.head?_ne (by decide)⟩ e⟩
  | @present c sign ds hc hsign hds =>
      have hletter : (c == 'e' || c == 'E') = true := by simpa using hc
      rw [List.cons_append, List.cons_append, exponentPart, hletter, if_pos rfl]
      dsimp only
      rw [exponentSign_append hsign hds, someDigits_append hds hrest.noDigit]
      exact ⟨_, rfl⟩

theorem scanNumber_append {t rest : List Char} (h : UnsignedText t) (hrest : Ends rest)
    (e : ReadError) (negative : Bool) :
    ∃ n, scanNumber e negative (t ++ rest) = .ok (n, rest) := by
  cases h with
  | @parts whole fraction exponent hwhole hfraction hexponent =>
      have hdigit := hexponent.noDigit hrest
      obtain ⟨p, hp⟩ := fractionDigits_append hfraction hdigit (hexponent.head?_ne hrest) e
      obtain ⟨x, hx⟩ := exponentPart_append hexponent hrest e
      refine ⟨⟨negative, whole.map digitOf, p.2, x, p.1⟩, ?_⟩
      rw [List.append_assoc, List.append_assoc, scanNumber,
        wholeDigits_append hwhole (hfraction.noDigit hdigit)]
      simp only [bind, Except.bind, hp, hx]
      rfl

theorem skipNumber_append {t rest : List Char} (h : UnsignedText t) (hrest : Ends rest) :
    skipNumber (t ++ rest) = .ok rest := by
  obtain ⟨n, hn⟩ := scanNumber_append h hrest .invalidNumber false
  rw [skipNumber, hn]

/-! ## Natural numbers -/

/-- A number without point and exponent is scanned as its digits. -/
theorem scanNumber_whole {t rest : List Char} (h : WholeText t) (hrest : Ends rest)
    (e : ReadError) (negative : Bool) :
    scanNumber e negative (t ++ rest) = .ok (⟨negative, t.map digitOf, [], none, false⟩, rest) := by
  have hpoint := fractionDigits_ends (hrest.head?_ne (by decide)) e
  have hexponent :=
    exponentPart_ends ⟨hrest.head?_ne (by decide), hrest.head?_ne (by decide)⟩ e
  rw [scanNumber, wholeDigits_append h hrest.noDigit]
  simp only [bind, Except.bind, hpoint, hexponent]
  rfl

/-- Digits are taken as long as the number that they make is in range. -/
theorem takeDigits_eq {n : Nat} {ds : List Nat}
    (h : ds.foldl (fun n d => n * 10 + d) n ≤ greatestNatural) :
    takeDigits n ds = (ds.foldl (fun n d => n * 10 + d) n, ds.length) := by
  have le_foldl : ∀ (ds : List Nat) (n : Nat), n ≤ ds.foldl (fun n d => n * 10 + d) n := by
    intro ds
    induction ds with
    | nil => exact fun n => Nat.le_refl n
    | cons d ds ih =>
        intro n
        have hrest := ih (n * 10 + d)
        rw [List.foldl_cons]
        omega
  induction ds generalizing n with
  | nil => rfl
  | cons d ds ih =>
      rw [List.foldl_cons] at h
      have hfirst : n * 10 + d ≤ greatestNatural := Nat.le_trans (le_foldl ds _) h
      rw [takeDigits, if_pos hfirst, ih h]
      rfl

theorem ofDigits_map_digitOf (cs : List Char) :
    ofDigits (cs.map digitOf) = Nat.ofDigitChars 10 cs 0 := by
  rw [ofDigits, List.foldl_map, Nat.ofDigitChars_eq_foldl]
  simp only [Nat.mul_comm 10]
  rfl

theorem readNumber_natural {n : Nat} {t rest : List Char} (h : NaturalText n t)
    (hn : n ≤ greatestNatural) (hrest : Ends rest) :
    readNumber false (t ++ rest) = .ok (.integer n, rest) := by
  obtain ⟨hwhole, rfl⟩ := h
  have htake : takeDigits 0 (t.map digitOf) = (Nat.ofDigitChars 10 t 0, t.length) := by
    have hfold : (t.map digitOf).foldl (fun n d => n * 10 + d) 0 = Nat.ofDigitChars 10 t 0 :=
      ofDigits_map_digitOf t
    rw [takeDigits_eq (by rwa [hfold]), hfold, List.length_map]
  have hvalue : NumberText.value? ⟨false, t.map digitOf, [], none, false⟩ =
      some (.integer (Nat.ofDigitChars 10 t 0)) := by
    simp [NumberText.value?, htake]
  rw [readNumber, scanNumber_whole hwhole hrest]
  simp only [bind, Except.bind, hvalue]
  rfl

end LintRelay.Json
