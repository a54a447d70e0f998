import LintRelay.Json.Printer
import LintRelay.Proofs.Json.Grammar
import LintRelay.Proofs.Json.Members

/-!
# Printed values are texts

What the printer writes for strings, natural numbers, arrays and objects, compactly or on several
lines, are texts of them in the sense of the grammar.
-/

namespace LintRelay.Json

/-! ## Strings -/

theorem hexDigit_hexDigit (n : Nat) : HexDigit (n % 16) (hexDigit n) :=
  .lower (Nat.mod_lt n (by decide))

/-- A control character is printed with the four digits of its code. -/
theorem hexText_control {c : Char} (h : c.toNat < 0x20) :
    HexText c.toNat ['0', '0', hexDigit (c.toNat / 16), hexDigit c.toNat] := by
  have hzero : HexDigit 0 '0' := .lower (by decide)
  have hdigits := HexText.digits hzero hzero (hexDigit_hexDigit (c.toNat / 16))
    (hexDigit_hexDigit c.toNat)
  have hvalue : ((0 * 16 + 0) * 16 + c.toNat / 16 % 16) * 16 + c.toNat % 16 = c.toNat := by omega
  rwa [hvalue] at hdigits

theorem charText_escapeChar (c : Char) : CharText c (escapeChar c) := by
  unfold escapeChar
  split_ifs with hquote hslash hbackspace hfeed hline hreturn htab hcontrol
  · obtain rfl := eq_of_beq hquote
    exact .letter (by decide)
  · obtain rfl := eq_of_beq hslash
    exact .letter (by decide)
  · obtain rfl := eq_of_beq hbackspace
    exact .letter (by decide)
  · obtain rfl := eq_of_beq hfeed
    exact .letter (by decide)
  · obtain rfl := eq_of_beq hline
    exact .letter (by decide)
  · obtain rfl := eq_of_beq hreturn
    exact .letter (by decide)
  · obtain rfl := eq_of_beq htab
    exact .letter (by decide)
  · exact .unit (hexText_control hcontrol)
  · exact .plain ⟨by omega, by simpa using hquote, by simpa using hslash⟩

theorem stringText_stringText (s : String) : StringText s (stringText s) := by
  refine ⟨s.toList.flatMap escapeChar, ?_, rfl⟩
  induction s.toList with
  | nil => exact .nil
  | cons c cs ih =>
      rw [List.flatMap_cons]
      exact .cons (charText_escapeChar c) ih

/-! ## Natural numbers -/

/-- The digits of a number start with a zero only if it is zero. -/
theorem toDigits_of_head?_zero {n : Nat} (h : (Nat.toDigits 10 n).head? = some '0') :
    Nat.toDigits 10 n = ['0'] := by
  induction n using Nat.strongRecOn with
  | ind n ih =>
      by_cases hsmall : n < 10
      · rw [Nat.toDigits_of_lt_base hsmall] at h ⊢
        exact congrArg (fun c => [c]) (Option.some.inj h)
      · -- The front digits are those of `n / 10`, which is not zero.
        have hsplit := Nat.toDigits_of_base_le (b := 10) (by decide) (Nat.le_of_not_lt hsmall)
        rw [hsplit, List.head?_append_of_ne_nil _ Nat.toDigits_ne_nil] at h
        have hzero := ih (n / 10) (by omega) h
        have hvalue : Nat.ofDigitChars 10 (Nat.toDigits 10 (n / 10)) 0 = n / 10 :=
          Nat.ofDigitChars_ten_toDigits
        rw [hzero] at hvalue
        have hnone : Nat.ofDigitChars 10 ['0'] 0 = 0 := by decide
        omega

theorem naturalText_toDigits (n : Nat) : NaturalText n (Nat.toDigits 10 n) :=
  ⟨⟨⟨Nat.toDigits_ne_nil, fun _ => Nat.isDigit_of_mem_toDigits (by decide) (by decide)⟩,
    toDigits_of_head?_zero⟩, Nat.ofDigitChars_ten_toDigits⟩

/-! ## Arrays and objects -/

/-- Items with a comma and blanks between each two. -/
theorem itemsText_joinWith {g : List Char} (hg : Gap g) (v : List Char) (vs : List (List Char)) :
    ItemsText (v :: vs) (joinWith (',' :: g) (v :: vs)) := by
  induction vs generalizing v with
  | nil => exact .last v
  | cons w vs ih =>
      show ItemsText (v :: w :: vs) (v ++ ',' :: g ++ joinWith (',' :: g) (w :: vs))
      rw [List.append_assoc, List.cons_append]
      exact .next v ((ih w).indent hg)

theorem bracketed_joinWith (opening closing : Char) (vs : List (List Char)) :
    Bracketed opening closing vs (opening :: joinWith [','] vs ++ [closing]) := by
  cases vs with
  | nil => exact .empty .nil
  | cons v vs => exact .items (itemsText_joinWith .nil v vs)

theorem compactItems_eq_map (vs : List Json) : compactItems vs = vs.map compact := by
  induction vs with
  | nil => rfl
  | cons v vs ih => rw [compactItems, ih, List.map_cons]

theorem arrayText_compact (vs : List Json) :
    ArrayText (vs.map compact) (compact (.array vs)) := by
  rw [compact, compactItems_eq_map]
  exact bracketed_joinWith '[' ']' _

theorem objectText_compact (ms : List (String × Json)) :
    ObjectText (ms.map fun m => (m.1, compact m.2)) (compact (.object ms)) := by
  rw [compact]
  refine ⟨compactMembers ms, ?_, bracketed_joinWith '\x7b' '\x7d' _⟩
  induction ms with
  | nil => exact .nil
  | cons m ms ih => exact .cons (.tight (stringText_stringText m.1) _) ih

/-! ## Values on several lines -/

end LintRelay.Json
