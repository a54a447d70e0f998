import Mathlib.Data.List.Forall2

/-!
# The texts of JSON values

What a JSON text looks like, told apart from any reader: blanks, strings with their escapes,
numbers, arrays and objects. The relations go from what is meant to the characters. A character of a
string has several spellings, an integer has one, and blanks may stand around every item, name and
value.

`ValueText` is the text of any value. Its strings may hold halves of pairs that stand alone, and its
numbers may have any size; `StringText` and `NaturalText` are the texts that have a meaning.
-/

namespace LintRelay.Json

/-- The characters that may stand between the parts of a text. -/
def gapChars : List Char := [' ', '\t', '\n', '\r']

/-- Blanks between the parts of a text. -/
def Gap (cs : List Char) : Prop := ∀ c ∈ cs, c ∈ gapChars

theorem Gap.nil : Gap [] := fun _ h => absurd h List.not_mem_nil

theorem Gap.append {g g' : List Char} (hg : Gap g) (hg' : Gap g') : Gap (g ++ g') :=
  fun c hc => (List.mem_append.mp hc).elim (hg c) (hg' c)

/-! ## Strings -/

/-- A hexadecimal digit, in lower or upper case. -/
inductive HexDigit : Nat → Char → Prop
  | lower {d : Nat} : d < 16 → HexDigit d d.digitChar
  | upper {d : Nat} : d < 16 → HexDigit d d.digitChar.toUpper

/-- Four hexadecimal digits. -/
inductive HexText : Nat → List Char → Prop
  | digits {a b c d : Nat} {w x y z : Char} :
      HexDigit a w → HexDigit b x → HexDigit c y → HexDigit d z →
      HexText (((a * 16 + b) * 16 + c) * 16 + d) [w, x, y, z]

/-- The letters after a backslash and what they stand for. -/
def letterEscapes : List (Char × Char) := [
  ('"', '"'), ('\\', '\\'), ('/', '/'), ('b', '\x08'), ('f', '\x0c'), ('n', '\n'), ('r', '\r'),
  ('t', '\t')]

/-- The first of the two code units of a character beyond the first 65536. -/
def highHalf (c : Char) : Nat := 0xD800 + (c.toNat - 0x10000) / 0x400

/-- The second of the two. -/
def lowHalf (c : Char) : Nat := 0xDC00 + (c.toNat - 0x10000) % 0x400

/-- Whether a character may stand for itself in a string. -/
def IsPlain (c : Char) : Prop := 0x20 ≤ c.toNat ∧ c ≠ '"' ∧ c ≠ '\\'

instance : DecidablePred IsPlain := fun c =>
  inferInstanceAs (Decidable (0x20 ≤ c.toNat ∧ c ≠ '"' ∧ c ≠ '\\'))

inductive CharText : Char → List Char → Prop
  | plain {c : Char} : IsPlain c → CharText c [c]
  | letter {l c : Char} : (l, c) ∈ letterEscapes → CharText c ['\\', l]
  | unit {c : Char} {hs : List Char} : HexText c.toNat hs → CharText c ('\\' :: 'u' :: hs)
  | pair {c : Char} {hs ls : List Char} :
      0x10000 ≤ c.toNat → HexText (highHalf c) hs → HexText (lowHalf c) ls →
      CharText c ('\\' :: 'u' :: hs ++ '\\' :: 'u' :: ls)

/-- The characters of a string between its quotes. -/
inductive CharsText : List Char → List Char → Prop
  | nil : CharsText [] []
  | cons {c : Char} {s t ts : List Char} :
      CharText c t → CharsText s ts → CharsText (c :: s) (t ++ ts)

def StringText (s : String) (cs : List Char) : Prop :=
  ∃ body, CharsText s.toList body ∧ cs = '"' :: body ++ ['"']

/-- What may stand between quotes where nobody asks what it means. -/
inductive LooseChars : List Char → Prop
  | nil : LooseChars []
  | plain {c : Char} {cs : List Char} : IsPlain c → LooseChars cs → LooseChars (c :: cs)
  | letter {l c : Char} {cs : List Char} :
      (l, c) ∈ letterEscapes → LooseChars cs → LooseChars ('\\' :: l :: cs)
  | unit {n : Nat} {hs cs : List Char} :
      HexText n hs → LooseChars cs → LooseChars ('\\' :: 'u' :: hs ++ cs)

/-- A string of which nobody asks what it means. -/
def LooseText (cs : List Char) : Prop := ∃ body, LooseChars body ∧ cs = '"' :: body ++ ['"']

/-! ## Numbers -/

/-- One decimal digit or more. -/
def Digits (cs : List Char) : Prop := cs ≠ [] ∧ ∀ c ∈ cs, c.isDigit = true

/-- Digits that do not start with a zero, or a lone zero. -/
def WholeText (cs : List Char) : Prop := Digits cs ∧ (cs.head? = some '0' → cs = ['0'])

/-- A point with digits, or nothing. -/
inductive FractionText : List Char → Prop
  | absent : FractionText []
  | present {ds : List Char} : Digits ds → FractionText ('.' :: ds)

/-- An exponent, or nothing. -/
inductive ExponentText : List Char → Prop
  | absent : ExponentText []
  | present {e : Char} {sign ds : List Char} :
      e ∈ ['e', 'E'] → sign ∈ [[], ['+'], ['-']] → Digits ds → ExponentText (e :: sign ++ ds)

/-- A number without its sign. -/
inductive UnsignedText : List Char → Prop
  | parts {whole fraction exponent : List Char} :
      WholeText whole → FractionText fraction → ExponentText exponent →
      UnsignedText (whole ++ fraction ++ exponent)

def NaturalText (n : Nat) (cs : List Char) : Prop := WholeText cs ∧ Nat.ofDigitChars 10 cs 0 = n

/-! ## Arrays and objects -/

/-- Items with commas between them and blanks around them. -/
inductive ItemsText : List (List Char) → List Char → Prop
  | one {g v g' : List Char} : Gap g → Gap g' → ItemsText [v] (g ++ v ++ g')
  | more {g v g' cs : List Char} {vs : List (List Char)} :
      Gap g → Gap g' → ItemsText vs cs → ItemsText (v :: vs) (g ++ v ++ g' ++ ',' :: cs)

/-- Items between brackets. -/
inductive Bracketed (opening closing : Char) : List (List Char) → List Char → Prop
  | empty {g : List Char} : Gap g → Bracketed opening closing [] (opening :: g ++ [closing])
  | items {vs : List (List Char)} {cs : List Char} :
      ItemsText vs cs → Bracketed opening closing vs (opening :: cs ++ [closing])

def ArrayText : List (List Char) → List Char → Prop := Bracketed '[' ']'

/-- A name and a value. -/
inductive MemberText : List Char × List Char → List Char → Prop
  | member {n g g' v : List Char} : Gap g → Gap g' → MemberText (n, v) (n ++ g ++ ':' :: g' ++ v)

/-- An object, given by the texts of its names and values. -/
def PairsText (ps : List (List Char × List Char)) (cs : List Char) : Prop :=
  ∃ items, List.Forall₂ MemberText ps items ∧ Bracketed '\x7b' '\x7d' items cs

/-- A name and a value, given by the name itself and the text of the value. -/
def NamedText (m : String × List Char) (cs : List Char) : Prop :=
  ∃ n, StringText m.1 n ∧ MemberText (n, m.2) cs

/-- An object, given by its names and the texts of their values. -/
def ObjectText (ms : List (String × List Char)) (cs : List Char) : Prop :=
  ∃ items, List.Forall₂ NamedText ms items ∧ Bracketed '\x7b' '\x7d' items cs

inductive ValueText : List Char → Prop
  | null : ValueText ['n', 'u', 'l', 'l']
  | true : ValueText ['t', 'r', 'u', 'e']
  | false : ValueText ['f', 'a', 'l', 's', 'e']
  | string {cs : List Char} : LooseText cs → ValueText cs
  | unsigned {cs : List Char} : UnsignedText cs → ValueText cs
  | negative {cs : List Char} : UnsignedText cs → ValueText ('-' :: cs)
  | array {vs : List (List Char)} {cs : List Char} :
      ArrayText vs cs → (∀ v ∈ vs, ValueText v) → ValueText cs
  | object {ps : List (List Char × List Char)} {cs : List Char} :
      PairsText ps cs → (∀ p ∈ ps, LooseText p.1) → (∀ p ∈ ps, ValueText p.2) → ValueText cs

/-- An object with the given members in any order, among others that have none of the names. -/
def ObjectWith (names : List String) (known : List (String × List Char)) (cs : List Char) : Prop :=
  ∃ extra ms, (∀ m ∈ extra, m.1 ∉ names ∧ ValueText m.2) ∧ ms.Perm (known ++ extra) ∧
    ObjectText ms cs

/-- A structure with fields of the given names: an object, or the list of its values as far as it
goes. -/
inductive RecordText (names : List String) (known : List (String × List Char)) : List Char → Prop
  | object {v : List Char} : ObjectWith names known v → RecordText names known v
  | listed {v : List Char} :
      known.map Prod.fst <+: names → ArrayText (known.map Prod.snd) v → RecordText names known v

/-! ## Texts without blanks and escapes -/

theorem CharsText.plain {s : List Char} (h : s.all fun c => IsPlain c) : CharsText s s := by
  induction s with
  | nil => exact .nil
  | cons c s ih =>
      rw [List.all_cons, Bool.and_eq_true] at h
      exact .cons (.plain (of_decide_eq_true h.1)) (ih h.2)

theorem StringText.plain {s : String} (h : s.toList.all fun c => IsPlain c) :
    StringText s ('"' :: s.toList ++ ['"']) :=
  ⟨s.toList, .plain h, rfl⟩

theorem ItemsText.last (v : List Char) : ItemsText [v] v := by
  simpa using ItemsText.one (v := v) .nil .nil

theorem ItemsText.next (v : List Char) {vs : List (List Char)} {cs : List Char}
    (h : ItemsText vs cs) : ItemsText (v :: vs) (v ++ ',' :: cs) := by
  simpa using ItemsText.more (v := v) .nil .nil h

/-- Blanks may stand before items. -/
theorem ItemsText.indent {vs : List (List Char)} {cs g : List Char} (h : ItemsText vs cs)
    (hg : Gap g) : ItemsText vs (g ++ cs) := by
  cases h with
  | @one before v after hbefore hafter =>
      simpa using ItemsText.one (v := v) (hg.append hbefore) hafter
  | @more before v after cs vs hbefore hafter hitems =>
      simpa using ItemsText.more (v := v) (hg.append hbefore) hafter hitems

/-- Blanks may stand behind items. -/
theorem ItemsText.pad {vs : List (List Char)} {cs g : List Char} (h : ItemsText vs cs)
    (hg : Gap g) : ItemsText vs (cs ++ g) := by
  induction h with
  | @one before v after hbefore hafter =>
      simpa using ItemsText.one (v := v) hbefore (hafter.append hg)
  | @more before v after cs vs hbefore hafter _ ih =>
      simpa using ItemsText.more (v := v) hbefore hafter ih

theorem NamedText.tight {name : String} {n : List Char} (h : StringText name n) (v : List Char) :
    NamedText (name, v) (n ++ ':' :: v) :=
  ⟨n, h, by simpa using MemberText.member (n := n) (v := v) .nil .nil⟩

/-! ## What texts begin and end with -/

/-- The characters with which a value begins. -/
def StartsValue (c : Char) : Prop := c ∈ ['n', 't', 'f', '"', '-', '[', '\x7b'] ∨ c.isDigit = true

/-- Whether a text that follows a value cannot be taken for a part of it. -/
def Ends (rest : List Char) : Prop :=
  ∀ c, rest.head? = some c → c ∈ gapChars ∨ c ∈ [',', ']', '\x7d']

theorem Ends.nil : Ends [] := fun _ h => absurd h (by simp)

theorem Ends.cons {c : Char} (h : c ∈ [',', ']', '\x7d']) (cs : List Char) : Ends (c :: cs) := by
  intro d hd
  obtain rfl : c = d := Option.some.inj hd
  exact .inr h

theorem Ends.gap {g rest : List Char} (hg : Gap g) (h : Ends rest) : Ends (g ++ rest) := by
  cases g with
  | nil => exact h
  | cons c g =>
      intro d hd
      obtain rfl : c = d := Option.some.inj hd
      exact .inl (hg c (List.mem_cons_self ..))

end LintRelay.Json
