import LintRelay.Proofs.Settings.Fields
import LintRelay.Proofs.Settings.Schema

/-!
# Schema and fields

Settings are checked against the schema and then taken apart. Whatever the schema admits can be
taken apart but for one thing: a delay may be any number that is whole and not negative for the
schema, and has to be an integer of 64 bits for its field. So after the check only the delay can
still be refused, and it is where it is written as a floating point number or is too great
(`ofJson_of_no_violation`).
-/

namespace LintRelay.Settings

open Json

/-! ## Known names -/

theorem optional_of_mem_slots : ∀ slot ∈ form.slots, slot.optional = true := by
  simp [form, fields, field, Slot.of]

/-- A value that is taken apart fits its field. -/
theorem fit_of_decode {name : String} {decode : Decoder α} {put : α → Settings → Settings}
    (hslot : form.slot? name = some (.of name true decode put)) {v : Json} {a : α}
    (ha : decode v = .ok a) : form.Fit (name, v) := by
  intro slot hslot'
  obtain rfl := Option.some.inj (hslot.symm.trans hslot')
  exact ⟨put a, by simp [Slot.of, ha, Except.map]⟩

/-- The names of the schema that belong to no field are passed over. -/
theorem fit_of_unknown {name : String} (h : form.slot? name = none) (v : Json) :
    form.Fit (name, v) := by
  intro slot hslot
  exact absurd (h.symm.trans hslot) (by simp)

/-! ## What the schema admits -/

theorem exists_strings {least : Nat} {v : Json} (h : (Kind.array (.string least)).Admits v) :
    ∃ ss, v = stringList ss := by
  cases h with
  | @array _ vs hvs =>
      have hmap : ∃ ss : List String, vs = ss.map .string := by
        induction vs with
        | nil => exact ⟨[], rfl⟩
        | cons w vs ih =>
            obtain ⟨hw, hothers⟩ := List.forall_mem_cons.mp hvs
            obtain ⟨ss, rfl⟩ := ih hothers
            cases hw with
            | @string _ s _ => exact ⟨s :: ss, rfl⟩
      obtain ⟨ss, rfl⟩ := hmap
      exact ⟨ss, rfl⟩

theorem exists_string {least : Nat} {v : Json} (h : (Kind.string least).Admits v) :
    ∃ s, v = .string s := by
  cases h with
  | @string _ s _ => exact ⟨s, rfl⟩

theorem exists_string? {v : Json} (h : Kind.stringOrNull.Admits v) :
    ∃ o, v = Json.ofString? o := by
  cases h with
  | noString => exact ⟨none, rfl⟩
  | someString s => exact ⟨some s, rfl⟩

theorem exists_bool {v : Json} (h : Kind.boolean.Admits v) : ∃ b, v = .bool b := by
  cases h with
  | boolean b => exact ⟨b, rfl⟩

/-- Every admitted member but a delay fits. -/
theorem fit_of_admitted {m : String × Json} (h : Admitted m) (hdelay : m.1 ≠ "debounceMs") :
    form.Fit m := by
  have hstrings := Decoder.inverts_list Decoder.inverts_string
  obtain ⟨name, v⟩ := m
  obtain ⟨kind, hmem, hadmits⟩ := h
  simp only [schema, List.mem_cons, Prod.mk.injEq, List.not_mem_nil, or_false] at hmem
  rcases hmem with ⟨rfl, rfl⟩ | ⟨rfl, rfl⟩ | ⟨rfl, rfl⟩ | ⟨rfl, rfl⟩ | ⟨rfl, rfl⟩ | ⟨rfl, rfl⟩ |
    ⟨rfl, rfl⟩ | ⟨rfl, rfl⟩ | ⟨rfl, rfl⟩
  · exact fit_of_unknown rfl v
  · obtain ⟨ss, rfl⟩ := exists_strings hadmits
    exact fit_of_decode rfl ((hstrings _ ss).mpr rfl)
  · obtain ⟨ss, rfl⟩ := exists_strings hadmits
    exact fit_of_decode rfl ((hstrings _ ss).mpr rfl)
  · obtain ⟨s, rfl⟩ := exists_string hadmits
    exact fit_of_decode rfl ((Decoder.inverts_string _ s).mpr rfl)
  · obtain ⟨s, rfl⟩ := exists_string hadmits
    exact fit_of_decode rfl ((Decoder.inverts_string _ s).mpr rfl)
  · obtain ⟨o, rfl⟩ := exists_string? hadmits
    exact fit_of_decode rfl ((Decoder.inverts_nullable_string _ o).mpr rfl)
  · obtain ⟨s, rfl⟩ := exists_string hadmits
    exact fit_of_decode rfl ((Decoder.inverts_string _ s).mpr rfl)
  · obtain ⟨b, rfl⟩ := exists_bool hadmits
    exact fit_of_decode rfl ((Decoder.inverts_bool _ b).mpr rfl)
  · exact absurd rfl hdelay

/-- An admitted delay is a number. -/
theorem number_of_admitted {v : Json} (h : Admitted ("debounceMs", v)) : ∃ n, v = .number n := by
  obtain ⟨kind, hmem, hadmits⟩ := h
  have hkind : kind = .natural := by simpa [schema] using hmem
  subst hkind
  cases hadmits with
  | @natural n _ _ => exact ⟨n, rfl⟩

/-- A delay fits if it is a natural number of 64 bits. -/
theorem fit_delay_iff {v : Json} :
    form.Fit ("debounceMs", v) ↔ ∃ n ≤ greatestDelay, v = .ofNat n := by
  constructor
  · intro h
    obtain ⟨change, hchange⟩ := h _ rfl
    cases hn : Decoder.natural "u64" greatestDelay v with
    | error e => simp [field, Content.decoder, Slot.of, hn, Except.map] at hchange
    | ok n =>
        obtain ⟨hv, hle⟩ := Decoder.natural_eq_ok_iff.mp hn
        exact ⟨n, hle, hv⟩
  · rintro ⟨n, hn, rfl⟩
    exact fit_of_decode rfl (Decoder.natural_eq_ok_iff.mpr ⟨rfl, hn⟩)

/-! ## Settings from admitted members -/

theorem ofJson_of_admitted {ms : List (String × Json)} (h : ∀ m ∈ ms, Admitted m) :
    ofJson (.object ms) = (form.ofMembers ms standard).mapError .unreadable := by
  rw [ofJson, violation?_eq_none_iff.mpr ⟨ms, rfl, h⟩]
  dsimp only
  rw [Form.decoder_of_optional optional_of_mem_slots]
  rfl

/-- **After the check only the delay can be refused.** Settings without a violation are read exactly
if every delay in them is an integer of at most 64 bits; where they are not, the reason is a delay
that is no such integer. -/
theorem ofJson_of_no_violation (v : Json) (h : violation? v = none) :
    ∃ ms, v = .object ms ∧
      ((∃ s, ofJson v = .ok s) ↔
        ∀ d, ("debounceMs", d) ∈ ms → ∃ n ≤ greatestDelay, d = .ofNat n) ∧
      ∀ e, ofJson v = .error e →
        ∃ n reason, ("debounceMs", .number n) ∈ ms ∧
          n.natural "u64" greatestDelay = .error reason ∧ e = .unreadable reason := by
  obtain ⟨ms, rfl, hms⟩ := violation?_eq_none_iff.mp h
  have hread := ofJson_of_admitted hms
  refine ⟨ms, rfl, ⟨?_, ?_⟩, ?_⟩
  · rintro ⟨s, hs⟩ d hd
    cases hdraft : form.ofMembers ms standard with
    | error e =>
        rw [hread, hdraft] at hs
        cases hs
    | ok s' => exact fit_delay_iff.mp (Form.fit_of_ofMembers hdraft _ hd)
  · intro hdelays
    have hfit : ∀ m ∈ ms, form.Fit m := by
      rintro ⟨name, d⟩ hm
      by_cases hname : name = "debounceMs"
      · subst hname
        exact fit_delay_iff.mpr (hdelays d hm)
      · exact fit_of_admitted (hms _ hm) hname
    obtain ⟨s, hs⟩ := Form.exists_ofMembers hfit standard
    exact ⟨s, by rw [hread, hs]; rfl⟩
  · intro e he
    cases hdraft : form.ofMembers ms standard with
    | ok s =>
        rw [hread, hdraft] at he
        cases he
    | error reason =>
        rw [hread, hdraft] at he
        obtain ⟨⟨name, d⟩, hm, slot, hslot, hrefused⟩ := Form.exists_refused_of_ofMembers hdraft
        obtain rfl : name = "debounceMs" := by
          by_contra hname
          obtain ⟨change, hchange⟩ := fit_of_admitted (hms _ hm) hname slot hslot
          exact absurd (hchange.symm.trans hrefused) (by simp)
        obtain ⟨n, rfl⟩ := number_of_admitted (hms _ hm)
        obtain rfl := Option.some.inj hslot
        refine ⟨n, reason, hm, ?_, (Except.error.inj he).symm⟩
        cases hn : n.natural "u64" greatestDelay with
        | ok d => simp [field, Content.decoder, Slot.of, Decoder.natural, hn, Except.map] at hrefused
        | error e' =>
            simp only [field, Content.decoder, Slot.of, Decoder.natural, hn, Except.map] at hrefused
            rw [Except.error.inj hrefused]

/-- The number one as a floating point number. -/
def floatOne : Decimal.Binary64 := ⟨false, 0x10000000000000, -52⟩

def floatDelay : Json := .object [("debounceMs", .number (.float floatOne))]

/-- The delay counts as an integer for the schema. -/
theorem violation?_floatDelay : violation? floatDelay = none := by
  have hkind : Kind.natural.Admits (.number (.float floatOne)) :=
    .natural (by decide +kernel) (by decide +kernel)
  refine violation?_eq_none_iff.mpr ⟨_, rfl, List.forall_mem_singleton.mpr ⟨.natural, ?_, hkind⟩⟩
  decide

/-- Settings without a violation that are refused for their delay. -/
theorem ofJson_of_no_violation_floatDelay :
    violation? floatDelay = none ∧ ¬∃ s, ofJson floatDelay = .ok s := by
  obtain ⟨ms, hms, hread, -⟩ := ofJson_of_no_violation floatDelay violation?_floatDelay
  obtain rfl := Json.object.inj hms
  refine ⟨violation?_floatDelay, fun hsettings => ?_⟩
  obtain ⟨n, -, hn⟩ := hread.mp hsettings _ (List.mem_singleton_self _)
  exact Number.noConfusion (Json.number.inj hn)

/-- **Schema and fields do not agree.** What `1.0` is read as passes the check and is refused. -/
theorem floatDelay_refused :
    (readNumber false "1.0".toList).toOption = some (.float floatOne, []) ∧
      violation? floatDelay = none ∧
      ofJson floatDelay = .error (.unreadable (.invalidType (.float floatOne) "u64")) := by
  refine ⟨by decide +kernel, violation?_floatDelay, ?_⟩
  rw [ofJson, violation?_floatDelay]
  rfl

end LintRelay.Settings
