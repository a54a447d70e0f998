import LintRelay.Json.Decoder
import LintRelay.Proofs.Json.Members
import LintRelay.Proofs.Json.Spelling

/-!
# Taking structures from objects

A structure that is taken from an object goes through the members one by one. So it is taken exactly
if each member of a known name is (`Form.exists_ofMembers`, `Form.fit_of_ofMembers`), and whatever
can be seen of the fields is what the members say over what was there before, where of two members
of one name the later counts (`Form.view_ofMembers`).
-/

namespace LintRelay.Json

/-! ## Decoders -/

namespace Decoder

variable {α : Type}

/-- Whether a decoder takes apart just what is written. -/
def Inverts (decode : Decoder α) (write : α → Json) : Prop :=
  ∀ v a, decode v = .ok a ↔ v = write a

theorem inverts_string : Inverts Decoder.string .string := by
  intro v s
  constructor
  · intro h
    cases v with
    | string s' => rw [← Except.ok.inj h]
    | _ => simp [Decoder.string, refused] at h
  · rintro rfl
    rfl

theorem inverts_bool : Inverts Decoder.bool .bool := by
  intro v b
  constructor
  · intro h
    cases v with
    | bool b' => rw [← Except.ok.inj h]
    | _ => simp [Decoder.bool, refused] at h
  · rintro rfl
    rfl

theorem inverts_nullable_string : Inverts (Decoder.nullable Decoder.string) ofString? := by
  intro v o
  constructor
  · intro h
    cases v with
    | null => rw [← Except.ok.inj h]; rfl
    | string s => rw [← Except.ok.inj h]; rfl
    | _ => simp [Decoder.nullable, Decoder.string, refused, Except.map] at h
  · rintro rfl
    cases o <;> rfl

theorem inverts_list {decode : Decoder α} {write : α → Json} (h : Inverts decode write) :
    Inverts (Decoder.list decode) fun as => .array (as.map write) := by
  have taken : ∀ (vs : List Json) (as : List α), vs.mapM decode = .ok as → vs = as.map write := by
    intro vs
    induction vs with
    | nil =>
        intro as hvs
        rw [← Except.ok.inj hvs]
        rfl
    | cons v vs ih =>
        intro as hvs
        rw [List.mapM_cons] at hvs
        obtain ⟨a, ha, hmore⟩ := exists_of_bind_ok hvs
        obtain ⟨as', has, hdone⟩ := exists_of_bind_ok hmore
        rw [← Except.ok.inj hdone, (h v a).mp ha, ih as' has, List.map_cons]
  have written : ∀ as : List α, (as.map write).mapM decode = .ok as := by
    intro as
    induction as with
    | nil => rfl
    | cons a as ih =>
        rw [List.map_cons, List.mapM_cons, (h _ a).mpr rfl, ih]
        rfl
  intro v as
  constructor
  · intro hv
    cases v with
    | array vs => exact congrArg Json.array (taken vs as hv)
    | _ => simp [Decoder.list, refused] at hv
  · rintro rfl
    exact written as

theorem natural_eq_ok_iff {expected : String} {greatest n : Nat} {v : Json} :
    Decoder.natural expected greatest v = .ok n ↔ v = .ofNat n ∧ n ≤ greatest := by
  constructor
  · intro h
    cases v with
    | number x =>
        cases x with
        | integer i =>
            simp only [Decoder.natural, Number.natural] at h
            split_ifs at h with hfits
            simp only [Bool.and_eq_true, decide_eq_true_eq] at hfits
            obtain rfl := Except.ok.inj h
            refine ⟨?_, hfits.2⟩
            rw [ofNat, ofInt, Int.toNat_of_nonneg hfits.1]
        | float x => simp [Decoder.natural, Number.natural] at h
    | _ => simp [Decoder.natural, refused] at h
  · rintro ⟨rfl, hn⟩
    simp [Decoder.natural, ofNat, ofInt, Number.natural, hn]

end Decoder

/-! ## Forms -/

namespace Form

variable {ρ : Type} {f : Form ρ}

/-- The field that a name belongs to. -/
def slot? (f : Form ρ) (name : String) : Option (Slot ρ) :=
  f.slots.find? fun s => s.name == name

/-- Whether a member is taken: its name is not known, or its value is of the field. -/
def Fit (f : Form ρ) (m : String × Json) : Prop :=
  ∀ s, f.slot? m.1 = some s → ∃ put, s.decode m.2 = .ok put

theorem ofMembers_known {m : String × Json} {s : Slot ρ} (hs : f.slot? m.1 = some s)
    (ms : List (String × Json)) (d : ρ) :
    f.ofMembers (m :: ms) d = (s.decode m.2).bind fun put => f.ofMembers ms (put d) := by
  rw [slot?] at hs
  rw [ofMembers]
  split
  · rename_i hnone
    rw [hs] at hnone
    cases hnone
  · rename_i s' hs'
    rw [hs] at hs'
    cases hs'
    rfl

theorem ofMembers_unknown {m : String × Json} (hm : f.slot? m.1 = none)
    (ms : List (String × Json)) (d : ρ) : f.ofMembers (m :: ms) d = f.ofMembers ms d := by
  rw [slot?] at hm
  rw [ofMembers, hm]

/-- Members that are all taken make a draft. -/
theorem exists_ofMembers {ms : List (String × Json)} (h : ∀ m ∈ ms, f.Fit m) (d : ρ) :
    ∃ d', f.ofMembers ms d = .ok d' := by
  induction ms generalizing d with
  | nil => exact ⟨d, rfl⟩
  | cons m ms ih =>
      obtain ⟨hm, hms⟩ := List.forall_mem_cons.mp h
      cases hs : f.slot? m.1 with
      | none =>
          rw [ofMembers_unknown hs]
          exact ih hms d
      | some s =>
          obtain ⟨put, hput⟩ := hm s hs
          rw [ofMembers_known hs, hput]
          exact ih hms (put d)

/-- In a draft that is made every member is taken. -/
theorem fit_of_ofMembers {ms : List (String × Json)} {d d' : ρ} (h : f.ofMembers ms d = .ok d') :
    ∀ m ∈ ms, f.Fit m := by
  induction ms generalizing d with
  | nil => exact fun _ hm => absurd hm List.not_mem_nil
  | cons m ms ih =>
      cases hs : f.slot? m.1 with
      | none =>
          rw [ofMembers_unknown hs] at h
          refine List.forall_mem_cons.mpr ⟨fun s hs' => ?_, ih h⟩
          exact absurd (hs.symm.trans hs') (by simp)
      | some s =>
          rw [ofMembers_known hs] at h
          cases hput : s.decode m.2 with
          | error e => simp [hput, Except.bind] at h
          | ok put =>
              rw [hput] at h
              refine List.forall_mem_cons.mpr ⟨fun s' hs' => ?_, ih h⟩
              rw [← Option.some.inj (hs.symm.trans hs')]
              exact ⟨put, hput⟩

/-- Where no draft is made, a member is refused. -/
theorem exists_refused_of_ofMembers {ms : List (String × Json)} {d : ρ} {e : ReadError}
    (h : f.ofMembers ms d = .error e) :
    ∃ m ∈ ms, ∃ s, f.slot? m.1 = some s ∧ s.decode m.2 = .error e := by
  induction ms generalizing d with
  | nil => simp [ofMembers] at h
  | cons m ms ih =>
      cases hs : f.slot? m.1 with
      | none =>
          rw [ofMembers_unknown hs] at h
          obtain ⟨m', hm', hrefused⟩ := ih h
          exact ⟨m', List.mem_cons_of_mem _ hm', hrefused⟩
      | some s =>
          rw [ofMembers_known hs] at h
          cases hput : s.decode m.2 with
          | error e' =>
              rw [hput] at h
              exact ⟨m, List.mem_cons_self .., s, hs, by rw [hput, Except.error.inj h]⟩
          | ok put =>
              rw [hput] at h
              obtain ⟨m', hm', hrefused⟩ := ih h
              exact ⟨m', List.mem_cons_of_mem _ hm', hrefused⟩

/-- Where every field may be left out, only the members decide. -/
theorem decoder_of_optional (h : ∀ s ∈ f.slots, s.optional = true) (ms : List (String × Json)) :
    f.decoder (.object ms) = f.ofMembers ms f.blank := by
  have hmissing : f.missing? ms = none := by
    rw [missing?, Option.map_eq_none_iff, List.find?_eq_none]
    intro s hs
    simp [h s hs]
  rw [decoder, decoderFrom]
  cases hdraft : f.ofMembers ms f.blank with
  | error e => rfl
  | ok d =>
      simp only [bind, Except.bind, hmissing]
      rfl

/-- **What is seen of a draft is what the members of known names say.** -/
theorem view_ofMembers {view : ρ → String → Option Json}
    (hview : ∀ s ∈ f.slots, ∀ v put, s.decode v = .ok put →
      ∀ d, view (put d) = Function.update (view d) s.name (some v))
    {ms : List (String × Json)} {d d' : ρ} (h : f.ofMembers ms d = .ok d') :
    view d' = overlay (ms.filter fun m => (f.slot? m.1).isSome) (view d) := by
  induction ms generalizing d with
  | nil =>
      rw [Except.ok.inj h]
      rfl
  | cons m ms ih =>
      cases hs : f.slot? m.1 with
      | none =>
          rw [ofMembers_unknown hs] at h
          rw [ih h, List.filter_cons_of_neg (by simp [hs])]
      | some s =>
          rw [ofMembers_known hs] at h
          cases hput : s.decode m.2 with
          | error e => simp [hput, Except.bind] at h
          | ok put =>
              rw [hput] at h
              have hname := List.find?_some hs
              have hchange := hview s (List.mem_of_find?_eq_some hs) m.2 put hput d
              rw [eq_of_beq hname] at hchange
              rw [ih h, hchange, List.filter_cons_of_pos (by simp [hs]), overlay_cons]

end Form
end LintRelay.Json
