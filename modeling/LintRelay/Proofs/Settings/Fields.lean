import LintRelay.Proofs.Json.Decoding
import LintRelay.Settings.Reader

/-!
# Settings by their members

Settings are seen as what their written members say (`Settings.said`): two settings of which the
same is said are the same (`said_injective`). A field that is taken from a value says that value
afterwards, and of the other names what was said before (`said_put`). So settings that are taken
from an object say what its members say over what was said before (`Form.view_ofMembers`).
-/

namespace LintRelay.Settings

open Json

/-- What the written members say of a name. -/
def said (s : Settings) : String → Option Json := fun name => s.toJson.get? name

theorem said_eq (s : Settings) (name : String) :
    s.said name =
      if "extensions" = name then some (stringList s.extensions)
      else if "exclude" = name then some (stringList s.exclude)
      else if "lintConfigFile" = name then some (.string s.lintConfigFile)
      else if "projectConfigFile" = name then some (.string s.projectConfigFile)
      else if "linterCommand" = name then some (.ofString? s.linterCommand)
      else if "sourceId" = name then some (.string s.sourceId)
      else if "useRuleSeverity" = name then some (.bool s.useRuleSeverity)
      else if "debounceMs" = name then some (.ofNat s.debounceMs.toNat)
      else none := by
  simp only [said, toJson, get?, Members.find?_cons]
  rfl

theorem stringList_injective {ss ts : List String} (h : stringList ss = stringList ts) :
    ss = ts := by
  have hmap : ss.map Json.string = ts.map Json.string := by simpa [stringList] using h
  exact List.map_injective_iff.mpr (fun _ _ heq => by simpa using heq) hmap

theorem ofString?_injective {o p : Option String} (h : Json.ofString? o = Json.ofString? p) :
    o = p := by
  cases o <;> cases p <;> simp_all [Json.ofString?]

theorem ofNat_toNat_injective {x y : UInt64} (h : Json.ofNat x.toNat = Json.ofNat y.toNat) :
    x = y := by
  have hint : (x.toNat : Int) = y.toNat := by simpa [Json.ofNat, Json.ofInt] using h
  exact UInt64.toNat_inj.mp (Int.ofNat_inj.mp hint)

theorem said_injective {s t : Settings} (h : s.said = t.said) : s = t := by
  have hname : ∀ name, s.said name = t.said name := fun name => congrFun h name
  simp only [said, toJson, get?] at hname
  have hextensions := stringList_injective (Option.some.inj (hname "extensions"))
  have hexclude := stringList_injective (Option.some.inj (hname "exclude"))
  have hlint := Json.string.inj (Option.some.inj (hname "lintConfigFile"))
  have hproject := Json.string.inj (Option.some.inj (hname "projectConfigFile"))
  have hcommand := ofString?_injective (Option.some.inj (hname "linterCommand"))
  have hsource := Json.string.inj (Option.some.inj (hname "sourceId"))
  have hseverity := Json.bool.inj (Option.some.inj (hname "useRuleSeverity"))
  have hdebounce := ofNat_toNat_injective (Option.some.inj (hname "debounceMs"))
  cases s
  cases t
  simp_all

/-! ## One field -/

/-- A field of which the written value is said, and that leaves what is said of other names. -/
theorem said_slot {name : String} {decode : Decoder α} {put : α → Settings → Settings}
    {write : α → Json} (hdecode : ∀ v a, decode v = .ok a → v = write a)
    (hself : ∀ a d, decode (write a) = .ok a → (put a d).said name = some (write a))
    (hothers : ∀ a d k, name ≠ k → (put a d).said k = d.said k)
    {v : Json} {change : Settings → Settings}
    (h : (Slot.of name true decode put).decode v = .ok change) (d : Settings) :
    (change d).said = Function.update d.said name (some v) := by
  cases ha : decode v with
  | error e => simp [Slot.of, ha, Except.map] at h
  | ok a =>
      simp only [Slot.of, ha, Except.map] at h
      obtain rfl := Except.ok.inj h
      obtain rfl := hdecode v a ha
      funext k
      by_cases hk : name = k
      · rw [← hk, Function.update_self, hself a d ha]
      · rw [Function.update_of_ne (Ne.symm hk), hothers a d k hk]

theorem said_put {slot : Slot Settings} (h : slot ∈ form.slots) (v : Json)
    (put : Settings → Settings) (hput : slot.decode v = .ok put) (d : Settings) :
    (put d).said = Function.update d.said slot.name (some v) := by
  have hstrings := Decoder.inverts_list Decoder.inverts_string
  simp only [form, fields, field, Content.decoder, List.map_cons, List.map_nil, List.mem_cons,
    List.not_mem_nil, or_false] at h
  rcases h with rfl | rfl | rfl | rfl | rfl | rfl | rfl | rfl
  · exact said_slot (fun v a => (hstrings v a).mp) (fun _ _ _ => rfl)
      (fun a d k hk => by simp [said_eq, hk]) hput d
  · exact said_slot (fun v a => (hstrings v a).mp) (fun _ _ _ => rfl)
      (fun a d k hk => by simp [said_eq, hk]) hput d
  · exact said_slot (fun v a => (Decoder.inverts_string v a).mp) (fun _ _ _ => rfl)
      (fun a d k hk => by simp [said_eq, hk]) hput d
  · exact said_slot (fun v a => (Decoder.inverts_string v a).mp) (fun _ _ _ => rfl)
      (fun a d k hk => by simp [said_eq, hk]) hput d
  · exact said_slot (fun v a => (Decoder.inverts_nullable_string v a).mp) (fun _ _ _ => rfl)
      (fun a d k hk => by simp [said_eq, hk]) hput d
  · exact said_slot (fun v a => (Decoder.inverts_string v a).mp) (fun _ _ _ => rfl)
      (fun a d k hk => by simp [said_eq, hk]) hput d
  · exact said_slot (fun v a => (Decoder.inverts_bool v a).mp) (fun _ _ _ => rfl)
      (fun a d k hk => by simp [said_eq, hk]) hput d
  · -- A delay that is taken is written as it was, as it fits into 64 bits.
    refine said_slot (fun v a h => (Decoder.natural_eq_ok_iff.mp h).1) (fun a d ha => ?_)
      (fun a d k hk => by simp [said_eq, hk]) hput d
    have hle : a ≤ greatestDelay := (Decoder.natural_eq_ok_iff.mp ha).2
    have hsame : (UInt64.ofNat a).toNat = a :=
      UInt64.toNat_ofNat_of_lt' (Nat.lt_of_le_of_lt hle (by decide))
    simp [said_eq, hsame]

end LintRelay.Settings
