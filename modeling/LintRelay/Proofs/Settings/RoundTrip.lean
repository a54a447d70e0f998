import LintRelay.Proofs.Jsonc.Reading
import LintRelay.Proofs.Settings.Agreement

/-!
# Settings that are written and read

Which settings an object makes is decided by what its members say over the standard settings
(`said_of_ofJson`), and an object makes settings if all of its members are accepted
(`exists_ofJson`). The members of written settings are accepted where no string is empty that may
not be (`accepted_of_written`), and say what the settings say. From this follows that settings
survive being written and read, and that settings with some members are the standard settings with
these members written over them (`settings_survive`).
-/

namespace LintRelay.Settings

open Json

/-! ## Accepted members -/

/-- Whether a member is admitted by the schema and fits its field. -/
def Accepted (m : String × Json) : Prop := Admitted m ∧ form.Fit m

theorem accepted_of_ofJson {ms : List (String × Json)} {s : Settings}
    (h : ofJson (.object ms) = .ok s) :
    (∀ m ∈ ms, Accepted m) ∧ form.ofMembers ms standard = .ok s := by
  cases hviolation : violation? (.object ms) with
  | some w =>
      rw [ofJson, hviolation] at h
      cases h
  | none =>
      obtain ⟨ms', hms', hadmitted⟩ := violation?_eq_none_iff.mp hviolation
      obtain rfl := Json.object.inj hms'
      rw [ofJson_of_admitted hadmitted] at h
      cases hdraft : form.ofMembers ms standard with
      | error e =>
          rw [hdraft] at h
          cases h
      | ok s' =>
          rw [hdraft] at h
          refine ⟨fun m hm => ⟨hadmitted m hm, Form.fit_of_ofMembers hdraft m hm⟩, ?_⟩
          rw [Except.ok.inj h]

/-- The schema knows the name of no field but its own. -/
theorem slot?_isSome_iff {m : String × Json} (h : Admitted m) :
    (form.slot? m.1).isSome = (m.1 != "$schema") := by
  have hnames : ∀ name ∈ schema.map Prod.fst,
      (form.slot? name).isSome = (name != "$schema") := by
    decide
  obtain ⟨kind, hmem, -⟩ := h
  exact hnames _ (List.mem_map.mpr ⟨_, hmem, rfl⟩)

/-- **Settings say what the members say over the standard settings.** -/
theorem said_of_ofJson {ms : List (String × Json)} {s : Settings}
    (h : ofJson (.object ms) = .ok s) :
    s.said = overlay (ms.filter (·.1 != "$schema")) standard.said := by
  obtain ⟨haccepted, hdraft⟩ := accepted_of_ofJson h
  rw [Form.view_ofMembers (fun _ hslot => said_put hslot) hdraft]
  congr 1
  exact List.filter_congr fun m hm => slot?_isSome_iff (haccepted m hm).1

theorem exists_ofJson {ms : List (String × Json)} (h : ∀ m ∈ ms, Accepted m) :
    ∃ s, ofJson (.object ms) = .ok s := by
  obtain ⟨s, hs⟩ := Form.exists_ofMembers (fun m hm => (h m hm).2) standard
  refine ⟨s, ?_⟩
  rw [ofJson_of_admitted fun m hm => (h m hm).1, hs]
  rfl

/-- An object that is built of accepted members makes the settings that say the same. -/
theorem ofJson_ofMembers {ms : List (String × Json)} (h : ∀ m ∈ ms, Accepted m) {s : Settings}
    (hsaid : ∀ k ≠ "$schema", overlay ms standard.said k = s.said k) :
    ofJson (.ofMembers ms) = .ok s := by
  obtain ⟨t, ht⟩ := exists_ofJson fun m hm => h m (Members.mem_ofList hm)
  have hsame : t.said = s.said := by
    funext k
    by_cases hk : k = "$schema"
    · rw [hk, said_eq, said_eq]
      rfl
    · rw [said_of_ofJson ht, overlay_filter_ne (fun _ _ => rfl) _ k hk, overlay_ofList, hsaid k hk]
  rw [ofMembers, ht, said_injective hsame]

/-! ## Written settings -/

/-- Whether no string of the settings is empty that may not be. -/
structure Nonblank (s : Settings) : Prop where
  extensions : ∀ e ∈ s.extensions, e ≠ ""
  lintConfigFile : s.lintConfigFile ≠ ""
  projectConfigFile : s.projectConfigFile ≠ ""
  sourceId : s.sourceId ≠ ""

theorem nonblank_standard : standard.Nonblank := by
  constructor <;> decide

theorem admits_ofString? (o : Option String) : Kind.stringOrNull.Admits (.ofString? o) := by
  cases o with
  | none => exact .noString
  | some s => exact .someString s

theorem admits_stringList {least : Nat} {ss : List String} (h : ∀ s ∈ ss, least ≤ s.length) :
    (Kind.array (.string least)).Admits (stringList ss) := by
  refine .array fun v hv => ?_
  obtain ⟨s, hs, rfl⟩ := List.mem_map.mp hv
  exact .string (h s hs)

theorem one_le_length {s : String} (h : s ≠ "") : 1 ≤ s.length := by
  rw [Nat.one_le_iff_ne_zero]
  simpa using h

theorem admitted_of_written {s : Settings} (h : s.Nonblank) :
    ∀ m ∈ s.toJson.members, Admitted m := by
  have member {name : String} {kind : Kind} {v : Json} (hkind : (name, kind) ∈ schema)
      (hv : kind.Admits v) : Admitted (name, v) := ⟨kind, hkind, hv⟩
  intro m hm
  simp only [toJson, members, List.mem_cons, List.not_mem_nil, or_false] at hm
  rcases hm with rfl | rfl | rfl | rfl | rfl | rfl | rfl | rfl
  · exact member (by decide) (admits_stringList fun e he => one_le_length (h.extensions e he))
  · exact member (by decide) (admits_stringList fun _ _ => Nat.zero_le _)
  · exact member (by decide) (.string (one_le_length h.lintConfigFile))
  · exact member (by decide) (.string (one_le_length h.projectConfigFile))
  · exact member (by decide) (admits_ofString? s.linterCommand)
  · exact member (by decide) (.string (one_le_length h.sourceId))
  · exact member (by decide) (.boolean s.useRuleSeverity)
  · exact member (by decide) (.natural rfl rfl)

theorem accepted_of_written {s : Settings} (h : s.Nonblank) :
    ∀ m ∈ s.toJson.members, Accepted m := by
  intro m hm
  have hadmitted := admitted_of_written h m hm
  refine ⟨hadmitted, ?_⟩
  by_cases hdelay : m.1 = "debounceMs"
  · obtain ⟨name, v⟩ := m
    obtain rfl : name = "debounceMs" := hdelay
    refine fit_delay_iff.mpr ⟨s.debounceMs.toNat, Nat.le_of_lt_succ s.debounceMs.toNat_lt, ?_⟩
    simpa [toJson, members] using hm
  · exact fit_of_admitted hadmitted hdelay

theorem nodup_written (s : Settings) : (s.toJson.members.map (·.1)).Nodup := by
  show ["extensions", "exclude", "lintConfigFile", "projectConfigFile", "linterCommand", "sourceId",
    "useRuleSeverity", "debounceMs"].Nodup
  decide

theorem said_eq_none {s : Settings} {k : String} (h : s.said k = none) (t : Settings) :
    t.said k = none := by
  rw [said_eq] at h ⊢
  split_ifs at h ⊢
  rfl

theorem overlay_written (s t : Settings) : overlay s.toJson.members t.said = s.said := by
  funext k
  rw [overlay_of_nodup (nodup_written s)]
  show (s.said k).or (t.said k) = s.said k
  cases hk : s.said k with
  | none => rw [said_eq_none hk t]; rfl
  | some v => rfl

/-! ## Texts of settings -/

theorem valueOf_compact_stringList (ss : List String) :
    Jsonc.ValueOf (stringList ss) (compact (stringList ss)) :=
  Jsonc.valueOf_compact_array (List.forall_mem_map.mpr fun s _ => Jsonc.valueOf_compact_string s)

theorem valueOf_compact_ofString? (o : Option String) :
    Jsonc.ValueOf (.ofString? o) (compact (.ofString? o)) := by
  cases o with
  | none => exact .literal (by simp [ofString?, compact])
  | some s => exact Jsonc.valueOf_compact_string s

theorem valueOf_compact_bool (b : Bool) : Jsonc.ValueOf (.bool b) (compact (.bool b)) := by
  cases b with
  | true => exact .literal (by simp [compact])
  | false => exact .literal (by simp [compact])

theorem valueOf_compact_toJson (s : Settings) : Jsonc.ValueOf s.toJson (compact s.toJson) := by
  refine Jsonc.valueOf_compact_object fun m hm => ?_
  simp only [List.mem_cons, List.not_mem_nil, or_false] at hm
  rcases hm with rfl | rfl | rfl | rfl | rfl | rfl | rfl | rfl
  · exact valueOf_compact_stringList s.extensions
  · exact valueOf_compact_stringList s.exclude
  · exact Jsonc.valueOf_compact_string s.lintConfigFile
  · exact Jsonc.valueOf_compact_string s.projectConfigFile
  · exact valueOf_compact_ofString? s.linterCommand
  · exact Jsonc.valueOf_compact_string s.sourceId
  · exact valueOf_compact_bool s.useRuleSeverity
  · exact Jsonc.valueOf_compact_natural (Nat.le_of_lt_succ s.debounceMs.toNat_lt)

theorem sorted_stringList (ss : List String) : sorted (stringList ss) = stringList ss := by
  rw [stringList, sorted, sortedItems_eq_map, List.map_map]
  rfl

theorem sorted_ofString? (o : Option String) : sorted (.ofString? o) = .ofString? o := by
  cases o with
  | none => rfl
  | some s => rfl

theorem sorted_toJson (s : Settings) : sorted s.toJson = .ofMembers s.toJson.members := by
  have hmembers : sortedMembers s.toJson.members = s.toJson.members := by
    simp only [toJson, members, sortedMembers, sorted_stringList, sorted_ofString?]
    rfl
  rw [toJson, sorted]
  exact congrArg ofMembers hmembers

/-- **Written settings are read back.** -/
theorem ofText_encode {s : Settings} (h : s.Nonblank) : ofText s.encode = .ok s := by
  have hparse := Jsonc.parse_valueOf (valueOf_compact_toJson s) .nil .nil
  rw [List.nil_append, List.append_nil, sorted_toJson] at hparse
  rw [ofText, encode, render, hparse]
  refine ofJson_ofMembers (accepted_of_written h) fun k _ => ?_
  rw [overlay_written]

/-! ## Partial settings -/

/-- The standard settings as a value, with members written over them. The name of the schema is not
one of them. -/
def overlaid (ms : List (String × Json)) : Json :=
  .ofMembers (standard.toJson.members ++ ms.filter (·.1 != "$schema"))

theorem ofJson_overlaid {ms : List (String × Json)} {s : Settings}
    (h : ofJson (.object ms) = .ok s) : ofJson (overlaid ms) = .ok s := by
  refine ofJson_ofMembers (fun m hm => ?_) fun k _ => ?_
  · rcases List.mem_append.mp hm with hstandard | hgiven
    · exact accepted_of_written nonblank_standard m hstandard
    · exact (accepted_of_ofJson h).1 m (List.mem_filter.mp hgiven).1
  · rw [overlay_append, overlay_written, said_of_ofJson h]

/-- What a field holds is what its member says, and the standard value where there is none. -/
theorem get?_of_ofJson {ms : List (String × Json)} {s : Settings} (h : ofJson (.object ms) = .ok s)
    (hnames : (ms.map Prod.fst).Nodup) {name : String} (hname : name ≠ "$schema") :
    s.toJson.get? name = ((Json.object ms).get? name).or (standard.toJson.get? name) := by
  have hsaid := congrFun (said_of_ofJson h) name
  rwa [overlay_filter_ne (fun _ _ => rfl) ms name hname, overlay_of_nodup hnames] at hsaid

/-- **Settings survive writing and reading**, and settings with some members are the standard
settings with these written over them. -/
theorem settings_survive :
    (∀ s : Settings, s.Nonblank → ofText s.encode = .ok s) ∧
    ∀ (ms : List (String × Json)) (s : Settings), ofJson (.object ms) = .ok s →
      ofJson (overlaid ms) = .ok s ∧
      ((ms.map Prod.fst).Nodup → ∀ name ≠ "$schema",
        s.toJson.get? name = ((Json.object ms).get? name).or (standard.toJson.get? name)) :=
  ⟨fun _ h => ofText_encode h, fun _ _ h =>
    ⟨ofJson_overlaid h, fun hnames _ hname => get?_of_ofJson h hnames hname⟩⟩

/-- Settings of which only the name of the source is given. -/
def renamed : List (String × Json) := [("$schema", .string ""), ("sourceId", .string "lint")]

theorem settings_survive_renamed :
    ofText standard.encode = .ok standard ∧
      ofJson (.object renamed) = .ok { standard with sourceId := "lint" } ∧
      ofJson (overlaid renamed) = .ok { standard with sourceId := "lint" } ∧
      ({ standard with sourceId := "lint" } : Settings).toJson.get? "debounceMs" =
        standard.toJson.get? "debounceMs" := by
  obtain ⟨hwritten, hpartial⟩ := settings_survive
  have hread : ofJson (.object renamed) = .ok { standard with sourceId := "lint" } := rfl
  obtain ⟨hsame, hfields⟩ := hpartial renamed _ hread
  exact ⟨hwritten standard nonblank_standard, hread, hsame,
    hfields (by decide) "debounceMs" (by decide)⟩

end LintRelay.Settings
