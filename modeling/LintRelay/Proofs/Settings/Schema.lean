import LintRelay.Settings.Schema
import Mathlib.Data.List.Nodup
import Mathlib.Tactic.SplitIfs

/-!
# What the schema admits

The check of a value looks for the first violation. `Kind.Admits` says what a value of a kind is,
with no order in it, and a value has no violation exactly if it is an object all members of which
are admitted (`violation?_eq_none_iff`).
-/

namespace LintRelay.Settings

inductive Kind.Admits : Kind → Json → Prop
  | string {least : Nat} {s : String} : least ≤ s.length → Admits (.string least) (.string s)
  | noString : Admits .stringOrNull .null
  | someString (s : String) : Admits .stringOrNull (.string s)
  | boolean (b : Bool) : Admits .boolean (.bool b)
  | natural {n : Json.Number} :
      isIntegral n = true → isNegative n = false → Admits .natural (.number n)
  | array {item : Kind} {vs : List Json} :
      (∀ v ∈ vs, Admits item v) → Admits (.array item) (.array vs)

theorem checkItems_eq_none_iff {check : Json → Option Violation} {vs : List Json} {i : Nat} :
    checkItems check i vs = none ↔ ∀ v ∈ vs, check v = none := by
  induction vs generalizing i with
  | nil => simp [checkItems]
  | cons v vs ih =>
      rw [checkItems, List.forall_mem_cons]
      cases hv : check v with
      | none => simp [ih]
      | some w => simp

theorem Kind.check_eq_none_iff {kind : Kind} {v : Json} : kind.check v = none ↔ kind.Admits v := by
  induction kind generalizing v with
  | string least =>
      constructor
      · intro h
        cases v with
        | string s =>
            simp only [check] at h
            split_ifs at h with hshort
            exact .string (Nat.le_of_not_lt hshort)
        | _ => simp [check] at h
      · rintro ⟨hlong⟩
        rw [check, if_neg (Nat.not_lt.mpr hlong)]
  | stringOrNull =>
      constructor
      · intro h
        cases v with
        | null => exact .noString
        | string s => exact .someString s
        | _ => simp [check] at h
      · intro h
        cases h <;> rfl
  | boolean =>
      constructor
      · intro h
        cases v with
        | bool b => exact .boolean b
        | _ => simp [check] at h
      · intro h
        cases h
        rfl
  | natural =>
      constructor
      · intro h
        cases v with
        | number n =>
            simp only [check] at h
            split_ifs at h with hintegral hnegative
            exact .natural (by simpa using hintegral) (by simpa using hnegative)
        | _ => simp [check] at h
      · intro h
        cases h with
        | natural hintegral hnegative => simp [check, hintegral, hnegative]
  | array item ih =>
      constructor
      · intro h
        cases v with
        | array vs => exact .array fun v hv => ih.mp (checkItems_eq_none_iff.mp h v hv)
        | _ => simp [check] at h
      · intro h
        cases h with
        | array hvs => exact checkItems_eq_none_iff.mpr fun v hv => ih.mpr (hvs v hv)

/-- Whether settings may have a member. -/
def Admitted (m : String × Json) : Prop := ∃ kind, (m.1, kind) ∈ schema ∧ kind.Admits m.2

theorem checkMember_eq_none_iff {name : String} {v : Json} :
    checkMember name v = none ↔ Admitted (name, v) := by
  have hnames : (schema.map Prod.fst).Nodup := by decide
  unfold checkMember
  split
  · rename_i name' kind hfind
    obtain rfl : name' = name := by simpa using List.find?_some hfind
    rw [Option.map_eq_none_iff, Kind.check_eq_none_iff]
    constructor
    · exact fun h => ⟨kind, List.mem_of_find?_eq_some hfind, h⟩
    · rintro ⟨kind', hmem, h⟩
      have hsame := List.inj_on_of_nodup_map hnames hmem (List.mem_of_find?_eq_some hfind) rfl
      rwa [← (Prod.mk.inj hsame).2]
  · rename_i hfind
    simp only [reduceCtorEq, false_iff]
    rintro ⟨kind, hmem, -⟩
    exact List.find?_eq_none.mp hfind _ hmem (beq_self_eq_true _)

/-- **Settings without a violation.** -/
theorem violation?_eq_none_iff {v : Json} :
    violation? v = none ↔ ∃ ms, v = .object ms ∧ ∀ m ∈ ms, Admitted m := by
  constructor
  · intro h
    cases v with
    | object ms =>
        refine ⟨ms, rfl, fun m hm => checkMember_eq_none_iff.mp ?_⟩
        exact List.findSome?_eq_none_iff.mp h m hm
    | _ => simp [violation?] at h
  · rintro ⟨ms, rfl, hms⟩
    exact List.findSome?_eq_none_iff.mpr fun m hm => checkMember_eq_none_iff.mpr (hms m hm)

end LintRelay.Settings
