import LintRelay.Proofs.Report.Rendering
import LintRelay.Session.Basic

/-!
# Which reports are accepted

A report is accepted exactly if, without the blank characters around it, it is empty or an array of
failures in one of their forms; anything else is malformed (`readOutput_forms`). The forms are those
of the records: a failure, or a position in it, may be the bare list of its values. So a report is
accepted in which no object occurs at all (`parse_listedReport`).
-/

namespace LintRelay.Report

open Json Session

theorem isBlank_of_gap {g : List Char} (hg : Gap g) : ∀ c ∈ g, Text.isBlank c = true := by
  intro c hc
  have hgap := hg c hc
  simp only [gapChars, List.mem_cons, List.not_mem_nil, or_false] at hgap
  rcases hgap with rfl | rfl | rfl | rfl <;> rfl

/-- Trimming takes blank characters away. -/
theorem exists_trim (cs : List Char) :
    ∃ before after, (∀ c ∈ before, Text.isBlank c = true) ∧
      (∀ c ∈ after, Text.isBlank c = true) ∧ cs = before ++ Text.trim cs ++ after := by
  have split : ∀ cs : List Char, ∃ blanks, (∀ c ∈ blanks, Text.isBlank c = true) ∧
      cs = blanks ++ Text.trimFront cs := fun cs =>
    ⟨cs.takeWhile Text.isBlank, fun c hc => List.mem_takeWhile_imp hc,
      List.takeWhile_append_dropWhile.symm⟩
  obtain ⟨before, hbefore, hfront⟩ := split cs
  obtain ⟨after, hafter, hback⟩ := split (Text.trimFront cs).reverse
  refine ⟨before, after.reverse, hbefore, fun c hc => hafter c (List.mem_reverse.mp hc), ?_⟩
  have hmiddle : Text.trimFront cs = Text.trim cs ++ after.reverse := by
    rw [Text.trim, ← List.reverse_append, ← hback, List.reverse_reverse]
  rw [List.append_assoc, ← hmiddle]
  exact hfront

/-- What is read as a report is one. -/
theorem reportText_of_failures {fs : List Failure} {text : String} (h : failures text = .ok fs) :
    ReportText fs (Text.trim text.toList) := by
  obtain ⟨before, after, hbefore, hafter, htext⟩ := exists_trim text.toList
  unfold failures at h
  split at h
  · rename_i hempty
    rw [← Except.ok.inj h, hempty]
    exact .empty
  · obtain ⟨⟨fs', rest⟩, hread, hdone⟩ := exists_of_bind_ok h
    obtain ⟨g, v, hg, ⟨vs, hfs, hv⟩, hcs⟩ := takes_failure.list _ _ _ _ hread
    dsimp only at hdone
    split_ifs at hdone with hend
    obtain rfl := Except.ok.inj hdone
    have hrest := gap_of_skipGap_eq_nil (List.isEmpty_iff.mp hend)
    -- The blanks inside are blank characters too, so trimming leaves the array.
    have htrim : Text.trim text.toList = v := by
      rw [htext, hcs]
      have hfront : ∀ c ∈ before ++ g, Text.isBlank c = true :=
        List.forall_mem_append.mpr ⟨hbefore, isBlank_of_gap hg⟩
      have hback : ∀ c ∈ rest ++ after, Text.isBlank c = true :=
        List.forall_mem_append.mpr ⟨isBlank_of_gap hrest, hafter⟩
      simpa using trim_array hfront hback hv
    rw [htrim]
    exact .array hfs hv

/-- **What a linter printed is accepted in the forms of a report only.** It is then grouped by file;
in any other case it is malformed. -/
theorem readOutput_forms (p : Pending) (stdout : String) :
    (∃ fs, ReportText fs (Text.trim stdout.toList) ∧
      readOutput p (.ok stdout) = .ok (group ⟨some p.workingDir, p.useRuleSeverity⟩ fs)) ∨
    ((∀ fs, ¬ReportText fs (Text.trim stdout.toList)) ∧
      ∃ cause, readOutput p (.ok stdout) = .error (.malformedOutput cause)) := by
  cases hfailures : failures stdout with
  | ok fs =>
      refine .inl ⟨fs, reportText_of_failures hfailures, ?_⟩
      rw [readOutput, parse_of_failures hfailures]
      rfl
  | error cause =>
      refine .inr ⟨fun fs hreport => ?_, cause, ?_⟩
      · exact absurd ((failures_of_reportText hreport).symm.trans hfailures) (by simp)
      · rw [readOutput, parse_of_error hfailures]
        rfl

/-- In an array that begins with another array not every item is an object. -/
theorem exists_no_object {vs : List (List Char)} {t : List Char}
    (h : ArrayText vs ('[' :: '[' :: t)) : ∃ v ∈ vs, ∀ ps, ¬PairsText ps v := by
  have hbracket : ∀ {g cs : List Char}, Gap g → '[' :: t = g ++ cs → cs = '[' :: t := by
    intro g cs hg hcs
    cases g with
    | nil => exact hcs.symm
    | cons c g =>
        rw [List.cons_append] at hcs
        have hc := hg c (List.mem_cons_self ..)
        rw [← (List.cons.inj hcs).1] at hc
        exact absurd hc (by decide)
  generalize hcs : '[' :: '[' :: t = cs at h
  cases h with
  | empty hg =>
      have hend := hbracket hg (List.cons.inj hcs).2
      exact absurd (List.cons.inj hend).1 (by decide)
  | items hitems =>
      obtain ⟨g, _, hg, rfl, -, item, hitem, more, rfl⟩ := hitems.drop_gap
      refine ⟨item, hitem, fun ps hobject => ?_⟩
      obtain ⟨_, -, hobject⟩ := hobject
      obtain ⟨inner, rfl⟩ := hobject.begins
      have hfirst := hbracket hg ((List.cons.inj hcs).2.trans (List.append_assoc ..))
      exact absurd (List.cons.inj hfirst).1 (by decide)

/-- A failure at the start of `a.js`, given as the list of its values. -/
def listedReport : String := "[[\"r\",\"f\",\"a.js\",[0,0],[0,1]]]"

theorem reportText_listedReport :
    ReportText [⟨"r", "f", "a.js", ⟨0, 0⟩, ⟨0, 1⟩, none⟩] (Text.trim listedReport.toList) := by
  have hzero : NaturalText 0 ['0'] := ⟨⟨⟨by decide, by simp⟩, by decide⟩, by decide⟩
  have hone : NaturalText 1 ['1'] := ⟨⟨⟨by decide, by simp⟩, by decide⟩, by decide⟩
  have hstart : PositionForm ⟨0, 0⟩ "[0,0]".toList :=
    .record hzero hzero (.listed (by decide) (.items (.next _ (.last _))))
  have hstop : PositionForm ⟨0, 1⟩ "[0,1]".toList :=
    .record hzero hone (.listed (by decide) (.items (.next _ (.last _))))
  have hfailure : FailureForm ⟨"r", "f", "a.js", ⟨0, 0⟩, ⟨0, 1⟩, none⟩
      "[\"r\",\"f\",\"a.js\",[0,0],[0,1]]".toList :=
    .record (.plain (by decide)) (.plain (by decide)) (.plain (by decide)) hstart hstop .absent
      (.listed (by decide) (.items (.next _ (.next _ (.next _ (.next _ (.last _)))))))
  exact .array (.cons hfailure .nil) (.items (.last _))

/-- It is accepted, and yet whatever its items are taken to be, one of them is no object. -/
theorem parse_listedReport :
    (∃ set, parse listedReport ⟨none, false⟩ = .ok set ∧
      set.find? (.ofString "a.js") =
        some [⟨"[r] f", .warning, ⟨⟨0, 0⟩, ⟨0, 1⟩⟩, none, some "r"⟩]) ∧
    Text.trim listedReport.toList ≠ [] ∧
    ∀ vs, ArrayText vs (Text.trim listedReport.toList) → ∃ v ∈ vs, ∀ ps, ¬PairsText ps v := by
  refine ⟨⟨_, parse_of_failures (failures_of_reportText reportText_listedReport), by decide⟩,
    by decide +kernel, ?_⟩
  intro vs harray
  exact exists_no_object harray

end LintRelay.Report
