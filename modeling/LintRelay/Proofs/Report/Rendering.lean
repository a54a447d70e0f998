import LintRelay.Proofs.Json.Printing
import LintRelay.Proofs.Report.Forms
import LintRelay.Proofs.Report.Group

/-!
# Reading back a report

However a list of failures is written as a JSON array, with its members in any order, with others
among them and with blank characters around it, reading the report gives these failures grouped by
their paths: none is lost, none is doubled, and each path's are in order (`parse_rendering`). Every
list of failures can be written so (`isRendering_render`).
-/

namespace LintRelay.Report

open Json Json.Record

/-! ## Failures as they are written -/

inductive PositionText (p : Position) : List Char → Prop
  | object {line character v : List Char} :
      NaturalText p.line.toNat line → NaturalText p.character.toNat character →
      ObjectWith ["line", "character"] [("line", line), ("character", character)] v →
      PositionText p v

inductive FailureText (f : Failure) : List Char → Prop
  | object {ruleName failure name start stop v : List Char} {word : List (String × List Char)} :
      StringText f.ruleName ruleName → StringText f.failure failure → StringText f.name name →
      PositionText f.start start → PositionText f.stop stop → WordMember f.severityWord word →
      ObjectWith memberNames
        ([("ruleName", ruleName), ("failure", failure), ("name", name), ("startPosition", start),
          ("endPosition", stop)] ++ word) v →
      FailureText f v

/-- Whether a text lists the failures `fs`: an array with blank characters around it. -/
def IsRendering (fs : List Failure) (text : String) : Prop :=
  ∃ before v after, (∀ c ∈ before, Text.isBlank c = true) ∧ (∀ c ∈ after, Text.isBlank c = true) ∧
    text.toList = before ++ v ++ after ∧ ∃ vs, List.Forall₂ FailureText fs vs ∧ ArrayText vs v

/-! ## Printed failures -/

def Failure.toJson (f : Failure) : Json :=
  .object ([("ruleName", .string f.ruleName), ("failure", .string f.failure),
    ("name", .string f.name), ("startPosition", f.start.toJson), ("endPosition", f.stop.toJson)] ++
    f.severityWord.toList.map fun w => ("ruleSeverity", .string w))

/-- No other members are needed. -/
theorem objectWith_of_objectText {names : List String} {ms : List (String × List Char)}
    {v : List Char} (h : ObjectText ms v) : ObjectWith names ms v :=
  ⟨[], ms, fun _ hm => absurd hm List.not_mem_nil, by rw [List.append_nil], h⟩

theorem positionText_compact (p : Position) : PositionText p (compact p.toJson) := by
  have hobject := objectText_compact
    [("line", .ofWord p.line), ("character", .ofWord p.character)]
  exact .object (naturalText_toDigits _) (naturalText_toDigits _)
    (objectWith_of_objectText hobject)

theorem failureText_compact (f : Failure) : FailureText f (compact f.toJson) := by
  have hword : WordMember f.severityWord
      ((f.severityWord.toList.map fun w => ("ruleSeverity", Json.string w)).map
        fun m => (m.1, compact m.2)) := by
    cases f.severityWord with
    | none => exact .absent
    | some w => exact .word (stringText_stringText w)
  have hobject := objectText_compact
    ([("ruleName", .string f.ruleName), ("failure", .string f.failure), ("name", .string f.name),
      ("startPosition", f.start.toJson), ("endPosition", f.stop.toJson)] ++
      f.severityWord.toList.map fun w => ("ruleSeverity", .string w))
  rw [List.map_append] at hobject
  exact .object (stringText_stringText _) (stringText_stringText _) (stringText_stringText _)
    (positionText_compact _) (positionText_compact _) hword (objectWith_of_objectText hobject)

/-- Every list of failures can be written. -/
theorem isRendering_render (fs : List Failure) :
    IsRendering fs (Json.array (fs.map Failure.toJson)).render := by
  refine ⟨[], _, [], by simp, by simp, ?_, _, ?_, arrayText_compact (fs.map Failure.toJson)⟩
  · rw [render, String.toList_ofList, List.nil_append, List.append_nil]
  · rw [List.map_map, List.forall₂_map_right_iff, List.forall₂_same]
    exact fun f _ => failureText_compact f

/-! ## Reading them -/

theorem PositionText.form {p : Position} {v : List Char} (h : PositionText p v) :
    PositionForm p v := by
  cases h with
  | object hline hcharacter hobject => exact .record hline hcharacter (.object hobject)

/-- A position is read alike whatever its record is called in messages. -/
theorem PositionText.reads {p : Position} {v : List Char} (h : PositionText p v) {budget : Nat}
    (hbudget : 0 < budget) (name : String) :
    Reads { Position.record with name }.reader (budget + 1) v p :=
  h.form.reads hbudget name

theorem FailureText.form {f : Failure} {v : List Char} (h : FailureText f v) : FailureForm f v := by
  cases h with
  | object hrule hfailure hname hstart hstop hword hobject =>
      exact .record hrule hfailure hname hstart.form hstop.form hword (.object hobject)

/-! ## The whole text -/

/-- An array is never blank at its ends. -/
theorem trim_array {before v after : List Char} {vs : List (List Char)}
    (hbefore : ∀ c ∈ before, Text.isBlank c = true) (hafter : ∀ c ∈ after, Text.isBlank c = true)
    (hv : ArrayText vs v) : Text.trim (before ++ v ++ after) = v := by
  obtain ⟨inner, rfl⟩ : ∃ inner, v = '[' :: inner ++ [']'] := by
    cases hv with
    | empty => exact ⟨_, rfl⟩
    | items => exact ⟨_, rfl⟩
  have hreverse : ∀ c ∈ after.reverse, Text.isBlank c = true := fun c hc =>
    hafter c (List.mem_reverse.mp hc)
  have hfront : Text.trimFront (before ++ ('[' :: inner ++ [']']) ++ after) =
      '[' :: inner ++ [']'] ++ after := by
    rw [Text.trimFront, List.append_assoc, List.dropWhile_append_of_pos hbefore]
    rfl
  have hback : Text.trimFront ('[' :: inner ++ [']'] ++ after).reverse =
      ('[' :: inner ++ [']']).reverse := by
    rw [Text.trimFront, List.reverse_append, List.dropWhile_append_of_pos hreverse,
      List.reverse_append]
    rfl
  rw [Text.trim, hfront, hback, List.reverse_reverse]

/-- The failures that a report lists are read as they are. -/
theorem failures_rendering {fs : List Failure} {text : String} (h : IsRendering fs text) :
    failures text = .ok fs := by
  obtain ⟨before, v, after, hbefore, hafter, htext, vs, hfs, hv⟩ := h
  refine failures_of_reportText ?_
  rw [htext, trim_array hbefore hafter hv]
  exact .array (hfs.imp fun _ _ hf => hf.form) hv

/-- Where a name leads, seen from a directory if there is one, in normal form. -/
def resolution : Option Path → String → Path
  | some dir, name => (dir.join (.ofString name)).normalize
  | none, name => (Path.ofString name).normalize

theorem Failure.path_eq (f : Failure) (r : Reading) :
    f.path r = resolution r.workingDir f.name := by
  rw [f.path_eq_normalize, spelledPath]
  cases r.workingDir <;> rfl

/-- For a path in normal form the same path is the same spelling. -/
theorem filter_same (r : Reading) (fs : List Failure) {p : Path} (hp : p.normalize = p) :
    (fs.filter fun f => (f.path r).same p) =
      fs.filter fun f => resolution r.workingDir f.name = p := by
  refine List.filter_congr fun f _ => ?_
  rw [Bool.eq_iff_iff, Path.same_iff, decide_eq_true_iff, ← f.path_eq r]
  exact ⟨Path.eq_of_key_eq_of_normal f.normalize_path hp, congrArg Path.key⟩

/-- **Reading a report loses nothing, doubles nothing and keeps the order.** The paths are those to
which the names lead, and each has the diagnostics of exactly the failures that lead there. -/
theorem parse_rendering (fs : List Failure) (text : String) (h : IsRendering fs text)
    (r : Reading) :
    ∃ set, parse text r = .ok set ∧
      (∀ p, p ∈ set.paths ↔ ∃ f ∈ fs, resolution r.workingDir f.name = p) ∧
      (∀ p ∈ set.paths, set.find? p = some
        ((fs.filter fun f => resolution r.workingDir f.name = p).map fun f =>
          { message := "[" ++ f.ruleName ++ "] " ++ f.failure
            severity :=
              if r.useRuleSeverity then (f.severityWord.map Severity.ofWord).getD .warning
              else .warning
            range := ⟨f.start, f.stop⟩
            kind := none
            ruleName := some f.ruleName })) ∧
      (∀ e ∈ set.entries, e.2 ≠ []) ∧
      set.total = fs.length := by
  have hpaths : ∀ p, p ∈ (group r fs).paths ↔ ∃ f ∈ fs, resolution r.workingDir f.name = p := by
    intro p
    simp only [mem_paths_group, Failure.path_eq]
  have hlists : ∀ e ∈ (group r fs).entries,
      e.2 = (fs.filter fun f => resolution r.workingDir f.name = e.1).map fun f =>
        f.toDiagnostic r.useRuleSeverity := by
    intro e he
    have hnormal := normalize_of_mem_paths_group (List.mem_map_of_mem (f := Prod.fst) he)
    rw [← PathMap.listAt_of_mem _ he, listAt_group, diagnosticsOf, filter_same r fs hnormal]
  have hdiagnostic : ∀ f : Failure, f.toDiagnostic r.useRuleSeverity =
      { message := "[" ++ f.ruleName ++ "] " ++ f.failure
        severity :=
          if r.useRuleSeverity then (f.severityWord.map Severity.ofWord).getD .warning
          else .warning
        range := ⟨f.start, f.stop⟩
        kind := none
        ruleName := some f.ruleName } := by
    intro f
    rw [Failure.toDiagnostic, Failure.severity]
    cases f.severityWord <;> simp
  refine ⟨group r fs, ?_, hpaths, ?_, fun _ => ne_nil_of_mem_group, total_group r fs⟩
  · exact parse_of_failures (failures_rendering h)
  · intro p hp
    obtain ⟨e, he, rfl⟩ := List.mem_map.mp hp
    rw [PathMap.find?_of_mem _ he, hlists e he]
    exact congrArg some (List.map_congr_left fun f _ => hdiagnostic f)

/-- A failure at the start of `a.js`. -/
def writtenFailure : Failure := ⟨"r", "f", "a.js", ⟨0, 0⟩, ⟨0, 0⟩, some "ERROR"⟩

/-- A report of it: the members stand in the other order, after one that is not known, and the name
starts with an escape. -/
def writtenReport : String :=
  "\t[\x7b\"fix\":[null],\"ruleSeverity\":\"ERROR\"," ++
    "\"endPosition\":\x7b\"line\":0,\"character\":0\x7d," ++
    "\"startPosition\":\x7b\"line\":0,\"character\":0\x7d," ++
    "\"name\":\"\\u0061.js\",\"failure\":\"f\",\"ruleName\":\"r\"\x7d]\n"

def writtenStart : List Char := "\x7b\"line\":0,\"character\":0\x7d".toList

theorem positionText_writtenStart : PositionText ⟨0, 0⟩ writtenStart := by
  have hzero : NaturalText 0 ['0'] := ⟨⟨⟨by decide, by simp⟩, by decide⟩, by decide⟩
  have hmembers : ObjectText [("line", ['0']), ("character", ['0'])] writtenStart :=
    ⟨_, .cons (.tight (.plain (by decide)) _) (.cons (.tight (.plain (by decide)) _) .nil),
      .items (.next _ (.last _))⟩
  exact .object hzero hzero (objectWith_of_objectText hmembers)

theorem isRendering_writtenReport : IsRendering [writtenFailure] writtenReport := by
  have hname : StringText "a.js" "\"\\u0061.js\"".toList :=
    ⟨_, .cons (.unit (.digits (.lower (d := 0) (by decide)) (.lower (d := 0) (by decide))
      (.lower (d := 6) (by decide)) (.lower (d := 1) (by decide)))) (.plain (by decide)), rfl⟩
  have hfix : ValueText "[null]".toList :=
    .array (.items (.last ['n', 'u', 'l', 'l'])) (List.forall_mem_singleton.mpr .null)
  have hmembers : ObjectText [("fix", "[null]".toList), ("ruleSeverity", "\"ERROR\"".toList),
      ("endPosition", writtenStart), ("startPosition", writtenStart),
      ("name", "\"\\u0061.js\"".toList), ("failure", "\"f\"".toList),
      ("ruleName", "\"r\"".toList)] _ :=
    ⟨_, .cons (.tight (.plain (by decide)) _) (.cons (.tight (.plain (by decide)) _)
      (.cons (.tight (.plain (by decide)) _) (.cons (.tight (.plain (by decide)) _)
      (.cons (.tight (.plain (by decide)) _) (.cons (.tight (.plain (by decide)) _)
      (.cons (.tight (.plain (by decide)) _) .nil)))))),
      .items (.next _ (.next _ (.next _ (.next _ (.next _ (.next _ (.last _)))))))⟩
  have hfailure : FailureText writtenFailure _ :=
    .object (.plain (by decide)) (.plain (by decide)) hname positionText_writtenStart
      positionText_writtenStart
      (.word (.plain (by decide)))
      ⟨[("fix", _)], _, List.forall_mem_singleton.mpr ⟨by decide, hfix⟩, List.reverse_perm _,
        hmembers⟩
  exact ⟨['\t'], _, ['\n'], by simp [Text.isBlank], by simp [Text.isBlank], by decide +kernel, _,
    .cons hfailure .nil, .items (.last _)⟩

/-- The report is read, and its failure is an error in the file to which the name leads. -/
theorem parse_rendering_writtenReport :
    IsRendering [writtenFailure] writtenReport ∧
    ∃ set, parse writtenReport ⟨some (.ofString "/p/src/.."), true⟩ = .ok set ∧
      set.find? (.ofString "/p/a.js") =
        some [⟨"[r] f", .error, ⟨⟨0, 0⟩, ⟨0, 0⟩⟩, none, some "r"⟩] := by
  obtain ⟨set, hset, hpaths, hlists, -, -⟩ :=
    parse_rendering _ _ isRendering_writtenReport ⟨some (.ofString "/p/src/.."), true⟩
  have hleads : resolution (some (.ofString "/p/src/..")) "a.js" = .ofString "/p/a.js" := by decide
  refine ⟨isRendering_writtenReport, set, hset, ?_⟩
  rw [hlists _ ((hpaths _).mpr ⟨writtenFailure, by simp, hleads⟩)]
  decide

end LintRelay.Report
