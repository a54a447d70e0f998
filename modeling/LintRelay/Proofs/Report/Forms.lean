import LintRelay.Proofs.Json.Taking
import LintRelay.Report

/-!
# The forms of failures

A failure and its positions are records, and each may be written as an object or as the list of its
values. `FailureForm f v` says that `v` is one of the forms of the failure `f`. The reader of
failures takes exactly these texts: all of them (`FailureForm.reads`) and no others
(`takes_failure`).
-/

namespace LintRelay.Report

open Json Json.Record

/-- The member for the linter's word. Where there is no word it is left out or null. -/
inductive WordMember : Option String → List (String × List Char) → Prop
  | absent : WordMember none []
  | null : WordMember none [("ruleSeverity", ['n', 'u', 'l', 'l'])]
  | word {w : String} {t : List Char} :
      StringText w t → WordMember (some w) [("ruleSeverity", t)]

def memberNames : List String :=
  ["ruleName", "failure", "name", "startPosition", "endPosition", "ruleSeverity"]

inductive PositionForm (p : Position) : List Char → Prop
  | record {line character v : List Char} :
      NaturalText p.line.toNat line → NaturalText p.character.toNat character →
      RecordText ["line", "character"] [("line", line), ("character", character)] v →
      PositionForm p v

inductive FailureForm (f : Failure) : List Char → Prop
  | record {ruleName failure name start stop v : List Char} {word : List (String × List Char)} :
      StringText f.ruleName ruleName → StringText f.failure failure → StringText f.name name →
      PositionForm f.start start → PositionForm f.stop stop → WordMember f.severityWord word →
      RecordText memberNames
        ([("ruleName", ruleName), ("failure", failure), ("name", name), ("startPosition", start),
          ("endPosition", stop)] ++ word) v →
      FailureForm f v

/-- A report of failures without the blank characters around it: nothing, or an array of them. -/
inductive ReportText : List Failure → List Char → Prop
  | empty : ReportText [] []
  | array {fs : List Failure} {vs : List (List Char)} {cs : List Char} :
      List.Forall₂ FailureForm fs vs → ArrayText vs cs → ReportText fs cs

/-! ## Every form is read -/

theorem reads_word {n : UInt32} {v : List Char} (h : NaturalText n.toNat v) (budget : Nat) :
    Reads readWord budget v n := by
  have hn : n.toNat ≤ 0xFFFFFFFF := Nat.le_of_lt_succ n.toNat_lt
  have hnat : Reads (.natural "u32" 0xFFFFFFFF) budget v n.toNat := h.reads hn (by decide) budget
  have hreads := hnat.map UInt32.ofNat
  rwa [UInt32.ofNat_toNat] at hreads

/-- A position is read alike whatever its record is called in messages. -/
theorem PositionForm.reads {p : Position} {v : List Char} (h : PositionForm p v) {budget : Nat}
    (hbudget : 0 < budget) (name : String) :
    Reads { Position.record with name }.reader (budget + 1) v p := by
  cases h with
  | @record line character _ hline hcharacter hrecord =>
      have hgives : List.Forall₂ (Gives { Position.record with name } budget)
          [("line", line), ("character", character)] _ :=
        .cons (.of rfl (reads_word hline budget))
          (.cons (.of rfl (reads_word hcharacter budget)) .nil)
      refine reads_record hrecord hgives ?_ ?_ ?_ ?_ rfl hbudget
      · show ["line", "character"].Nodup
        decide
      · show ["line", "character"].Nodup
        decide
      · simp [Update.Commutes]
      · show ∀ f ∈ Position.record.fields, f.optional = false → f.name ∈ ["line", "character"]
        decide

/-- The word of a failure is read from the member that is there. -/
theorem WordMember.cases {word : Option String} {ms : List (String × List Char)}
    (h : WordMember word ms) (budget : Nat) :
    (word = none ∧ ms = []) ∨
      ∃ t, ms = [("ruleSeverity", t)] ∧ Reads (.nullable .string) budget t word := by
  cases h with
  | absent => exact .inl ⟨rfl, rfl⟩
  | null => exact .inr ⟨_, rfl, reads_null .string budget⟩
  | word hw =>
      refine .inr ⟨_, rfl, (hw.reads budget).nullable ?_⟩
      obtain ⟨body, -, rfl⟩ := hw
      simp

theorem FailureForm.reads {f : Failure} {v : List Char} (h : FailureForm f v) {budget : Nat}
    (hbudget : 0 < budget) : Reads failureRecord.reader (budget + 2) v f := by
  cases h with
  | @record rule failure name start stop _ word hrule hfailure hname hstart hstop hword hrecord =>
      have hdistinct : (failureRecord.fields.map (·.name)).Nodup := by
        show memberNames.Nodup
        decide
      have hgives : List.Forall₂ (failureRecord.Gives (budget + 1))
          [("ruleName", rule), ("failure", failure), ("name", name), ("startPosition", start),
            ("endPosition", stop)] _ :=
        .cons (.of rfl (hrule.reads _)) (.cons (.of rfl (hfailure.reads _))
          (.cons (.of rfl (hname.reads _)) (.cons (.of rfl (hstart.reads hbudget _))
            (.cons (.of rfl (hstop.reads hbudget _)) .nil))))
      rcases hword.cases (budget + 1) with ⟨hnone, rfl⟩ | ⟨t, rfl, hreads⟩
      · rw [List.append_nil] at hrecord
        refine reads_record hrecord hgives hdistinct ?_ ?_ ?_ ?_ (Nat.succ_pos _)
        · show ["ruleName", "failure", "name", "startPosition", "endPosition"].Nodup
          decide
        · simp [Update.Commutes]
        · show ∀ f ∈ failureRecord.fields, f.optional = false →
            f.name ∈ ["ruleName", "failure", "name", "startPosition", "endPosition"]
          decide
        · show Failure.mk f.ruleName f.failure f.name f.start f.stop none = f
          rw [← hnone]
      · have hlast : List.Forall₂ (failureRecord.Gives (budget + 1)) [("ruleSeverity", t)] _ :=
          .cons (.of rfl hreads) .nil
        refine reads_record hrecord (List.rel_append hgives hlast) hdistinct hdistinct ?_ ?_ rfl
          (Nat.succ_pos _)
        · simp [Update.Commutes]
        · show ∀ f ∈ failureRecord.fields, f.optional = false → f.name ∈ memberNames
          decide

theorem failures_of_reportText {fs : List Failure} {text : String}
    (h : ReportText fs (Text.trim text.toList)) : failures text = .ok fs := by
  generalize htrim : Text.trim text.toList = cs at h
  cases h with
  | empty => rw [failures, htrim]
  | @array fs vs _ hfs hv =>
      have hall : List.Forall₂ (Reads failureRecord.reader 127) vs fs :=
        hfs.flip.imp fun _ _ hf => hf.reads (by decide)
      have hreads : Reads (.list failureRecord.reader) nestingBudget cs fs :=
        reads_list hv hall (by decide)
      have hread := hreads.here Ends.nil
      rw [List.append_nil] at hread
      obtain ⟨c, cs, rfl, -⟩ := hreads.begins
      rw [failures, htrim]
      simp only [Reader.read, hread, bind, Except.bind]
      rfl

/-! ## Nothing else is taken -/

theorem takes_word : Takes readWord fun n v => NaturalText n.toNat v := by
  refine ((takes_natural "u32" 0xFFFFFFFF).map UInt32.ofNat).imp ?_
  rintro _ v ⟨n, rfl, hn, hle⟩
  rwa [UInt32.toNat_ofNat_of_lt' (Nat.lt_of_le_of_lt hle (by decide))]

/-- What the fields of a position look like. -/
def positionShapes : List (Shape Position) := [
  .of "line" false (fun n v => NaturalText (UInt32.toNat n) v) fun n p => { p with line := n },
  .of "character" false (fun n v => NaturalText (UInt32.toNat n) v)
    fun n p => { p with character := n }]

theorem takes_position (name : String) :
    Takes { Position.record with name }.reader PositionForm := by
  have hfits : List.Forall₂ Fits Position.record.fields positionShapes :=
    .cons (.of _ _ takes_word _) (.cons (.of _ _ takes_word _) .nil)
  have hcommute : positionShapes.Pairwise Shape.Commutes := by
    simp only [positionShapes, List.pairwise_pair]
    exact Shape.commutes_of fun _ _ _ => rfl
  have htakes := takes_record (r := { Position.record with name }) hfits (by decide) hcommute
  refine htakes.imp ?_
  rintro p v ⟨known, hfilled, hrecord⟩
  obtain ⟨line, _, _, hline, rfl, hrest⟩ := hfilled.of_required
  obtain ⟨character, _, _, hcharacter, rfl, hend⟩ := hrest.of_required
  obtain ⟨rfl, rfl⟩ := hend.of_nil
  exact .record hline hcharacter hrecord

/-- What the fields of a failure look like. -/
def failureShapes : List (Shape Failure) := [
  .of "ruleName" false StringText fun s f => { f with ruleName := s },
  .of "failure" false StringText fun s f => { f with failure := s },
  .of "name" false StringText fun s f => { f with name := s },
  .of "startPosition" false PositionForm fun p f => { f with start := p },
  .of "endPosition" false PositionForm fun p f => { f with stop := p },
  .of "ruleSeverity" true (OrNull StringText) fun s f => { f with severityWord := s }]

theorem wordMember_of_orNull {word : Option String} {v : List Char}
    (h : OrNull StringText word v) : WordMember word [("ruleSeverity", v)] := by
  cases h with
  | null => exact .null
  | value hw => exact .word hw

theorem takes_failure : Takes failureRecord.reader FailureForm := by
  have hfits : List.Forall₂ Fits failureRecord.fields failureShapes :=
    .cons (.of _ _ takes_string _) (.cons (.of _ _ takes_string _) (.cons (.of _ _ takes_string _)
      (.cons (.of _ _ (takes_position _) _) (.cons (.of _ _ (takes_position _) _)
        (.cons (.of _ _ takes_string.nullable _) .nil)))))
  have hcommute : failureShapes.Pairwise Shape.Commutes := by
    simp only [failureShapes, List.pairwise_cons, List.forall_mem_cons]
    and_intros
    all_goals first
      | exact Shape.commutes_of fun _ _ _ => rfl
      | simp
  refine (takes_record hfits (by decide) hcommute).imp ?_
  rintro f v ⟨known, hfilled, hrecord⟩
  obtain ⟨rule, _, _, hrule, rfl, hbehindRule⟩ := hfilled.of_required
  obtain ⟨failure, _, _, hfailure, rfl, hbehindFailure⟩ := hbehindRule.of_required
  obtain ⟨name, _, _, hname, rfl, hbehindName⟩ := hbehindFailure.of_required
  obtain ⟨start, _, _, hstart, rfl, hbehindStart⟩ := hbehindName.of_required
  obtain ⟨stop, _, _, hstop, rfl, hbehindStop⟩ := hbehindStart.of_required
  rcases hbehindStop.of_optional with ⟨word, _, _, hword, rfl, hend⟩ | hend
  · obtain ⟨rfl, rfl⟩ := hend.of_nil
    exact .record hrule hfailure hname hstart hstop (wordMember_of_orNull hword) hrecord
  · obtain ⟨rfl, rfl⟩ := hend.of_nil
    exact .record hrule hfailure hname hstart hstop .absent hrecord

end LintRelay.Report
