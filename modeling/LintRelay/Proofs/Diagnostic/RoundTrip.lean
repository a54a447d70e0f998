import LintRelay.Proofs.Diagnostic.Json
import LintRelay.Proofs.Json.Records

/-!
# Diagnostics written and read

`DiagnosticForm d v` says that `v` is one of the forms of a diagnostic: an object with its members in
any order and others among them, or the list of its values. The severity is any code, of which most
mean a warning, and a severity or tag that is not given is a warning or none. The texts that are
read are these with blanks around them, and nothing else (`decode_eq_ok_iff`).

A diagnostic is written in one of the forms (`diagnosticForm_compact`), so it is read again without
the name of its rule, which is not written. What was read has no such name (`ruleName_of_form`), and
so it is read again as it is (`encoding_survives`).
-/

namespace LintRelay

open Json Json.Record Report

/-! ## Forms -/

/-- What the fields of a range look like. -/
def rangeShapes : List (Shape Range) := [
  .of "start" false PositionForm fun p r => { r with start := p },
  .of "end" false PositionForm fun p r => { r with stop := p }]

def RangeForm (r : Range) (v : List Char) : Prop :=
  ∃ known, Filled rangeShapes known Range.record.blank r ∧ RecordText ["start", "end"] known v

/-- What the fields of a diagnostic look like. -/
def diagnosticShapes : List (Shape Diagnostic) := [
  .of "message" false StringText fun s d => { d with message := s },
  .of "severity" true (fun n v => NaturalText (UInt8.toNat n) v)
    fun n d => { d with severity := .ofCode n },
  .of "range" false RangeForm fun r d => { d with range := r },
  .of "type" true (OrNull StringText) fun k d => { d with kind := k }]

def diagnosticNames : List String := ["message", "severity", "range", "type"]

def DiagnosticForm (d : Diagnostic) (v : List Char) : Prop :=
  ∃ known, Filled diagnosticShapes known Diagnostic.record.blank d ∧
    RecordText diagnosticNames known v

theorem takes_byte : Takes readByte fun n v => NaturalText (UInt8.toNat n) v := by
  refine ((takes_natural "u8" 0xFF).map UInt8.ofNat).imp ?_
  rintro _ v ⟨n, rfl, hn, hle⟩
  rwa [UInt8.toNat_ofNat_of_lt' (Nat.lt_of_le_of_lt hle (by decide))]

theorem reads_tag {kind : Option String} {v : List Char} (h : OrNull StringText kind v)
    (budget : Nat) : Reads (.nullable .string) budget v kind := by
  cases h with
  | null => exact reads_null .string budget
  | value hs =>
      refine (hs.reads budget).nullable ?_
      obtain ⟨body, -, rfl⟩ := hs
      simp

theorem exact_range {budget : Nat} (hbudget : 0 < budget) :
    List.Forall₂ (Exact (budget + 1)) Range.record.fields rangeShapes :=
  have hreads : ∀ p v, PositionForm p v → Reads Position.record.reader (budget + 1) v p :=
    fun _ _ hp => hp.reads hbudget _
  .cons (.of _ _ (takes_position _) hreads _) (.cons (.of _ _ (takes_position _) hreads _) .nil)

theorem commute_rangeShapes : rangeShapes.Pairwise Shape.Commutes := by
  simp only [rangeShapes, List.pairwise_pair]
  exact Shape.commutes_of fun _ _ _ => rfl

theorem takes_range : Takes Range.record.reader RangeForm :=
  takes_record ((exact_range Nat.one_pos).imp fun _ _ h => h.toFits) (by decide)
    commute_rangeShapes

theorem RangeForm.reads {r : Range} {v : List Char} (h : RangeForm r v) {budget : Nat}
    (hbudget : 0 < budget) : Reads Range.record.reader (budget + 2) v r := by
  obtain ⟨known, hfilled, htext⟩ := h
  exact reads_filled (exact_range hbudget) (by decide) commute_rangeShapes hfilled htext
    (Nat.succ_pos _)

theorem exact_diagnostic {budget : Nat} (hbudget : 0 < budget) :
    List.Forall₂ (Exact (budget + 2)) Diagnostic.record.fields diagnosticShapes :=
  .cons (.of _ _ takes_string (fun _ _ hs => hs.reads _) _)
    (.cons (.of _ _ takes_byte (fun _ _ hn => reads_byte hn _) _)
      (.cons (.of _ _ takes_range (fun _ _ hr => hr.reads hbudget) _)
        (.cons (.of _ _ takes_string.nullable (fun _ _ hk => reads_tag hk _) _) .nil)))

theorem commute_diagnosticShapes : diagnosticShapes.Pairwise Shape.Commutes := by
  simp only [diagnosticShapes, List.pairwise_cons, List.forall_mem_cons]
  and_intros
  all_goals first
    | exact Shape.commutes_of fun _ _ _ => rfl
    | simp

theorem takes_diagnostic : Takes Diagnostic.record.reader DiagnosticForm :=
  takes_record ((exact_diagnostic Nat.one_pos).imp fun _ _ h => h.toFits) (by decide)
    commute_diagnosticShapes

theorem DiagnosticForm.reads {d : Diagnostic} {v : List Char} (h : DiagnosticForm d v)
    {budget : Nat} (hbudget : 0 < budget) : Reads Diagnostic.record.reader (budget + 3) v d := by
  obtain ⟨known, hfilled, htext⟩ := h
  exact reads_filled (exact_diagnostic hbudget) (by decide) commute_diagnosticShapes hfilled htext
    (Nat.succ_pos _)

/-- No form gives the name of a rule. -/
theorem ruleName_of_form {d : Diagnostic} {v : List Char} (h : DiagnosticForm d v) :
    d.ruleName = none := by
  obtain ⟨known, hfilled, -⟩ := h
  refine hfilled.keeps (P := fun d => d.ruleName = none) ?_ rfl
  simp only [diagnosticShapes, List.forall_mem_cons, Shape.of]
  and_intros
  all_goals first
    | rintro _ _ ⟨_, rfl, -⟩ _ hd; exact hd
    | simp

/-! ## What is written -/

theorem rangeForm_compact (r : Range) : RangeForm r (compact r.toJson) := by
  have hobject := objectText_compact [("start", r.start.toJson), ("end", r.stop.toJson)]
  exact ⟨_, .given ⟨_, rfl, (positionText_compact _).form⟩
    (.given ⟨_, rfl, (positionText_compact _).form⟩ (.nil _)),
    .object (objectWith_of_objectText hobject)⟩

theorem tag_compact (kind : Option String) : OrNull StringText kind (compact (.ofString? kind)) := by
  cases kind with
  | none => exact .null
  | some s => exact .value (stringText_stringText s)

/-- A diagnostic is written in one of the forms that it has without the name of its rule. -/
theorem diagnosticForm_compact (d : Diagnostic) : DiagnosticForm d.unruled (compact d.toJson) := by
  have hobject := objectText_compact
    [("message", .string d.message), ("severity", .ofNat d.severity.code.toNat),
      ("range", d.range.toJson), ("type", .ofString? d.kind)]
  have hfilled : Filled diagnosticShapes _ Diagnostic.record.blank _ :=
    .given ⟨_, rfl, stringText_stringText d.message⟩
      (.given ⟨_, rfl, naturalText_toDigits d.severity.code.toNat⟩
        (.given ⟨_, rfl, rangeForm_compact d.range⟩ (.given ⟨_, rfl, tag_compact d.kind⟩ (.nil _))))
  refine ⟨_, ?_, .object (objectWith_of_objectText hobject)⟩
  -- a severity is found again from its code
  dsimp only at hfilled
  rw [Severity.ofCode_code] at hfilled
  exact hfilled

namespace Diagnostic

/-- The texts that are read as a diagnostic are its forms with blanks around them. -/
theorem decode_eq_ok_iff {text : String} {d : Diagnostic} :
    decode text = .ok d ↔
      ∃ g v g', Gap g ∧ Gap g' ∧ text.toList = g ++ v ++ g' ∧ DiagnosticForm d v :=
  read_eq_ok_iff takes_diagnostic fun _ _ h => h.reads (by decide)

theorem decode_encode (d : Diagnostic) : decode d.encode = .ok d.unruled := by
  refine decode_eq_ok_iff.mpr ⟨[], _, [], .nil, .nil, ?_, diagnosticForm_compact d⟩
  rw [encode, render, String.toList_ofList, List.nil_append, List.append_nil]

/-- **A diagnostic survives its encoding.** What is written of a diagnostic is read as the diagnostic
without the name of its rule. The texts that are read as a diagnostic are its forms with blanks
around them, whatever code their severity has and whether they give a severity and a tag or not; and
what was read from any of them is written and read again without a change. -/
theorem encoding_survives :
    (∀ d : Diagnostic, decode d.encode = .ok d.unruled) ∧
    (∀ text d, decode text = .ok d ↔
      ∃ g v g', Gap g ∧ Gap g' ∧ text.toList = g ++ v ++ g' ∧ DiagnosticForm d v) ∧
    ∀ text d, decode text = .ok d → decode d.encode = .ok d := by
  refine ⟨decode_encode, fun _ _ => decode_eq_ok_iff, fun text d h => ?_⟩
  obtain ⟨_, _, _, -, -, -, hform⟩ := decode_eq_ok_iff.mp h
  have hunruled : d.unruled = d := by
    unfold unruled
    rw [← ruleName_of_form hform]
  rw [decode_encode, hunruled]

/-- A hint that is written with other members, out of order, and with a position as a list. -/
def writtenHint : String :=
  " \x7b\"x\":[\x7b\x7d],\"type\":\"\\u0041\"," ++
    "\"range\":\x7b\"end\":[2,3],\"start\":\x7b\"character\":1,\"line\":0\x7d\x7d," ++
    "\"severity\":4,\"message\":\"m\"\x7d"

/-- It is read as an information and stays one. -/
theorem encoding_survives_writtenHint :
    decode writtenHint = .ok ⟨"m", .information, ⟨⟨0, 1⟩, ⟨2, 3⟩⟩, some "A", none⟩ ∧
    decode (Diagnostic.encode ⟨"m", .information, ⟨⟨0, 1⟩, ⟨2, 3⟩⟩, some "A", none⟩) =
      .ok ⟨"m", .information, ⟨⟨0, 1⟩, ⟨2, 3⟩⟩, some "A", none⟩ := by
  have hread : decode writtenHint =
      .ok ⟨"m", .information, ⟨⟨0, 1⟩, ⟨2, 3⟩⟩, some "A", none⟩ := by rfl
  exact ⟨hread, encoding_survives.2.2 _ _ hread⟩

end Diagnostic
end LintRelay
