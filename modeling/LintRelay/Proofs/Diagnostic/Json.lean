import LintRelay.Diagnostic.Json
import LintRelay.Proofs.Report.Rendering

/-!
# Reading back diagnostics

`DiagnosticText d v` says that `v` spells a diagnostic as an object, with its members in any order
and others among them. Such a text is read as the diagnostic without the name of its rule, which has
no member (`DiagnosticText.reads`).
-/

namespace LintRelay

open Json Json.Record Report

inductive RangeText (r : Range) : List Char → Prop
  | object {start stop v : List Char} :
      PositionText r.start start → PositionText r.stop stop →
      ObjectWith ["start", "end"] [("start", start), ("end", stop)] v → RangeText r v

/-- A tag, or null. -/
inductive KindText : Option String → List Char → Prop
  | null : KindText none ['n', 'u', 'l', 'l']
  | tag {s : String} {t : List Char} : StringText s t → KindText (some s) t

inductive DiagnosticText (d : Diagnostic) : List Char → Prop
  | object {message severity range kind v : List Char} :
      StringText d.message message → NaturalText d.severity.code.toNat severity →
      RangeText d.range range → KindText d.kind kind →
      ObjectWith ["message", "severity", "range", "type"]
        [("message", message), ("severity", severity), ("range", range), ("type", kind)] v →
      DiagnosticText d v

/-- The diagnostic without the name of its rule. -/
def Diagnostic.unruled (d : Diagnostic) : Diagnostic := { d with ruleName := none }

theorem reads_byte {n : UInt8} {v : List Char} (h : NaturalText n.toNat v) (budget : Nat) :
    Reads readByte budget v n := by
  have hn : n.toNat ≤ 0xFF := Nat.le_of_lt_succ n.toNat_lt
  have hnat : Reads (.natural "u8" 0xFF) budget v n.toNat := h.reads hn (by decide) budget
  have hreads := hnat.map UInt8.ofNat
  rwa [UInt8.ofNat_toNat] at hreads

theorem RangeText.reads {r : Range} {v : List Char} (h : RangeText r v) {budget : Nat}
    (hbudget : 0 < budget) : Reads Range.record.reader (budget + 2) v r := by
  cases h with
  | @object start stop _ hstart hstop hobject =>
      have hgives : List.Forall₂ (Range.record.Gives (budget + 1))
          [("start", start), ("end", stop)] _ :=
        .cons (.of rfl (hstart.reads hbudget _)) (.cons (.of rfl (hstop.reads hbudget _)) .nil)
      refine reads_object hobject hgives ?_ ?_ ?_ rfl (Nat.succ_pos _)
      · show ["start", "end"].Nodup
        decide
      · simp [Update.Commutes]
      · show ∀ f ∈ Range.record.fields, f.optional = false → f.name ∈ ["start", "end"]
        decide

theorem KindText.reads {kind : Option String} {v : List Char} (h : KindText kind v)
    (budget : Nat) : Reads (.nullable .string) budget v kind := by
  cases h with
  | null => exact reads_null .string budget
  | tag hs =>
      refine (hs.reads budget).nullable ?_
      obtain ⟨body, -, rfl⟩ := hs
      simp

theorem DiagnosticText.reads {d : Diagnostic} {v : List Char} (h : DiagnosticText d v)
    {budget : Nat} (hbudget : 0 < budget) :
    Reads Diagnostic.record.reader (budget + 3) v d.unruled := by
  cases h with
  | @object message severity range kind _ hmessage hseverity hrange hkind hobject =>
      have hgives : List.Forall₂ (Diagnostic.record.Gives (budget + 2))
          [("message", message), ("severity", severity), ("range", range), ("type", kind)] _ :=
        .cons (.of rfl (hmessage.reads _)) (.cons (.of rfl (reads_byte hseverity _))
          (.cons (.of rfl (hrange.reads hbudget)) (.cons (.of rfl (hkind.reads _)) .nil)))
      refine reads_object hobject hgives ?_ ?_ ?_ ?_ (Nat.succ_pos _)
      · show ["message", "severity", "range", "type"].Nodup
        decide
      · simp [Update.Commutes]
      · show ∀ f ∈ Diagnostic.record.fields, f.optional = false →
          f.name ∈ ["message", "severity", "range", "type"]
        decide
      · -- A severity is found again from its code.
        show Diagnostic.mk d.message (.ofCode d.severity.code) d.range d.kind none = d.unruled
        rw [Severity.ofCode_code]
        rfl

end LintRelay
