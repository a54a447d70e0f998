import LintRelay.Diagnostic.Basic
import LintRelay.Json.Printer
import LintRelay.Json.Reader

/-!
# Diagnostics as JSON

A diagnostic is written with the members `message`, `severity` (its code), `range` and `type`, in
this order. The name of the rule is not written. Reading takes the members in any order, leaves out
unknown ones, and lets `severity` and `type` be absent.
-/

namespace LintRelay

/-- The readers of the machine's word sizes. -/
def readByte : Json.Reader UInt8 :=
  (Json.Reader.natural "u8" 0xFF).map UInt8.ofNat

@[inherit_doc readByte]
def readWord : Json.Reader UInt32 :=
  (Json.Reader.natural "u32" 0xFFFFFFFF).map UInt32.ofNat

/-- A natural number as a value. -/
def Json.ofWord (n : UInt32) : Json := .ofNat n.toNat

namespace Position

/-- The fields of a position. -/
def record : Json.Record Position where
  name := "Position"
  blank := ⟨0, 0⟩
  fields := [
    .of "line" false readWord fun n p => { p with line := n },
    .of "character" false readWord fun n p => { p with character := n }]

/-- The position as a value. -/
def toJson (p : Position) : Json :=
  .object [("line", .ofWord p.line), ("character", .ofWord p.character)]

end Position

namespace Range

/-- The fields of a range. -/
def record : Json.Record Range where
  name := "Range"
  blank := ⟨⟨0, 0⟩, ⟨0, 0⟩⟩
  fields := [
    .of "start" false Position.record.reader fun p r => { r with start := p },
    .of "end" false Position.record.reader fun p r => { r with stop := p }]

/-- The range as a value. -/
def toJson (r : Range) : Json := .object [("start", r.start.toJson), ("end", r.stop.toJson)]

end Range

namespace Diagnostic

/-- The fields of a diagnostic. -/
def record : Json.Record Diagnostic where
  name := "Diagnostic"
  blank := ⟨"", .warning, Range.record.blank, none, none⟩
  fields := [
    .of "message" false .string fun s d => { d with message := s },
    .of "severity" true readByte fun n d => { d with severity := .ofCode n },
    .of "range" false Range.record.reader fun r d => { d with range := r },
    .of "type" true (.nullable .string) fun k d => { d with kind := k }]

/-- The diagnostic as a value. -/
def toJson (d : Diagnostic) : Json :=
  .object [
    ("message", .string d.message),
    ("severity", .ofNat d.severity.code.toNat),
    ("range", d.range.toJson),
    ("type", .ofString? d.kind)]

/-- The text of a diagnostic. -/
def encode (d : Diagnostic) : String := d.toJson.render

/-- Reads the text of a diagnostic. -/
def decode (text : String) : Except Json.ReadError Diagnostic :=
  record.reader.read text.toList

end Diagnostic
end LintRelay
