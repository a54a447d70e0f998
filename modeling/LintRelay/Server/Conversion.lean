import LintRelay.Diagnostic.Json

/-!
# Diagnostics for the editor

The editor's diagnostics have a code, which is the rule, and the name of their source.
-/

namespace LintRelay.Server

/-- A diagnostic as the editor takes it. A member that has nothing to say is left out. -/
def diagnosticJson (sourceId : String) (d : Diagnostic) : Json :=
  Json.ofMembers ([
    ("range", d.range.toJson),
    ("severity", .ofNat d.severity.code.toNat),
    ("source", .string sourceId),
    ("message", .string d.message)] ++
    match d.ruleName with
    | some rule => [("code", .string rule)]
    | none => [])

end LintRelay.Server
