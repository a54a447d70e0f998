/-!
# Diagnostics

A diagnostic is one problem that the linter reports: a message, a severity and a range in a file.
Severities are spelled as words by the linter and as codes towards the editor; both readings are
total and fall back to a warning.
-/

namespace LintRelay

/-- How grave a diagnostic is. -/
inductive Severity where
  | error
  | warning
  | information
  deriving Repr, DecidableEq, Inhabited

namespace Severity

/-- The severity that the linter's word for a rule means, whatever the case of its ASCII letters. -/
def ofWord (word : String) : Severity :=
  let w := String.ofList (word.toList.map Char.toLower)
  if w == "error" then .error
  else if ["off", "none", "info", "information"].contains w then .information
  else .warning

def code : Severity → UInt8
  | .error => 1
  | .warning => 2
  | .information => 3

/-- The severity of a code. The code 4, a hint, counts as information. -/
def ofCode (code : UInt8) : Severity :=
  if code == 1 then .error
  else if code == 3 || code == 4 then .information
  else .warning

@[simp] theorem ofCode_code (s : Severity) : ofCode s.code = s := by cases s <;> rfl

end Severity

/-- A place in a text, counted from zero. -/
structure Position where
  line : UInt32
  character : UInt32
  deriving Repr, DecidableEq, Inhabited

/-- A stretch of a text. -/
structure Range where
  start : Position
  stop : Position
  deriving Repr, DecidableEq, Inhabited

/-- One reported problem. -/
structure Diagnostic where
  /-- The message, with the rule's name in brackets in front. -/
  message : String
  severity : Severity
  range : Range
  /-- A reserved tag, absent from what the linter reports. -/
  kind : Option String
  ruleName : Option String
  deriving Repr, DecidableEq, Inhabited

end LintRelay
