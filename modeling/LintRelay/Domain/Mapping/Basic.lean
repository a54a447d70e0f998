import LintRelay.Text.CharClass
import LintRelay.Text.Canonical.Basic
import LintRelay.Domain.Mapping.Table

/-!
# Folding domain names

Domain names that differ in case, width or the like are one name. `fold?` gives the spelling that all
of them share: each character is replaced by what it stands for or left out, and what is left is put
in its canonical composition. Some characters stand in no domain at all.
-/

namespace LintRelay.Domain

/-- Characters `first`, `first + step`, … that stand for `target`, `target + targetStep`, … -/
structure Run where
  first : Nat
  count : Nat
  step : Nat
  target : Nat
  targetStep : Nat
  deriving Repr, DecidableEq

/-- What a character of the run stands for. -/
def Run.target? (r : Run) (n : Nat) : Option Nat :=
  let i := (n - r.first) / r.step
  if r.first ≤ n && i < r.count && (n - r.first) % r.step == 0 then
    some (r.target + i * r.targetStep)
  else none

/-- The characters that stand for one other. -/
def runs : List Run := (Text.rows runRows).filterMap fun row =>
  match row with
  | [first, count, step, target, targetStep] => some ⟨first, count, step, target, targetStep⟩
  | _ => none

/-- The characters that stand for several. -/
def sequences : List (List Nat) := Text.rows sequenceRows

/-- What a character stands for. `none` when no domain has it. -/
def standsFor? (c : Char) : Option (List Char) :=
  if c.toNat < 0x80 then some [c.toLower]
  else if Text.inClass refusedSwitches c then none
  else if Text.inClass ignoredSwitches c then some []
  else
    let one := (runs.findSome? (·.target? c.toNat)).map ([·])
    let several := (sequences.find? (·.head? == some c.toNat)).map List.tail
    some (((one.or several).getD [c.toNat]).map Char.ofNat)

/-- The shared spelling of a domain name. -/
def fold? (cs : List Char) : Option (List Char) :=
  (cs.mapM standsFor?).map fun parts => Text.Canonical.compose parts.flatten

end LintRelay.Domain
