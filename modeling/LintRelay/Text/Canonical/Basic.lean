import LintRelay.Text.Table
import LintRelay.Text.Canonical.Table

/-!
# The canonical composition of text

Accented letters and syllables can be spelled as one character or as several. The canonical
composition of a text takes every character apart, puts the marks behind each letter into the order
of their combining classes, and puts together again what belongs together. Two spellings of one text
have the same composition.

Characters are their code points here, since the tables are.
-/

namespace LintRelay.Text.Canonical

/-- The characters that are composed of two others. -/
def pairs : List (List Nat) := rows pairRows

/-- The characters that are taken apart and never put together again. -/
def oneWay : List (List Nat) := rows oneWayRows

/-- The combining classes that are not zero, by runs of characters. -/
def classes : List (List Nat) := rows classRows

/-- The combining class of a character. Class zero begins a new group. -/
def combiningClass (n : Nat) : Nat :=
  let found := classes.findSome? fun run =>
    match run with
    | [first, last, k] => if first ≤ n && n ≤ last then some k else none
    | _ => none
  found.getD 0

/-! ## Korean syllables -/

/-- The leading consonant, the vowel and the final consonant, if there is one, of a syllable. -/
def syllableParts? (n : Nat) : Option (List Nat) :=
  if 0xAC00 ≤ n && n < 0xAC00 + 11172 then
    let s := n - 0xAC00
    let front := [0x1100 + s / 588, 0x1161 + s % 588 / 28]
    some (if s % 28 == 0 then front else front ++ [0x11A7 + s % 28])
  else none

/-- The syllable of a leading consonant and a vowel, or of an open syllable and a consonant. -/
def syllable? (a b : Nat) : Option Nat :=
  if 0x1100 ≤ a && a < 0x1113 && 0x1161 ≤ b && b < 0x1176 then
    some (0xAC00 + (a - 0x1100) * 588 + (b - 0x1161) * 28)
  else if 0xAC00 ≤ a && a < 0xAC00 + 11172 && (a - 0xAC00) % 28 == 0 && 0x11A7 < b && b < 0x11C3 then
    some (a + (b - 0x11A7))
  else none

/-! ## Taking apart -/

/-- The parts of a character in one step. -/
def parts? (n : Nat) : Option (List Nat) :=
  let row := (pairs.find? (·.head? == some n)).or (oneWay.find? (·.head? == some n))
  (syllableParts? n).or (row.map List.tail)

/-- Takes a character apart, up to `depth` times. -/
def takeApart : Nat → Nat → List Nat
  | 0, n => [n]
  | depth + 1, n =>
    match parts? n with
    | some ps => ps.flatMap (takeApart depth)
    | none => [n]

/-- Characters taken apart completely: no decomposition nests deeper than this. -/
def decompose (ns : List Nat) : List Nat :=
  ns.flatMap fun n => if n < 0xC0 then [n] else takeApart 8 n

/-- Marks in the order of their classes; those of one class stay in their order. -/
def ordered (marks : List Nat) : List Nat :=
  marks.mergeSort fun a b => combiningClass a ≤ combiningClass b

/-- Puts the marks of each group in order. `marks` holds those of the group being read. -/
def order (marks : List Nat) : List Nat → List Nat
  | [] => ordered marks
  | n :: ns =>
    if combiningClass n == 0 then ordered marks ++ n :: order [] ns else order (marks ++ [n]) ns

/-! ## Putting together -/

/-- The character that two others make up. -/
def join? (a b : Nat) : Option Nat :=
  (syllable? a b).or ((pairs.find? (·.tail == [a, b])).bind List.head?)

/-- Puts together what belongs to `starter`. `marks` holds the marks behind it that stay apart, last
one first. A mark that stays hides what follows it, unless that has a higher class. -/
def joinBehind (starter : Nat) (marks : List Nat) : List Nat → List Nat
  | [] => starter :: marks.reverse
  | n :: ns =>
    let k := combiningClass n
    let hidden := marks.head?.any fun m => k ≤ combiningClass m
    match if hidden then none else join? starter n with
    | some joined => joinBehind joined marks ns
    | none =>
      if k == 0 then starter :: (marks.reverse ++ joinBehind n [] ns)
      else joinBehind starter (n :: marks) ns

/-- Puts together what belongs together, behind marks that stand in front of every letter. -/
def joinAll : List Nat → List Nat
  | [] => []
  | n :: ns => if combiningClass n == 0 then joinBehind n [] ns else n :: joinAll ns

/-- The canonical composition of a text. -/
def compose (cs : List Char) : List Char :=
  if cs.all (·.toNat < 0x300) then cs
  else (joinAll (order [] (decompose (cs.map Char.toNat)))).map Char.ofNat

end LintRelay.Text.Canonical
