import LintRelay.Domain.LabelClass
import LintRelay.Domain.Mapping.Basic
import LintRelay.Domain.Punycode

/-!
# Labels

A domain name is a row of labels with dots between them. A label is read from its folded spelling or
from its spelling in ASCII, behind `xn--`. What may stand in it is told here: no combining mark in
front, joiners only where they show, and, in a name that has letters from right to left, a direction
that every reader can tell.
-/

namespace LintRelay.Domain

/-- A label and its spelling in ASCII. -/
structure Label where
  text : List Char
  ascii : List Char
  deriving Repr, DecidableEq

namespace Label

/-- What stands before a label spelled in ASCII. -/
def mark : List Char := ['x', 'n', '-', '-']

/-- Whether every character is an ASCII character. -/
def isAscii (cs : List Char) : Bool := cs.all (·.toNat < 0x80)

/-- Reads a label from its folded spelling. A spelling in ASCII has to stand for a label that needs
it and is folded already. Labels of excessive length are refused. -/
def read? (cs : List Char) : Option Label :=
  if mark.isPrefixOf cs then do
    let text ← if cs.length ≤ 2004 then Punycode.decode? (cs.drop 4) else none
    if !isAscii text && fold? text == some text then return ⟨text, cs⟩ else none
  else if isAscii cs then some ⟨cs, cs⟩
  else if cs.length ≤ 1000 then some ⟨cs, mark ++ Punycode.encode cs⟩
  else none

/-! ## Joiners -/

/-- Whether the first character that joining does not look through belongs to a class. -/
def joins (switches : List Nat) (cs : List Char) : Bool :=
  (cs.dropWhile (Text.inClass transparentSwitches)).head?.any (Text.inClass switches)

/-- Whether every joiner stands behind a virama, or keeps two letters apart that would join.
`before` holds what stands in front, last character first. -/
def hasSoundJoiners (before : List Char) : List Char → Bool
  | [] => true
  | c :: cs =>
    let behindVirama := before.head?.any (Text.inClass viramaSwitches)
    let isSound :=
      if c == '\u200D' then behindVirama
      else if c == '\u200C' then
        behindVirama || (joins joinsAfterSwitches before && joins joinsBeforeSwitches cs)
      else true
    isSound && hasSoundJoiners (c :: before) cs

/-- Whether a label may stand in a name. -/
def isSound (l : Label) : Bool :=
  !l.text.head?.any (Text.inClass markSwitches) && hasSoundJoiners [] l.text

/-! ## Direction -/

/-- Whether a label has a character that runs from right to left. -/
def turns (l : Label) : Bool :=
  l.text.any fun c => [.rightToLeft, .arabicNumber].contains (Direction.of c)

/-- Whether the direction of a label is plain: it begins with a letter, keeps to the direction of that
letter, and ends in a letter or a digit of that direction. -/
def hasPlainDirection (l : Label) : Bool :=
  let directions := l.text.map Direction.of
  let last := (directions.reverse.dropWhile (· == .nonspacing)).head?
  match directions.head? with
  | none => true
  | some .rightToLeft =>
    !directions.contains .leftToRight &&
      last.any ([.rightToLeft, .arabicNumber, .europeanNumber].contains ·) &&
      !(directions.contains .arabicNumber && directions.contains .europeanNumber)
  | some .leftToRight =>
    !directions.any ([.rightToLeft, .arabicNumber].contains ·) &&
      last.any ([.leftToRight, .europeanNumber].contains ·)
  | some _ => false

end Label
end LintRelay.Domain
