import LintRelay.Domain.Label

/-!
# Domain names in ASCII

`toAscii?` gives the one spelling in ASCII of a domain name, whatever characters it is written with.
A name that has a label from right to left is refused unless every label of it has a plain direction.
-/

namespace LintRelay.Domain

/-- The parts of a text between the characters `sep`. -/
def splitAt (sep : Char) : List Char → List (List Char)
  | [] => [[]]
  | c :: cs =>
    if c == sep then [] :: splitAt sep cs
    else
      match splitAt sep cs with
      | [] => [[c]]
      | p :: ps => (c :: p) :: ps

/-- ASCII characters that no domain has. -/
def isRefused (c : Char) : Bool :=
  c.toNat ≤ 0x20 || c == '\x7f' ||
    ['%', '#', '/', ':', '<', '>', '?', '@', '[', '\\', ']', '^', '|'].contains c

/-- Whether labels may stand together in a name. -/
def areSound (labels : List Label) : Bool :=
  labels.all (fun l => !l.text.any isRefused && l.isSound) &&
    (!labels.any Label.turns || labels.all Label.hasPlainDirection)

/-- The spelling in ASCII of a domain name. -/
def toAscii? (cs : List Char) : Option (List Char) := do
  let folded ← fold? cs
  let labels ← (splitAt '.' folded).mapM Label.read?
  if areSound labels then return (labels.map Label.ascii).intersperse ['.'] |>.flatten else none

end LintRelay.Domain
