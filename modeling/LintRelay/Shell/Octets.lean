import LintRelay.Text.Utf8

/-!
# Octets

Scripts and the small programs that they use work on bytes. Such a text is held as octets:
characters that stand for one byte each. This module has what all of them need: blanks, digits,
numbers, lines and fields.
-/

namespace LintRelay.Shell

/-- A text whose characters stand for one byte each. -/
abbrev Octets := List Char

/-- The octets of a byte sequence. -/
def octetsOf (bs : Bytes) : Octets := bs.map fun b => Char.ofNat b.toNat

def bytesOfOctets (cs : Octets) : Bytes := cs.map fun c => UInt8.ofNat c.toNat

/-! ## Characters -/

/-- Whether a character is blank: a space, a tab or a line end. -/
def isGap (c : Char) : Bool := c == ' ' || c == '\t' || c == '\n'

/-- Whether a character counts as white space. -/
def isSpace (c : Char) : Bool := isGap c || ('\x0b' ≤ c && c ≤ '\x0d')

/-- Whether a character may stand in a name. -/
def isNameChar (c : Char) : Bool := c.isAlphanum || c == '_'

/-- Whether a text is the name of a variable. -/
def isName (cs : Octets) : Bool :=
  match cs with
  | [] => false
  | c :: _ => !c.isDigit && cs.all isNameChar

/-- The octets between two, both included. -/
def octetsBetween (a b : Char) : Octets :=
  (List.range (b.toNat + 1 - a.toNat)).map fun n => Char.ofNat (a.toNat + n)

/-- The classes of characters by their names. -/
def characterClass? (name : String) : Option (Char → Bool) :=
  let isGraphic (c : Char) : Bool := '!' ≤ c && c ≤ '~'
  match name with
  | "alpha" => some Char.isAlpha
  | "digit" => some Char.isDigit
  | "alnum" => some Char.isAlphanum
  | "upper" => some Char.isUpper
  | "lower" => some Char.isLower
  | "space" => some isSpace
  | "blank" => some fun c => c == ' ' || c == '\t'
  | "punct" => some fun c => isGraphic c && !c.isAlphanum
  | "print" => some fun c => isGraphic c || c == ' '
  | "graph" => some isGraphic
  | "cntrl" => some fun c => c < ' ' || c == '\x7f'
  | "xdigit" => some fun c => c.isDigit || ('a' ≤ c && c ≤ 'f') || ('A' ≤ c && c ≤ 'F')
  | _ => none

/-! ## Numbers -/

def digitValue (c : Char) : Nat :=
  if c.isDigit then c.toNat - '0'.toNat
  else if 'a' ≤ c && c ≤ 'z' then c.toNat - 'a'.toNat + 10
  else if 'A' ≤ c && c ≤ 'Z' then c.toNat - 'A'.toNat + 10
  else 99

/-- The number that digits of the given base spell, if they do. -/
def numberIn? (base : Nat) (cs : Octets) : Option Int :=
  if cs.isEmpty || cs.any fun c => digitValue c ≥ base then none
  else some (cs.foldl (fun n c => n * base + digitValue c) 0 : Nat)

/-- The natural number that decimal digits spell, if they do. -/
def decimal? (cs : Octets) : Option Nat := (numberIn? 10 cs).map Int.toNat

/-- The digits of a natural number. -/
def digitsOf (n : Nat) : Octets := Nat.toDigits 10 n

def integerText (n : Int) : Octets := (toString n).toList

/-- A text put into a width of `n` characters, at its right side. -/
def padLeft (n : Nat) (c : Char) (cs : Octets) : Octets := List.replicate (n - cs.length) c ++ cs

/-- A text put into a width of `n` characters, at its left side. -/
def padRight (n : Nat) (c : Char) (cs : Octets) : Octets := cs ++ List.replicate (n - cs.length) c

/-! ## Texts -/

/-- Texts with a blank between each two. -/
def spaced (ts : List Octets) : Octets := [' '].intercalate ts

/-- A text without what `p` holds of at its end. -/
def dropEndWhile (p : Char → Bool) (cs : Octets) : Octets := (cs.reverse.dropWhile p).reverse

/-- The parts of a text between the characters `divider`. -/
def splitAtChar (divider : Char) : Octets → List Octets
  | [] => [[]]
  | c :: cs =>
    if c == divider then [] :: splitAtChar divider cs
    else
      match splitAtChar divider cs with
      | part :: parts => (c :: part) :: parts
      | [] => [[c]]

/-- The longest parts of a text without characters that `p` holds of. -/
def wordsOf (p : Char → Bool) (cs : Octets) : List Octets :=
  let parts := cs.foldr (fun c parts =>
    match parts with
    | part :: rest => if p c then [] :: part :: rest else (c :: part) :: rest
    | [] => [[c]]) [[]]
  parts.filter fun part => !part.isEmpty

/-- The lines of a text, each with its line end. -/
def linesOf (cs : Octets) : List Octets :=
  cs.foldr (fun c ls =>
    match ls with
    | [] => [[c]]
    | l :: rest => if c == '\n' then ['\n'] :: l :: rest else (c :: l) :: rest) []

/-- A line without its line end. -/
def chomped (l : Octets) : Octets := if l.getLast? == some '\n' then l.dropLast else l

/-- The lines of a text without their line ends. -/
def bareLinesOf (cs : Octets) : List Octets := (linesOf cs).map chomped

def textOfLines (ls : List Octets) : Octets := ls.flatMap (· ++ ['\n'])

/-- Whether a text has another one inside. -/
def hasInside (part : Octets) : Octets → Bool
  | [] => part.isEmpty
  | c :: cs => part.isPrefixOf (c :: cs) || hasInside part cs

/-- Whether one text comes before another or is equal to it. -/
def notAfter (a b : Octets) : Bool := !(b < a)

/-- The name at the end of a path. -/
def lastName (cs : Octets) : Octets := (cs.reverse.takeWhile (· != '/')).reverse

end LintRelay.Shell
