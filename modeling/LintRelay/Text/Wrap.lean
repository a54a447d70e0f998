import LintRelay.Text.CharClass

/-!
# Wrapped text

A long line is put on several lines of limited width. It may be broken at blanks, behind a slash in
front of a letter, and behind a hyphen between letters or digits; a piece that is too long for a
line is cut. Each line takes as many pieces as fit, and blanks at its end are dropped.
-/

namespace LintRelay.Text

/-- A part of a line that is not broken, with the number of blanks behind it. -/
structure Piece where
  text : List Char
  blanks : Nat
  deriving Repr, DecidableEq

/-- Whether `c` is a letter or an underscore. -/
def isWordStart (c : Char) : Bool := c == '_' || (isAlphanumeric c && !c.isDigit)

/-- Whether a line may be broken between `c` and `d`, where `before` stands in front of `c`. -/
def mayBreak (before : Option Char) (c d : Char) : Bool :=
  (c == '/' && isWordStart d) ||
    (c == '-' && before.any isAlphanumeric && isAlphanumeric d)

def wordPieces : Option Char → List Char → List (List Char)
  | _, [] => []
  | _, [c] => [[c]]
  | before, c :: d :: cs =>
    match wordPieces (some c) (d :: cs) with
    | [] => [[c]]
    | p :: ps => if mayBreak before c d then [c] :: p :: ps else (c :: p) :: ps

/-- Cuts a text after every `n` characters. -/
def cutEvery (n : Nat) : Nat → List Char → List (List Char)
  | _, [] => []
  | 0, c :: cs =>
    match cutEvery n (n - 1) cs with
    | [] => [[], [c]]
    | p :: ps => [] :: (c :: p) :: ps
  | room + 1, c :: cs =>
    match cutEvery n room cs with
    | [] => [[c]]
    | p :: ps => (c :: p) :: ps

/-- The pieces of a word, none wider than `limit`, with the blanks behind the word. -/
def limitedPieces (limit : Nat) (word : List Char) (blanks : Nat) : List Piece :=
  let cut := (wordPieces none word).flatMap (cutEvery limit limit)
  match cut.reverse with
  | [] => [⟨[], blanks⟩]
  | last :: before => (before.reverse.map fun p => ⟨p, 0⟩) ++ [⟨last, blanks⟩]

/-- The words of a line, with the number of blanks behind each. -/
def spacedWords : List Char → List (List Char × Nat)
  | [] => []
  | c :: cs =>
    match c == ' ', spacedWords cs with
    | true, ([], n) :: ws => ([], n + 1) :: ws
    | true, ws => ([], 1) :: ws
    | false, (w, n) :: ws => (c :: w, n) :: ws
    | false, [] => [([c], 0)]

/-- Puts pieces on lines behind `line`, at whose end `gap` blanks wait. -/
def layPieces (limit : Nat) : List Char → Nat → List Piece → List (List Char)
  | line, _, [] => [line]
  | line, gap, p :: ps =>
    if line.length + gap + p.text.length ≤ limit then
      layPieces limit (line ++ List.replicate gap ' ' ++ p.text) p.blanks ps
    else line :: layPieces limit p.text p.blanks ps

/-- A line as lines of at most `limit` characters. -/
def wrapLine (limit : Nat) (line : List Char) : List (List Char) :=
  layPieces limit [] 0 ((spacedWords line).flatMap fun w => limitedPieces limit w.1 w.2)

/-- A text as lines of at most `limit` characters, with `first` in front of the first line and
`rest` in front of the others. -/
def hang (limit : Nat) (first rest text : String) : String :=
  let lines := (text.splitOn "\n").flatMap fun line => wrapLine limit line.toList
  match lines.map String.ofList with
  | [] => first
  | l :: ls => ("\n" ++ rest).intercalate ((first ++ l) :: ls)

end LintRelay.Text
