/-!
# Words that are nearly right

Two words are similar as far as they share characters at about the same places and in the same order.
Where a word is unknown, a known one that is similar enough is shown instead.
-/

namespace LintRelay.Command

/-- The share of two words: how many characters they share, how many of those stand in another order,
and the lengths of the words. -/
structure Share where
  shared : Nat
  swapped : Nat
  left : Nat
  right : Nat

namespace Share

/-- For each character of `left`, the first place in `right` that holds the same character, is not
taken, and is at most `reach` away. -/
def places (reach : Nat) (right : List Char) : Nat → List Nat → List Char → List (Option Nat)
  | _, _, [] => []
  | i, taken, c :: cs =>
    let place := right.zipIdx.find? fun (d, j) =>
      d == c && !taken.contains j && i ≤ j + reach && j ≤ i + reach
    match place with
    | some (_, j) => some j :: places reach right (i + 1) (j :: taken) cs
    | none => none :: places reach right (i + 1) taken cs

/-- The share of two words. -/
def of (left right : List Char) : Share :=
  let reach := max left.length right.length / 2 - 1
  let found := places reach right 0 [] left
  let fromLeft := (left.zip found).filterMap fun (c, p) => p.map fun _ => c
  let fromRight := right.zipIdx.filterMap fun (c, j) =>
    if found.contains (some j) then some c else none
  ⟨fromLeft.length, ((fromLeft.zip fromRight).filter fun (a, b) => a != b).length / 2,
    left.length, right.length⟩

/-- Three times the similarity, as a fraction: the shared characters in proportion to either word, and
those in order in proportion to the shared ones. -/
def fraction (s : Share) : Nat × Nat :=
  (s.shared * s.shared * s.right + s.shared * s.shared * s.left +
      (s.shared - s.swapped) * s.left * s.right,
    s.left * s.right * s.shared)

/-- Whether the similarity reaches seven tenths. -/
def isHigh (s : Share) : Bool :=
  let (n, d) := s.fraction
  d != 0 && 21 * d ≤ 10 * n

/-- Whether the similarity is at most that of another share. -/
def isAtMost (s t : Share) : Bool := s.fraction.1 * t.fraction.2 ≤ t.fraction.1 * s.fraction.2

end Share

/-- The known words that are similar to `word`, the most similar one last. -/
def similarWords (word : String) (known : List String) : List String :=
  let shares := known.map fun k => (k, Share.of word.toList k.toList)
  ((shares.filter fun e => e.2.isHigh).mergeSort fun a b => a.2.isAtMost b.2).map (·.1)

/-- The known word that is most similar to `word`. -/
def mostSimilar? (word : String) (known : List String) : Option String :=
  (similarWords word known).getLast?

end LintRelay.Command
