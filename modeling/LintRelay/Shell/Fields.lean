import LintRelay.Shell.Pattern

/-!
# Fields

A word is expanded to characters, of which some may divide it into fields. A line that is read is
divided in the same way.

Of the characters that divide fields the blank ones count only together: a run of them, with one
other divider in it or none, is one division, and at the front of a text it is none.
-/

namespace LintRelay.Shell

/-- A part of a word after expansion. -/
inductive Item where
  /-- A character, which may be quoted, and which may divide fields. -/
  | char (c : Char) (quoted : Bool) (divides : Bool)
  /-- The word is a field even if it is empty. -/
  | present
  | boundary
  deriving Repr, DecidableEq

/-- An expanded text as parts of a word. -/
def itemsOf (quoted : Bool) (cs : Octets) : List Item :=
  let chars := cs.map fun c => Item.char c quoted (!quoted)
  if quoted then .present :: chars else chars

/-- The characters of parts that are not divided into fields, where `joint` stands between what would
be fields. -/
def markedWith (joint : Octets) (items : List Item) : List Marked :=
  items.flatMap fun
    | .char c quoted _ => [(c, quoted)]
    | .present => []
    | .boundary => unmarked joint

/-- The characters of parts that are not divided into fields. -/
def marked (items : List Item) : List Marked := markedWith [' '] items

/-- The fields that parts make, given the characters that divide fields. `field` is the one that has
begun, reversed; `soft` says that blanks have just ended one. -/
def fields (dividers : Octets) : Option (List Marked) → Bool → List Item → List (List Marked)
  | field, _, [] => (field.map List.reverse).toList
  | field, _, .present :: items => fields dividers (some (field.getD [])) false items
  | field, _, .boundary :: items =>
    (field.map List.reverse).toList ++ fields dividers none false items
  | field, soft, .char c quoted divides :: items =>
    if divides && dividers.contains c then
      match field with
      | some f => f.reverse :: fields dividers none (isGap c) items
      | none =>
        if isGap c then fields dividers none soft items
        else if soft then fields dividers none false items
        else [] :: fields dividers none false items
    else fields dividers (some ((c, quoted) :: field.getD [])) false items

/-- A line of the input: its characters, which a backslash may have protected, whether its end was
found, and what follows. -/
structure InputLine where
  characters : List Marked
  ended : Bool
  rest : Octets

/-- The line at the front of a text. Unless it is `raw`, a backslash protects a character and joins
lines. -/
def inputLine (raw : Bool) : Octets → InputLine
  | [] => ⟨[], false, []⟩
  | c :: cs =>
    if c == '\n' then ⟨[], true, cs⟩
    else
      match c, raw, cs with
      | '\\', false, d :: rest =>
        let line := inputLine raw rest
        if d == '\n' then line else { line with characters := (d, true) :: line.characters }
      | '\\', false, [] => ⟨[], false, []⟩
      | c, _, cs =>
        let line := inputLine raw cs
        { line with characters := (c, false) :: line.characters }

/-- What is left of a line for the last variable. A single field is taken without what ends it. -/
def lastField (dividers : Octets) (cs : List Marked) : Octets :=
  let divides (c : Marked) : Bool := !c.2 && dividers.contains c.1
  let blank (c : Marked) : Bool := divides c && isGap c.1
  let trim (cs : List Marked) : List Marked := (cs.reverse.dropWhile blank).reverse
  let trimmed := trim cs
  let shorter := trim trimmed.dropLast
  let single := trimmed.getLast?.any divides && !shorter.any divides
  (if single then shorter else trimmed).map (·.1)

/-- The fields of a line that is read into `n` variables: the last one has all that is left. -/
def lineFields (dividers : Octets) : Nat → List Marked → List Octets
  | 0, _ => []
  | n + 1, cs =>
    let divides (c : Marked) : Bool := !c.2 && dividers.contains c.1
    let blank (c : Marked) : Bool := divides c && isGap c.1
    let cs := cs.dropWhile blank
    if n == 0 then [lastField dividers cs]
    else
      let field := cs.takeWhile fun c => !divides c
      let rest := (cs.drop field.length).dropWhile blank
      let rest := match rest with
        | c :: more => if divides c then more.dropWhile blank else rest
        | [] => []
      field.map (·.1) :: lineFields dividers n rest

end LintRelay.Shell
