import LintRelay.FileTree.Basic
import LintRelay.Shell.Octets

/-!
# Patterns in scripts

The patterns of choices, of cut values and of file names: `*` for any text, `?` for one character,
and sets in brackets. A quoted character, or one behind a backslash, stands for itself.
-/

namespace LintRelay.Shell

/-- A character of an expanded word, with whether it was quoted. -/
abbrev Marked := Char × Bool

/-- A text whose characters are not quoted. -/
def unmarked (cs : Octets) : List Marked := cs.map (·, false)

inductive SetMember where
  | range (first last : Char)
  | class (name : String)
  deriving Repr, DecidableEq

/-- Whether a member of a set stands for a character. -/
def SetMember.holds (c : Char) : SetMember → Bool
  | .range a b => a ≤ c && c ≤ b
  | .class name => (characterClass? name).any fun p => p c

inductive PatternPart where
  | literal (c : Char)
  | one
  | many
  | set (negated : Bool) (members : List SetMember)
  deriving Repr, DecidableEq

/-- The name of the class at the front of a set. -/
def className? : List Marked → Option Octets
  | ('[', false) :: (':', false) :: cs =>
    let name := (cs.map (·.1)).takeWhile Char.isAlpha
    match (cs.drop name.length).map (·.1) with
    | ':' :: ']' :: _ => some name
    | _ => none
  | _ => none

/-- The members of a set up to its closing bracket, with the number of characters that they and the
bracket take. `isFirst` says that nothing was read yet, so that a bracket is a member; `skip` is the
number of characters that were already read. -/
def setMembers (isFirst : Bool) : Nat → List Marked → Option (List SetMember × Nat)
  | _, [] => none
  | skip + 1, _ :: cs => (setMembers false skip cs).map fun (ms, n) => (ms, n + 1)
  | 0, (c, quoted) :: cs =>
    let more (m : SetMember) (skip : Nat) : Option (List SetMember × Nat) :=
      (setMembers false skip cs).map fun (ms, n) => (m :: ms, n + 1)
    if c == ']' && !quoted && !isFirst then some ([], 1)
    else
      match className? ((c, quoted) :: cs) with
      | some name => more (.class (String.ofList name)) (name.length + 3)
      | none =>
        let (a, taken) := plainMember c quoted cs
        match cs.drop taken with
        | ('-', false) :: (d, q) :: rest =>
          if d == ']' && !q then more (.range a a) taken
          else
            let (b, more') := plainMember d q rest
            more (.range a b) (taken + 2 + more')
        | _ => more (.range a a) taken
where
  /-- The character that stands at the front, and how many more characters that takes. -/
  plainMember (c : Char) (quoted : Bool) (cs : List Marked) : Char × Nat :=
    match cs with
    | (d, _) :: _ => if c == '\\' && !quoted then (d, 1) else (c, 0)
    | [] => (c, 0)

/-- The set that begins behind an opening bracket, with its length, if it is closed. -/
def setPart? (cs : List Marked) : Option (PatternPart × Nat) :=
  let negated := cs.head? == some ('!', false)
  (setMembers true 0 (if negated then cs.drop 1 else cs)).map fun (members, n) =>
    (.set negated members, n + if negated then 1 else 0)

/-- The pattern that marked characters spell, behind `skip` characters that were already read. -/
def patternParts : Nat → List Marked → List PatternPart
  | _, [] => []
  | skip + 1, _ :: cs => patternParts skip cs
  | 0, (c, true) :: cs => .literal c :: patternParts 0 cs
  | 0, (c, false) :: cs =>
    if c == '*' then .many :: patternParts 0 cs
    else if c == '?' then .one :: patternParts 0 cs
    else if c == '\\' then
      match cs with
      | (d, _) :: _ => .literal d :: patternParts 1 cs
      | [] => [.literal c]
    else if c == '[' then
      match setPart? cs with
      | some (p, size) => p :: patternParts size cs
      | none => .literal c :: patternParts 0 cs
    else .literal c :: patternParts 0 cs

/-- Whether a pattern matches a whole text. -/
def accepts : List PatternPart → Octets → Bool
  | [], cs => cs.isEmpty
  | .many :: ps, cs => (List.range (cs.length + 1)).any fun n => accepts ps (cs.drop n)
  | .one :: ps, cs =>
    match cs with
    | _ :: rest => accepts ps rest
    | [] => false
  | .literal c :: ps, cs =>
    match cs with
    | d :: rest => c == d && accepts ps rest
    | [] => false
  | .set negated members :: ps, cs =>
    match cs with
    | d :: rest => (members.any (·.holds d)) != negated && accepts ps rest
    | [] => false

/-- A text without the shortest or longest front that a pattern matches. -/
def dropMatchedFront (longest : Bool) (p : List PatternPart) (cs : Octets) : Octets :=
  let sizes := List.range (cs.length + 1)
  match (if longest then sizes.reverse else sizes).find? fun n => accepts p (cs.take n) with
  | some n => cs.drop n
  | none => cs

/-- A text without the shortest or longest end that a pattern matches. -/
def dropMatchedEnd (longest : Bool) (p : List PatternPart) (cs : Octets) : Octets :=
  let sizes := List.range (cs.length + 1)
  match (if longest then sizes else sizes.reverse).find? fun n => accepts p (cs.drop n) with
  | some n => cs.take n
  | none => cs

/-! ## File names -/

/-- Whether a pattern stands for anything but one text. -/
def isOpen (p : List PatternPart) : Bool :=
  p.any fun
    | .literal _ => false
    | _ => true

/-- The text that a pattern without open parts matches. -/
def literalText (p : List PatternPart) : Octets :=
  p.filterMap fun
    | .literal c => some c
    | _ => none

/-- The names in a directory that a pattern matches. A name that begins with a dot is only matched
by a dot. -/
def namesIn (t : FileTree) (directory : Octets) (p : List PatternPart) : List Octets :=
  match t.reach ⟨bytesOfOctets (if directory.isEmpty then ['.'] else directory)⟩ with
  | .ok ⟨l, .directory⟩ =>
    let names := ["." , ".."].map String.toList ++ (t.entries l).map octetsOf
    names.filter fun name =>
      accepts p name && (name.head? != some '.' || p.head? == some (.literal '.'))
  | _ => []

/-- The paths that a pattern stands for, behind the front of a path that is settled. -/
def pathsBehind (t : FileTree) : Nat → Octets → List Marked → List Octets
  | 0, _, _ => []
  | fuel + 1, front, cs =>
    let slashes := cs.takeWhile fun c => c.1 == '/'
    let front := front ++ slashes.map (·.1)
    let cs := cs.drop slashes.length
    let segment := cs.takeWhile fun c => c.1 != '/'
    let rest := cs.drop segment.length
    let there (path : Octets) : Bool := (t.find? ⟨bytesOfOctets path⟩).isSome
    let pattern := patternParts 0 segment
    if segment.isEmpty then if there front then [front] else []
    else
      let names := if isOpen pattern then namesIn t front pattern else [literalText pattern]
      let paths := (names.map (front ++ ·)).filter there
      if rest.isEmpty then paths else paths.flatMap fun path => pathsBehind t fuel path rest

/-- The paths of files that a word stands for, sorted. A word that is no pattern, or a pattern that
matches no file, stands for itself. -/
def pathsFor (t : FileTree) (cs : List Marked) : List Octets :=
  let itself := cs.map (·.1)
  if !isOpen (patternParts 0 cs) then [itself]
  else
    match pathsBehind t (cs.length + 1) [] cs with
    | [] => [itself]
    | paths => paths.mergeSort notAfter

end LintRelay.Shell
