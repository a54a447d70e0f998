import LintRelay.Shell.Octets
import LintRelay.Shell.Pattern

/-!
# Regular expressions

The regular expressions of the tools, in the basic and the extended spelling. A match is looked for
from left to right, and of the matches at one place the longest counts.

Matching is described by what is left: `Regex.spots` gives the spots in a text that an expression
leads to from a spot, those that it prefers first, and for each place only one.
-/

namespace LintRelay.Shell

/-- A condition on the two sides of a spot. -/
inductive Edge where
  | lineStart
  | lineEnd
  /-- A word begins or ends here, or, unless `there`, does not. -/
  | word (there : Bool)
  | wordStart
  | wordEnd
  /-- No word character stands in front, or, unless `before`, behind. -/
  | free (before : Bool)
  deriving Repr, DecidableEq

/-- A regular expression. -/
inductive Regex where
  | empty
  | char (c : Char)
  | any
  | set (negated : Bool) (members : List SetMember)
  | edge (e : Edge)
  | group (number : Nat) (body : Regex)
  /-- What a group matched. -/
  | again (number : Nat)
  | both (first second : Regex)
  | either (first second : Regex)
  | repeated (least : Nat) (most : Option Nat) (body : Regex)
  deriving Repr, Inhabited

namespace Regex

/-! ## Reading -/

/-- Why an expression cannot be read. -/
inductive Fault where
  | openGroup
  | closedGroup
  | openSet
  | badCount
  | trailingBackslash
  | badReference
  | badRepetition
  deriving Repr, DecidableEq

def Fault.message : Fault → String
  | .openGroup => "Unmatched ( or \\("
  | .closedGroup => "Unmatched ) or \\)"
  | .openSet => "Unmatched [, [^, [:, [., or [="
  | .badCount => "Invalid content of \\\x7b\\\x7d"
  | .trailingBackslash => "Trailing backslash"
  | .badReference => "Invalid back reference"
  | .badRepetition => "Invalid preceding regular expression"

inductive Token where
  | char (c : Char)
  | any
  | set (negated : Bool) (members : List SetMember)
  | edge (e : Edge)
  | openGroup
  | closeGroup
  | bar
  | repetition (least : Nat) (most : Option Nat)
  | again (n : Nat)
  deriving Repr

/-- The count behind an opening brace, with its length up to the closing one. -/
def interval? (extended : Bool) (cs : Octets) : Option (Nat × Option Nat × Nat) :=
  let close : Octets := if extended then ['\x7d'] else ['\\', '\x7d']
  let low := cs.takeWhile Char.isDigit
  let behind := cs.drop low.length
  match behind with
  | ',' :: more =>
    let high := more.takeWhile Char.isDigit
    if close.isPrefixOf (more.drop high.length) then
      some ((decimal? low).getD 0, decimal? high, low.length + 1 + high.length + close.length)
    else none
  | _ =>
    if close.isPrefixOf behind then
      (decimal? low).map fun n => (n, some n, low.length + close.length)
    else none

/-- The set of word characters. -/
def wordMembers : List SetMember := [.class "alnum", .range '_' '_']

/-- The set behind an opening bracket, with its length. A backslash in it stands for itself. -/
def bracketSet? (cs : Octets) : Option (Bool × List SetMember × Nat) :=
  let negated := cs.head? == some '^'
  let marks := (if negated then cs.drop 1 else cs).map fun c => (c, c == '\\')
  (setMembers true 0 marks).map fun (ms, n) => (negated, ms, n + if negated then 1 else 0)

/-- The token that a backslash and a character stand for, with the length of both and more. -/
def escapedToken (extended : Bool) (c : Char) (cs : Octets) : Except Fault (Token × Nat) :=
  match c with
  | '(' => .ok (if extended then .char c else .openGroup, 2)
  | ')' => .ok (if extended then .char c else .closeGroup, 2)
  | '|' => .ok (if extended then .char c else .bar, 2)
  | '+' => .ok (if extended then .char c else .repetition 1 none, 2)
  | '?' => .ok (if extended then .char c else .repetition 0 (some 1), 2)
  | '\x7b' =>
    if extended then .ok (.char c, 2)
    else
      match interval? false cs with
      | some (a, b, n) => .ok (.repetition a b, n + 2)
      | none => .error .badCount
  | 'w' => .ok (.set false wordMembers, 2)
  | 'W' => .ok (.set true wordMembers, 2)
  | 's' => .ok (.set false [.class "space"], 2)
  | 'S' => .ok (.set true [.class "space"], 2)
  | 'b' => .ok (.edge (.word true), 2)
  | 'B' => .ok (.edge (.word false), 2)
  | '<' => .ok (.edge .wordStart, 2)
  | '>' => .ok (.edge .wordEnd, 2)
  | '\x60' => .ok (.edge .lineStart, 2)
  | '\'' => .ok (.edge .lineEnd, 2)
  | 'n' => .ok (.char '\n', 2)
  | 't' => .ok (.char '\t', 2)
  | c => .ok (if c.isDigit && c != '0' then .again (digitValue c) else .char c, 2)

/-- The tokens of an expression, behind `skip` characters that were already read. `atStart` says
that a branch begins here. -/
def tokens (extended atStart : Bool) : Nat → Octets → Except Fault (List Token)
  | _, [] => .ok []
  | skip + 1, _ :: cs => tokens extended atStart skip cs
  | 0, c :: cs => do
    let more (t : Token) (skip : Nat) (atStart : Bool) : Except Fault (List Token) := do
      return t :: (← tokens extended atStart skip cs)
    let endsBranch : Bool :=
      if extended then cs.isEmpty || cs.head? == some ')' || cs.head? == some '|'
      else cs.isEmpty || "\\)".toList.isPrefixOf cs || "\\|".toList.isPrefixOf cs
    match c with
    | '\\' =>
      match cs with
      | [] => .error .trailingBackslash
      | d :: rest => do
        let (t, size) ← escapedToken extended d rest
        let starts := match t with
          | .openGroup | .bar => true
          | _ => false
        more t (size - 1) starts
    | '.' => more .any 0 false
    | '[' =>
      match bracketSet? cs with
      | some (negated, ms, n) => more (.set negated ms) n false
      | none => .error .openSet
    | '^' => if extended || atStart then more (.edge .lineStart) 0 true else more (.char c) 0 false
    | '$' => if extended || endsBranch then more (.edge .lineEnd) 0 false else more (.char c) 0 false
    | '*' => if atStart then more (.char c) 0 false else more (.repetition 0 none) 0 false
    | _ =>
      if !extended then more (.char c) 0 false
      else
        match c with
        | '(' => more .openGroup 0 true
        | ')' => more .closeGroup 0 false
        | '|' => more .bar 0 true
        | '+' => if atStart then more (.char c) 0 false else more (.repetition 1 none) 0 false
        | '?' => if atStart then more (.char c) 0 false else more (.repetition 0 (some 1)) 0 false
        | '\x7b' =>
          match interval? true cs with
          | some (a, b, n) => if atStart then more (.char c) 0 false else more (.repetition a b) n false
          | none => more (.char c) 0 false
        | _ => more (.char c) 0 false

/-- What is being read: the groups that are open, the innermost first. Each has its number, the
branches before the current one, and the current branch, reversed. -/
structure Level where
  number : Nat
  branches : List Regex
  parts : List Regex

/-- The parts of a branch one behind the other. -/
def joined (parts : List Regex) : Regex :=
  parts.foldl (fun r p =>
    match r with
    | .empty => p
    | r => .both p r) .empty

/-- The expression that a level stands for. -/
def Level.regex (l : Level) : Regex :=
  l.branches.foldl (fun r b => .either b r) (joined l.parts)

/-- Builds the expression from its tokens. `count` is the number of groups so far. -/
def build : Nat → Level → List Level → List Token → Except Fault Regex
  | _, level, [], [] => .ok level.regex
  | _, _, _ :: _, [] => .error .openGroup
  | count, level, outer, t :: ts =>
    let one (r : Regex) : Except Fault Regex :=
      build count { level with parts := r :: level.parts } outer ts
    match t with
    | .char c => one (.char c)
    | .any => one .any
    | .set negated ms => one (.set negated ms)
    | .edge e => one (.edge e)
    | .again n => if n > count then .error .badReference else one (.again n)
    | .openGroup => build (count + 1) ⟨count + 1, [], []⟩ (level :: outer) ts
    | .closeGroup =>
      match outer with
      | [] => .error .closedGroup
      | above :: outer =>
        build count { above with parts := .group level.number level.regex :: above.parts } outer ts
    | .bar =>
      build count { level with branches := joined level.parts :: level.branches, parts := [] } outer ts
    | .repetition a b =>
      match level.parts with
      | [] => one .empty
      | r :: parts => build count { level with parts := .repeated a b r :: parts } outer ts

def read (extended : Bool) (cs : Octets) : Except Fault Regex := do
  build 0 ⟨0, [], []⟩ [] (← tokens extended true 0 cs)

/-- The expression that matches a text and nothing else. -/
def literal (cs : Octets) : Regex := joined (cs.reverse.map .char)

/-! ## Matching -/

/-- A spot in a text, with what the groups matched on the way. -/
structure Spot where
  index : Nat
  before : Option Char
  rest : Octets
  /-- The groups with where they begin and end, the last one first. -/
  groups : List (Nat × Nat × Nat)

/-- The spot behind the next character. -/
def Spot.next (s : Spot) (c : Char) (rest : Octets) : Spot :=
  { s with index := s.index + 1, before := some c, rest }

/-- Whether a character belongs to a word. -/
def isWord (c : Option Char) : Bool := c.any isNameChar

end Regex

/-- Whether a condition holds at a spot. -/
def Edge.holds (e : Edge) (s : Regex.Spot) : Bool :=
  let before := Regex.isWord s.before
  let behind := Regex.isWord s.rest.head?
  match e with
  | .lineStart => s.index == 0
  | .lineEnd => s.rest.isEmpty
  | .word there => (before != behind) == there
  | .wordStart => !before && behind
  | .wordEnd => before && !behind
  | .free true => !before
  | .free false => !behind

namespace Regex

/-- The first spot for each place. -/
def distinct (ss : List Spot) : List Spot :=
  ss.foldr (fun s kept => s :: kept.filter fun t => t.index != s.index) []

/-- The spots that repeating leads to: those reached by `step` again and again from the spots `ss`,
each place once, those that are reached last first. `fuel` bounds the number of steps. -/
def closure (step : Spot → List Spot) : Nat → List Spot → List Spot → List Spot
  | 0, _, seen => seen
  | fuel + 1, ss, seen =>
    let fresh := ss.filter fun s => !seen.any fun t => t.index == s.index
    match fresh with
    | [] => seen
    | _ =>
      let reached := distinct (fresh.flatMap fun s => (step s).filter fun t => t.index > s.index)
      closure step fuel reached (distinct (fresh ++ seen))

/-- `step` for `n` times, where with `orLess` fewer times count too. -/
def stepped (step : Spot → List Spot) (orLess : Bool) : Nat → List Spot → List Spot
  | 0, ss => ss
  | n + 1, ss =>
    let further := stepped step orLess n (distinct (ss.flatMap step))
    if orLess then distinct (further ++ ss) else further

/-- The spots that an expression leads to. -/
def spots (ignoreCase : Bool) (text : Octets) : Regex → Spot → List Spot
  | .empty, s => [s]
  | .char c, s =>
    match s.rest with
    | d :: rest =>
      if c == d || (ignoreCase && c.toLower == d.toLower) then [s.next d rest] else []
    | [] => []
  | .any, s =>
    match s.rest with
    | d :: rest => [s.next d rest]
    | [] => []
  | .set negated ms, s =>
    match s.rest with
    | d :: rest =>
      let inside := ms.any fun m =>
        m.holds d || (ignoreCase && (m.holds d.toLower || m.holds d.toUpper))
      if inside != negated then [s.next d rest] else []
    | [] => []
  | .edge e, s => if e.holds s then [s] else []
  | .group n r, s =>
    (spots ignoreCase text r s).map fun e => { e with groups := (n, s.index, e.index) :: e.groups }
  | .again n, s =>
    match s.groups.find? (·.1 == n) with
    | none => []
    | some (_, a, b) =>
      let part := (text.drop a).take (b - a)
      if part.isPrefixOf s.rest then
        [{ s with
          index := s.index + part.length
          before := part.getLast?.or s.before
          rest := s.rest.drop part.length }]
      else []
  | .both a b, s => distinct ((spots ignoreCase text a s).flatMap (spots ignoreCase text b))
  | .either a b, s => distinct (spots ignoreCase text a s ++ spots ignoreCase text b s)
  | .repeated least most r, s =>
    let step := spots ignoreCase text r
    let required := stepped step false least [s]
    match most with
    | some most => stepped step true (most - least) required
    | none => closure step (s.rest.length + 2) required []

structure Match where
  start : Nat
  stop : Nat
  groups : List (Nat × Nat × Nat)

/-- The text of a group, the whole match being group zero. -/
def Match.group (m : Match) (text : Octets) (n : Nat) : Octets :=
  let part (a b : Nat) : Octets := (text.drop a).take (b - a)
  if n == 0 then part m.start m.stop
  else
    match m.groups.find? (·.1 == n) with
    | some (_, a, b) => part a b
    | none => []

/-- The longest match that begins at a spot. -/
def matchAt? (r : Regex) (ignoreCase : Bool) (text : Octets) (s : Spot) : Option Match :=
  let ends := spots ignoreCase text r s
  (ends.foldl (fun best e =>
    match best with
    | some b => if e.index > b.index then some e else best
    | none => some e) (none : Option Spot)).map fun e => ⟨s.index, e.index, e.groups⟩

/-- The first match at or behind a spot. -/
def searchFrom (r : Regex) (ignoreCase : Bool) (text : Octets) :
    Nat → Option Char → Octets → Option Match
  | index, before, [] => matchAt? r ignoreCase text ⟨index, before, [], []⟩
  | index, before, c :: cs =>
    match matchAt? r ignoreCase text ⟨index, before, c :: cs, []⟩ with
    | some m => some m
    | none => searchFrom r ignoreCase text (index + 1) (some c) cs

/-- The first match that begins at the place `start` of a text or behind it. -/
def search (r : Regex) (ignoreCase : Bool) (text : Octets) (start : Nat) : Option Match :=
  let before := if start == 0 then none else text[start - 1]?
  searchFrom r ignoreCase text start before (text.drop start)

/-- All matches that do not overlap. -/
def allMatches (r : Regex) (ignoreCase : Bool) (text : Octets) : List Match :=
  go (text.length + 2) 0 none
where
  /-- The matches from `start` on, an empty one not being where the last one ended. -/
  go : Nat → Nat → Option Nat → List Match
    | 0, _, _ => []
    | fuel + 1, start, last =>
      if start > text.length then []
      else
        match search r ignoreCase text start with
        | none => []
        | some m =>
          if m.stop > m.start then m :: go fuel m.stop (some m.stop)
          else if last == some m.start then go fuel (m.start + 1) none
          else m :: go fuel (m.start + 1) none

end Regex
end LintRelay.Shell
