import LintRelay.Shell.Tool.Basic
import LintRelay.Shell.Tool.Regex

/-!
# Searching lines

The tool that shows the lines of texts that a regular expression matches.
-/

namespace LintRelay.Shell
namespace Search

/-- How the patterns of a search are spelled. -/
inductive Spelling where
  | basic
  | extended
  | fixed
  deriving Repr, DecidableEq

/-- A pattern with the digits that `\d` stands for spelled out. -/
def spelledDigits : Octets → Octets
  | '\\' :: 'd' :: cs => "[0-9]".toList ++ spelledDigits cs
  | c :: cs => c :: spelledDigits cs
  | [] => []

def expression (s : Spelling) (pattern : Octets) : Except Regex.Fault Regex :=
  match s with
  | .fixed => .ok (Regex.literal pattern)
  | s => Regex.read (s == .extended) pattern

/-- The expression that matches what one of the patterns does, perhaps only as a whole word or as a
whole line. -/
def combined (s : Spelling) (patterns : List Octets) (asWord asLine : Bool) :
    Except Regex.Fault Regex := do
  let rs ← patterns.mapM (expression s)
  let one := match rs with
    | [] => Regex.set false []
    | r :: rs => rs.foldl .either r
  let one := if asWord then .both (.both (.edge (.free true)) one) (.edge (.free false)) else one
  return if asLine then .both (.both (.edge .lineStart) one) (.edge .lineEnd) else one

/-- The options of the tool. -/
def switches : List Task.Switch :=
  Task.letters "EFGPbyazUT" ++
    [⟨'i', "ignore-case", false⟩, ⟨'v', "invert-match", false⟩, ⟨'w', "word-regexp", false⟩,
      ⟨'x', "line-regexp", false⟩, ⟨'c', "count", false⟩, ⟨'l', "files-with-matches", false⟩,
      ⟨'L', "files-without-match", false⟩, ⟨'q', "quiet", false⟩, ⟨'s', "no-messages", false⟩,
      ⟨'n', "line-number", false⟩, ⟨'H', "with-filename", false⟩, ⟨'h', "no-filename", false⟩,
      ⟨'o', "only-matching", false⟩, ⟨'r', "recursive", false⟩, ⟨'R', "", false⟩,
      ⟨'e', "regexp", true⟩, ⟨'f', "file", true⟩, ⟨'m', "max-count", true⟩,
      ⟨'A', "after-context", true⟩, ⟨'B', "before-context", true⟩, ⟨'C', "context", true⟩,
      ⟨'I', "include", true⟩, ⟨'X', "exclude", true⟩, ⟨'Q', "silent", false⟩, ⟨'d', "", true⟩]

/-- A search that was asked for. -/
structure Query where
  call : Task.Call
  regex : Regex
  named : Bool

namespace Query

/-- Whether an option was given. -/
def has (q : Query) (letter : Char) : Bool := q.call.has letter

/-- The number that an option gives. -/
def number (q : Query) (letter : Char) : Option Nat := (q.call.value? letter).bind decimal?

/-- Whether nothing is shown but the status is set. -/
def isQuiet (q : Query) : Bool := q.has 'q' || q.has 'Q'

def ignoresCase (q : Query) : Bool := q.has 'i' || q.has 'y'

def selects (q : Query) (l : Octets) : Bool :=
  (q.regex.search q.ignoresCase l 0).isSome != q.has 'v'

/-- What stands in front of a line, with `mark` behind each part. -/
def lead (q : Query) (name : Octets) (mark : Char) (number offset : Nat) : Octets :=
  (if q.named then name ++ [mark] else []) ++
    (if q.has 'n' then digitsOf number ++ [mark] else []) ++
    if q.has 'b' then digitsOf offset ++ [mark] else []

/-- What is shown for a selected line. -/
def shown (q : Query) (name : Octets) (number offset : Nat) (l : Octets) : Octets :=
  if q.has 'o' then
    if q.has 'v' then []
    else
      ((q.regex.allMatches q.ignoresCase l).filter fun m => m.start < m.stop).flatMap fun m =>
        q.lead name ':' number (offset + m.start) ++ m.group l 0 ++ ['\n']
  else q.lead name ':' number offset ++ l ++ ['\n']

/-- Lines with whether they are selected, as far as the greatest number of them allows. -/
def flagged (q : Query) : Option Nat → List Octets → List (Octets × Bool)
  | _, [] => []
  | some 0, l :: ls => (l, false) :: flagged q (some 0) ls
  | left, l :: ls =>
    if q.selects l then (l, true) :: flagged q (left.map (· - 1)) ls
    else (l, false) :: flagged q left ls

/-- What is shown of lines, with the lines around those that are selected. `divides` says that
something was shown before. -/
def shownLines (q : Query) (name : Octets) (divides : Bool) (ls : List (Octets × Bool)) : Octets :=
  let around (letter : Char) : Nat :=
    if q.has 'o' then 0 else ((q.number letter) <|> (q.number 'C')).getD 0
  let before := around 'B'
  let after := around 'A'
  let selected := (ls.map (·.2)).toArray
  let near (i : Nat) : Bool :=
    (List.range (before + after + 1)).any fun k =>
      i + before ≥ k && selected.getD (i + before - k) false
  let step (state : Octets × Bool × Option Nat × Nat) (x : (Octets × Bool) × Nat) :
      Octets × Bool × Option Nat × Nat :=
    let (out, divides, last, offset) := state
    let ((l, isSelected), i) := x
    let next := offset + l.length + 1
    if !near i then (out, divides, last, next)
    else
      let gap := before + after > 0 && (match last with
        | some k => k + 1 != i
        | none => divides)
      let line :=
        if isSelected then q.shown name (i + 1) offset l
        else q.lead name '-' (i + 1) offset ++ l ++ ['\n']
      (out ++ (if gap then "--\n".toList else []) ++ line, true, some i, next)
  (ls.zipIdx.foldl step ([], divides, none, 0)).1

/-- What a search shows for a text, and whether a line was selected. -/
def inText (q : Query) (name : Octets) (divides : Bool) (cs : Octets) : Octets × Bool :=
  let lines :=
    if q.has 'z' then
      let parts := splitAtChar '\x00' cs
      if parts.getLast? == some [] then parts.dropLast else parts
    else bareLinesOf cs
  let ls := q.flagged (q.number 'm') lines
  let count := (ls.filter (·.2)).length
  let found := count > 0
  let label := if q.named then name ++ [':'] else []
  let out :=
    if q.isQuiet then []
    else if q.has 'l' then if found then name ++ ['\n'] else []
    else if q.has 'L' then if found then [] else name ++ ['\n']
    else if q.has 'c' then label ++ digitsOf count ++ ['\n']
    else q.shownLines name divides ls
  (out, found)

end Query

/-- The files below a directory, sorted by their paths. -/
def filesBelow (t : FileTree) (name : Octets) (l : Location) : List Octets :=
  let below := (t.places.filter fun k => l.isPrefixOf k && k != l).filter fun k =>
    match t.at? k with
    | some (.file ..) => true
    | _ => false
  let spelled := below.map fun k =>
    dropEndWhile (· == '/') name ++ octetsOf (FileTree.pathOf (k.drop l.length)).bytes
  spelled.mergeSort notAfter

/-- Whether the name of a file lets it be searched. -/
def admits (call : Task.Call) (name : Octets) : Bool :=
  let fits (p : Octets) : Bool := accepts (patternParts 0 (unmarked p)) (lastName name)
  ((call.values 'I').isEmpty || (call.values 'I').any fits) && !(call.values 'X').any fits

/-- The names that are searched: those that were given, directories replaced by the files below
them. -/
def namesFor (t : Task) (call : Task.Call) (names : List Octets) : List Octets :=
  let deep := call.has 'r' || call.has 'R'
  if !deep then if names.isEmpty then [['-']] else names
  else
    let given := if names.isEmpty then [[]] else names
    given.flatMap fun name =>
      match t.files.reach (Task.path (if name.isEmpty then ['.'] else name)) with
      | .ok ⟨l, .directory⟩ =>
        let files := filesBelow t.files name l
        (if name.isEmpty then files.map (List.drop 1) else files).filter (admits call)
      | _ => [name]

/-- Searches texts. -/
def run (t : Task) (spelling : Spelling) (call : Task.Call) (patterns : List Octets)
    (names : List Octets) : Work :=
  let patterns := patterns.flatMap (splitAtChar '\n')
  let patterns := if call.has 'P' then patterns.map spelledDigits else patterns
  match combined spelling patterns (call.has 'w') (call.has 'x') with
  | .error .openSet => t.failed "Invalid regular expression".toList 2
  | .error e => t.failed e.message.toList 2
  | .ok regex =>
    let targets := namesFor t call names
    let deep := call.has 'r' || call.has 'R'
    let named := match call.lastOf? "Hh" with
      | some 'H' => true
      | some _ => false
      | none => names.length > 1 || deep
    let q : Query := ⟨call, regex, named⟩
    let start : Work × Bool × Bool :=
      ({ t.begun with input := if Task.readsInput targets then [] else t.input }, false, false)
    let (w, found, _) := targets.foldl (fun (w, found, divides) name =>
      match t.content name with
      | .ok cs =>
        let label := if name == ['-'] then "(standard input)".toList else name
        let (out, here) := q.inText label divides cs
        (w.say 1 out, found || here, divides || !out.isEmpty)
      | .error e =>
        let w := if call.has 's' then w.withStatus 2
          else t.complain w (Task.because name e) 2
        (w, found, divides)) start
    if found && (w.status == 0 || q.isQuiet) then { w with status := 0 }
    else w.withStatus 1

end Search

/-- Shows the lines of texts that patterns match. -/
def Task.search (spelling : Search.Spelling) (t : Task) : Work :=
  let usage : Work := (t.begun.say 2
    ("Usage: ".toList ++ t.program ++ " [OPTION]... PATTERNS [FILE]...\nTry '".toList ++ t.program ++
      " --help' for more information.\n".toList)).withStatus 2
  let spelledOut := t.arguments.flatMap fun a =>
    match a with
    | '-' :: d :: _ => if d.isDigit then [['-', 'C'], a.drop 1] else [a]
    | _ => if "--color".toList.isPrefixOf a then [] else [a]
  match readCall Search.switches true none spelledOut with
  | .error e =>
    { usage with said := (2, t.complaint e) :: usage.said }
  | .ok call =>
    let spelling := match call.lastOf? "EFGP" with
      | some 'E' | some 'P' => .extended
      | some 'F' => .fixed
      | some _ => .basic
      | none => spelling
    let fromFiles := (call.values 'f').map fun name =>
      ((t.content name).toOption.getD []) |> bareLinesOf
    let given := call.values 'e' ++ fromFiles.flatten
    if call.has 'e' || call.has 'f' then Search.run t spelling call given call.operands
    else
      match call.operands with
      | [] => usage
      | pattern :: names => Search.run t spelling call [pattern] names

end LintRelay.Shell
