import LintRelay.Shell.Format
import LintRelay.Shell.Tool.Basic

/-!
# Portions of texts

The tools that show a text as it is or a portion of it: all of it, perhaps with its lines numbered
and its blanks made visible, its front, its end, its lines or columns, or how much there is of it.
-/

namespace LintRelay.Shell
namespace Task

/-! ## Whole texts -/

/-- A character as it is made visible. -/
def visible (c : Char) : Octets :=
  let low (n : Nat) : Octets :=
    if n < 32 then ['^', Char.ofNat (n + 64)]
    else if n == 127 then ['^', '?'] else [Char.ofNat n]
  if c.toNat < 128 then low c.toNat else "M-".toList ++ low (c.toNat - 128)

/-- How far the text has got that is shown line by line. -/
structure LineState where
  number : Nat
  isStart : Bool
  wasEmpty : Bool

/-- One character of a text with the marks that the options ask for. -/
def marked (call : Call) (s : LineState) (c : Char) : Octets × LineState :=
  let any (choice : String) : Bool := (call.lastOf? choice).isSome
  let empty := s.isStart && c == '\n'
  if empty && s.wasEmpty && any "s" then ([], s)
  else
    let numbered := s.isStart && (if any "b" then !empty else any "n")
    let number := if numbered then s.number + 1 else s.number
    let shown :=
      if c == '\n' then if any "AEe" then "$\n".toList else ['\n']
      else if c == '\t' then if any "ATt" then "^I".toList else ['\t']
      else if any "Aetv" then visible c else [c]
    (if numbered then padLeft 6 ' ' (digitsOf number) ++ '\t' :: shown else shown,
      ⟨number, c == '\n', empty⟩)

/-- A text with the marks that the options ask for. -/
def markedText (call : Call) (s : LineState) (cs : Octets) : Octets × LineState :=
  let (out, s) := cs.foldl (fun (out, s) c =>
    let (shown, s) := marked call s c
    (shown.reverse ++ out, s)) ([], s)
  (out.reverse, s)

/-- Shows texts one after the other. -/
def concatenate (t : Task) : Work :=
  let known := letters "tuve" ++ [⟨'A', "show-all", false⟩, ⟨'b', "number-nonblank", false⟩,
    ⟨'E', "show-ends", false⟩, ⟨'n', "number", false⟩, ⟨'s', "squeeze-blank", false⟩,
    ⟨'T', "show-tabs", false⟩, ⟨'v', "show-nonprinting", false⟩]
  t.called known 1 fun call =>
    let names := namesOf call.operands
    let plain := (call.lastOf? "AbeEnstTv").isNone
    let start : Work := { t.begun with input := if readsInput names then [] else t.input }
    (names.foldl (fun (w, s) name =>
      match t.content name with
      | .ok cs =>
        let (shown, s) := if plain then (cs, s) else markedText call s cs
        (w.say 1 shown, s)
      | .error e => (t.complain w (unreadable name e) 1, s))
      (start, (⟨0, true, false⟩ : LineState))).1

/-- Lines in the opposite order. A last line without an end is joined with the line before. -/
def reverseLines (t : Task) : Work :=
  t.called (letters "brs") 1 fun call =>
    let names := namesOf call.operands
    let describe (name : Octets) (e : FileError) : Octets :=
      because ("failed to open ".toList ++ quoted name ++ " for reading".toList) e
    t.through names describe 1 fun w _ _ cs => w.say 1 (linesOf cs).reverse.flatten

/-- Lines with their characters in the opposite order. -/
def reverseCharacters (t : Task) : Work :=
  t.filtered t.arguments fun cs =>
    (linesOf cs).flatMap fun l =>
      (chomped l).reverse ++ if l.getLast? == some '\n' then ['\n'] else []

def number (t : Task) : Work :=
  t.called (letters "p" ++ valued "bdfhilnsvw") 1 fun call =>
    let width := ((call.value? 'w').bind decimal?).getD 6
    let separator := (call.value? 's').getD ['\t']
    let step := ((call.value? 'i').bind decimal?).getD 1
    let first := ((call.value? 'v').bind decimal?).getD 1
    let style := ((call.value? 'b').bind List.head?).getD 't'
    let put (n : Nat) : Octets :=
      match (call.value? 'n').map String.ofList with
      | some "ln" => padRight width ' ' (digitsOf n)
      | some "rz" => padLeft width '0' (digitsOf n)
      | _ => padLeft width ' ' (digitsOf n)
    t.filtered call.operands fun cs =>
      ((bareLinesOf cs).foldl (fun (out, n) l =>
        if style == 'a' || (style == 't' && !l.isEmpty) then
          (out ++ put n ++ separator ++ l ++ ['\n'], n + step)
        else (out ++ List.replicate (width + separator.length) ' ' ++ l ++ ['\n'], n))
        ([], first)).1

/-! ## Fronts and ends -/

/-- How much of a text is meant: lines or octets, and from where they are counted. -/
structure Portion where
  inLines : Bool
  amount : Nat
  /-- Whether the amount is what is left out on the other side. -/
  others : Bool

/-- The portion of a text that a count of lines or octets divides off at its front, and the rest. -/
def Portion.split (p : Portion) (n : Nat) (cs : Octets) : Octets × Octets :=
  if p.inLines then
    let ls := linesOf cs
    ((ls.take n).flatten, (ls.drop n).flatten)
  else (cs.take n, cs.drop n)

/-- The number of lines or octets. -/
def Portion.size (p : Portion) (cs : Octets) : Nat :=
  if p.inLines then (linesOf cs).length else cs.length

def Portion.front (p : Portion) (cs : Octets) : Octets × Octets :=
  p.split (if p.others then p.size cs - p.amount else p.amount) cs

def Portion.back (p : Portion) (cs : Octets) : Octets :=
  (p.split (if p.others then p.amount - 1 else p.size cs - p.amount) cs).2

/-- The factor that a suffix of a count stands for. -/
def suffixFactor? (cs : Octets) : Option Nat :=
  match String.ofList cs with
  | "" => some 1
  | "b" => some 512
  | "kB" => some 1000
  | "k" | "K" | "KiB" => some 1024
  | "MB" => some 1000000
  | "m" | "M" | "MiB" => some 1048576
  | "G" | "GiB" => some 1073741824
  | _ => none

/-- A count with a sign in front, if there is one, and a suffix behind. -/
def count? (cs : Octets) : Option (Option Char × Nat) :=
  let sign := cs.head?.filter fun c => c == '+' || c == '-'
  let body := cs.drop sign.toList.length
  let digits := body.takeWhile Char.isDigit
  match decimal? digits, suffixFactor? (body.drop digits.length) with
  | some n, some factor => some (sign, n * factor)
  | _, _ => none

/-- The options of the tools that show a portion. -/
def portionSwitches : List Switch :=
  [⟨'n', "lines", true⟩, ⟨'c', "bytes", true⟩, ⟨'q', "quiet", false⟩, ⟨'v', "verbose", false⟩]

/-- Arguments in which the short spelling of a count, such as `-5`, is spelled out. -/
def spelledOut (signs : Octets) : List Octets → List Octets
  | (s :: d :: cs) :: as =>
    if signs.contains s && d.isDigit then
      let digits := (d :: cs).takeWhile Char.isDigit
      let letter := if (d :: cs).contains 'c' then 'c' else 'n'
      ['-', letter] :: (if s == '+' then s :: digits else digits) :: as
    else (s :: d :: cs) :: as
  | as => as

/-- Runs a tool on the portion that its options ask for. -/
def portioned (t : Task) (signs : Octets) (mark : Char) (run : Call → Portion → Work) : Work :=
  { t with arguments := spelledOut signs t.arguments }.called portionSwitches 1 fun call =>
    let letter := (call.lastOf? "nc").getD 'n'
    let text := (call.value? letter).getD "10".toList
    match count? text with
    | some (sign, n) => run call ⟨letter == 'n', n, sign == some mark⟩
    | none =>
      let what := if letter == 'n' then "lines" else "bytes"
      t.failed (("invalid number of " ++ what ++ ": ").toList ++ quoted text) 1

/-- Shows a portion of each text, with headings if there are several. -/
def portions (t : Task) (call : Call) (part : Octets → Octets) : Work :=
  let names := namesOf call.operands
  let headed := call.has 'v' || (names.length > 1 && !call.has 'q')
  let describe (name : Octets) (e : FileError) : Octets :=
    match e with
    | .isDirectory => because ("error reading ".toList ++ quoted name) e
    | _ => because ("cannot open ".toList ++ quoted name ++ " for reading".toList) e
  t.through names describe 1 fun w n name cs =>
    let label := if name == ['-'] then "standard input".toList else name
    let heading := if n == 0 then [] else ['\n']
    let w := if headed then w.say 1 (heading ++ "==> ".toList ++ label ++ " <==\n".toList) else w
    w.say 1 (part cs)

/-- Shows the front of texts. What a pipe holds behind it is lost as far as it was read ahead. A
device of endless zeros can be read so. -/
def head (t : Task) : Work :=
  t.portioned ['-'] '-' fun call p =>
    if call.operands == ["/dev/zero".toList] && !p.inLines then
      t.done (List.replicate p.amount '\x00')
    else
      let w := t.portions call fun cs => (p.front cs).1
      if readsInput (namesOf call.operands) then
        { w with input := if t.inputIsFile then (p.front t.input).2 else t.input.drop 8192 }
      else w

/-- Shows the end of texts. -/
def tail (t : Task) : Work := t.portioned ['-', '+'] '+' fun call p => t.portions call p.back

/-! ## Counts -/

/-- The number of runs of characters that are not white space. -/
def wordCount (cs : Octets) : Nat :=
  (cs.foldl (fun (n, inside) c =>
    if isSpace c then (n, false) else (if inside then n else n + 1, true)) (0, false)).1

/-- The counts of a text that the options ask for: lines, words, characters, octets and the length
of the longest line. -/
def counts (call : Call) (cs : Octets) : List Nat :=
  let wanted := if call.options.isEmpty then ['l', 'w', 'c'] else call.options.map (·.1)
  let pick (letter : Char) (n : Nat) : List Nat := if wanted.contains letter then [n] else []
  pick 'l' (cs.count '\n') ++ pick 'w' (wordCount cs) ++ pick 'm' cs.length ++
    pick 'c' cs.length ++ pick 'L' (((bareLinesOf cs).map List.length).foldl max 0)

/-- Counts lines, words and octets. The columns are as wide as the size of all files needs. -/
def count (t : Task) : Work :=
  let known : List Switch := [⟨'l', "lines", false⟩, ⟨'w', "words", false⟩, ⟨'m', "chars", false⟩,
    ⟨'c', "bytes", false⟩, ⟨'L', "max-line-length", false⟩]
  t.called known 1 fun call =>
    let names := namesOf call.operands
    let isFile (name : Octets) : Bool :=
      if name == ['-'] then t.inputIsFile else t.files.isFile (path name)
    let there (name : Octets) : Bool :=
      name == ['-'] || (t.files.reach (path name)).toOption.isSome
    let size := names.foldl (fun n name =>
      if isFile name then n + (((t.content name).toOption).getD []).length else n) 0
    let single := names.length == 1 && (counts call []).length == 1
    let width :=
      if single || !(names.head?.all there) then 1
      else
        max (digitsOf size).length (if names.all fun n => isFile n || !there n then 1 else 7)
    let row (ns : List Nat) (name : Octets) : Octets :=
      spaced (ns.map fun n => padLeft width ' ' (digitsOf n)) ++
        (if name.isEmpty then [] else ' ' :: name) ++ ['\n']
    let label (name : Octets) : Octets := if call.operands.isEmpty then [] else name
    let w := names.foldl (fun (w : Work) name =>
      match t.content name with
      | .ok cs => w.say 1 (row (counts call cs) (label name))
      | .error e =>
        let w := t.complain w (unreadable name e) 1
        if e == .isDirectory then w.say 1 (row ((counts call []).map fun _ => 0) name) else w)
      { t.begun with input := if readsInput names then [] else t.input }
    let all := names.filterMap fun name => (t.content name).toOption
    let total := all.foldl (fun (sums : List Nat) cs => List.zipWith (· + ·) sums (counts call cs))
      ((counts call []).map fun _ => 0)
    if names.length > 1 then w.say 1 (row total "total".toList) else w

/-! ## Columns -/

/-- The ranges of a list such as `1,3-5,7-`; a range without an end has no bound. -/
def rangeList? (cs : Octets) : Option (List (Nat × Option Nat)) :=
  (splitAtChar ',' cs).mapM fun part =>
    match splitAtChar '-' part with
    | [a] => (decimal? a).map fun n => (n, some n)
    | [[], b] => (decimal? b).map fun n => (1, some n)
    | [a, []] => (decimal? a).map fun n => (n, none)
    | [a, b] => (decimal? a).bind fun n => (decimal? b).map fun m => (n, some m)
    | _ => none

/-- Whether a place, counted from one, is in one of the ranges. -/
def inRanges (rs : List (Nat × Option Nat)) (n : Nat) : Bool :=
  rs.any fun (a, b) => a ≤ n && b.all fun b => n ≤ b

/-- The members of a list whose places are chosen, in runs of neighbours. -/
def chosenRuns (chosen : Nat → Bool) (xs : List α) : List (List α) :=
  let runs := (xs.zipIdx 1).foldl (fun (runs, open') (x, n) =>
    if !chosen n then (runs, false)
    else
      match runs, open' with
      | run :: rest, true => ((x :: run) :: rest, true)
      | runs, _ => ([x] :: runs, true)) (([] : List (List α)), false)
  (runs.1.map List.reverse).reverse

/-- Shows columns of the lines: octets, or fields that a character divides. -/
def cut (t : Task) : Work :=
  let known : List Switch := [⟨'b', "bytes", true⟩, ⟨'c', "characters", true⟩, ⟨'f', "fields", true⟩,
    ⟨'d', "delimiter", true⟩, ⟨'s', "only-delimited", false⟩, ⟨'C', "complement", false⟩,
    ⟨'o', "output-delimiter", true⟩, ⟨'n', "", false⟩, ⟨'z', "zero-terminated", false⟩]
  t.called known 1 fun call =>
    match call.lastOf? "bcf" with
    | none => t.misused "you must specify a list of bytes, characters, or fields".toList 1
    | some kind =>
      let text := (call.value? kind).getD []
      let delimiter := ((call.value? 'd').bind List.head?).getD '\t'
      match rangeList? text with
      | none =>
        t.misused ((if kind == 'f' then "invalid field value " else "invalid byte or field list ").toList
          ++ quoted text) 1
      | some ranges =>
        if ranges.any fun r => r.1 == 0 || r.2 == some 0 then
          t.misused (if kind == 'f' then "fields are numbered from 1".toList
            else "byte/character positions are numbered from 1".toList) 1
        else if ranges.any fun r => r.2.any fun b => b < r.1 then
          t.misused "invalid decreasing range".toList 1
        else if ((call.value? 'd').getD ['\t']).length > 1 then
          t.misused "the delimiter must be a single character".toList 1
        else
          let chosen (n : Nat) : Bool := inRanges ranges n != call.has 'C'
          let line (l : Octets) : List Octets :=
            if kind == 'f' then
              if !l.contains delimiter then if call.has 's' then [] else [l]
              else
                let divider := (call.value? 'o').getD [delimiter]
                [divider.intercalate (chosenRuns chosen (splitAtChar delimiter l)).flatten]
            else [((call.value? 'o').getD []).intercalate (chosenRuns chosen l)]
          t.filtered call.operands fun cs => textOfLines ((bareLinesOf cs).flatMap line)

/-- Lines cut to a width. Only with `atBlanks` a line is cut behind a blank if it has one. -/
def foldedLine (width : Nat) (atBlanks : Bool) : Nat → Octets → Octets
  | 0, l => l
  | fuel + 1, l =>
    if l.length ≤ width || width == 0 then l
    else
      let front := l.take width
      let toBlank := dropEndWhile (fun c => c != ' ' && c != '\t') front
      let front := if atBlanks && !toBlank.isEmpty then toBlank else front
      front ++ '\n' :: foldedLine width atBlanks fuel (l.drop front.length)

/-- Cuts lines to a width. -/
def fold (t : Task) : Work :=
  t.called (letters "bs" ++ [⟨'w', "width", true⟩]) 1 fun call =>
    let width := ((call.value? 'w').bind decimal?).getD 80
    t.filtered call.operands fun cs =>
      (linesOf cs).flatMap fun l =>
        foldedLine width (call.has 's') l.length (chomped l) ++
          if l.getLast? == some '\n' then ['\n'] else []

/-- Puts blanks in place of tabs. -/
def expandTabs (t : Task) : Work :=
  t.called (letters "i" ++ [⟨'t', "tabs", true⟩]) 1 fun call =>
    let width := max 1 (((call.value? 't').bind decimal?).getD 8)
    t.filtered call.operands fun cs =>
      (cs.foldl (fun (out, column) c =>
        if c == '\t' then
          let n := width - column % width
          (List.replicate n ' ' ++ out, column + n)
        else (c :: out, if c == '\n' then 0 else column + 1)) (([] : Octets), 0)).1.reverse

/-- Puts the lines of several texts side by side, or with `-s` the lines of each on one line. -/
def paste (t : Task) : Work :=
  t.called (letters "z" ++ [⟨'d', "delimiters", true⟩, ⟨'s', "serial", false⟩]) 1 fun call =>
    let dividers := (expandEscapes 0 ((call.value? 'd').getD ['\t'])).1
    let divider (n : Nat) : Octets :=
      if dividers.isEmpty then []
      else
        match dividers.getD (n % dividers.length) '\t' with
        | c => [c]
    let joined (fs : List Octets) : Octets :=
      (fs.zipIdx.flatMap fun (f, n) => f ++ if n + 1 < fs.length then divider n else []) ++ ['\n']
    let names := namesOf call.operands
    match names.mapM fun name => (t.content name).map fun cs => (name, bareLinesOf cs) with
    | .error _ =>
      let missing := names.findSome? fun name =>
        match t.content name with
        | .error e => some (unreadable name e)
        | .ok _ => none
      t.failed (missing.getD []) 1
    | .ok texts =>
      let w : Work := { t.begun with input := if readsInput names then [] else t.input }
      if call.has 's' then w.say 1 (texts.flatMap fun x => joined x.2)
      else
        let shares := (names.filter (· == ['-'])).length
        let columns := texts.zipIdx.map fun ((name, ls), n) =>
          if name == ['-'] then
            let before := ((names.take n).filter (· == ['-'])).length
            (ls.zipIdx.filter fun (_, i) => i % shares == before).map (·.1)
          else ls
        let height := (columns.map List.length).foldl max 0
        w.say 1 ((List.range height).flatMap fun i => joined (columns.map (·.getD i [])))

end Task
end LintRelay.Shell
