import LintRelay.Shell.Tool.Regex

/-!
# Editing scripts

A script of the stream editor is a list of instructions. Each has addresses that say for which lines
it is carried out, and an action. Blocks and branches are jumps in the list.
-/

namespace LintRelay.Shell
namespace Editing

/-- A pattern; an empty one stands for the last one that was used. -/
structure LinePattern where
  regex : Option Regex
  ignoreCase : Bool

/-- What selects a line. -/
inductive Address where
  | line (n : Nat)
  /-- Every `step`-th line from the line `first` on. -/
  | every (first step : Nat)
  | last
  | matching (p : LinePattern)

/-- Where a range of lines ends that began with a selected one. -/
inductive RangeEnd where
  | at (a : Address)
  | after (n : Nat)
  | multiple (n : Nat)

/-- How letters of a replacement are changed. -/
inductive CaseChange where
  | none
  | upper
  | lower
  deriving Repr, DecidableEq

inductive ReplacementPart where
  | text (cs : Octets)
  /-- What a group matched; group zero is the whole match. -/
  | group (n : Nat)
  /-- Changes the letters that follow. -/
  | case (c : CaseChange)
  | nextCase (c : CaseChange)

/-- What is replaced, and by what. -/
structure Substitution where
  pattern : LinePattern
  replacement : List ReplacementPart
  /-- Which of the matches is replaced first. -/
  nth : Nat
  all : Bool
  prints : Bool
  file : Option Octets

/-- What an instruction does. -/
inductive Action where
  /-- Passes over the instructions up to this place where the addresses do not select the line. -/
  | block (stop : Nat)
  | nothing
  | substitute (s : Substitution)
  | transliterate (from' to' : Octets)
  | delete
  | deleteFirst
  | print
  | printFirst
  | next
  | appendNext
  | hold (append : Bool)
  | get (append : Bool)
  | exchange
  | quit (status : Nat) (silent : Bool)
  | lineNumber
  | append (text : Octets)
  | insert (text : Octets)
  | change (text : Octets)
  | branch (place : Nat)
  | branchIf (replaced : Bool) (place : Nat)
  | readFile (name : Octets)
  | writeFile (name : Octets)
  | list
  | fileName
  | empty

structure Instruction where
  first : Option Address
  second : Option RangeEnd
  negated : Bool
  action : Action

/-! ## Reading -/

/-- Why a script cannot be read, and how much of it was read. -/
structure Fault where
  message : Octets
  /-- The length of what was not read. -/
  left : Nat

/-- Reads something from the front of a script. -/
abbrev Reading (α : Type) := StateT Octets (Except Fault) α

/-- A place that a jump names, before places are known. -/
inductive Jump where
  | none
  | label (name : Octets)
  | branch (name : Octets)
  | branchIf (replaced : Bool) (name : Octets)
  | openBlock
  | closeBlock

/-- An instruction with the jump that it stands for. -/
structure Draft where
  instruction : Instruction
  jump : Jump

namespace Reading

/-- Fails at the current place. -/
def refuse (message : String) : Reading α := do
  throw ⟨message.toList, (← get).length⟩

def skipBlanks : Reading Unit := modify fun cs => cs.dropWhile fun c => c == ' ' || c == '\t'

/-- Takes a number, if one stands here. -/
def number? : Reading (Option Nat) := do
  let digits := (← get).takeWhile Char.isDigit
  modify (List.drop digits.length)
  return decimal? digits

/-- Takes a character if it stands here. -/
def accept (c : Char) : Reading Bool := do
  match ← get with
  | d :: rest =>
    if c == d then set rest
    return c == d
  | [] => return false

/-- The text up to an unprotected delimiter. A protected delimiter stands for itself, other
protections are kept. In a set of an expression the delimiter needs no protection. -/
def delimited (delimiter : Char) (isRegex : Bool) : Nat → Bool → Octets → Octets → Option (Octets × Octets)
  | 0, _, _, _ => none
  | _, _, _, [] => none
  | fuel + 1, inSet, acc, c :: cs =>
    if c == '\\' then
      match cs with
      | [] => none
      | d :: rest =>
        if d == delimiter && !inSet then
          delimited delimiter isRegex fuel inSet (d :: acc) rest
        else if d == 'n' && isRegex then delimited delimiter isRegex fuel inSet ('\n' :: acc) rest
        else if inSet then
          if d == 't' then delimited delimiter isRegex fuel inSet ('\t' :: acc) rest
          else delimited delimiter isRegex fuel inSet ('\\' :: acc) (d :: rest)
        else delimited delimiter isRegex fuel inSet (d :: '\\' :: acc) rest
    else if c == delimiter && !inSet then some (acc.reverse, cs)
    else if isRegex && !inSet && c == '[' then
      -- A bracket at the front of a set is a member of it.
      let lead := if cs.head? == some '^' then ['^'] else []
      let behind := cs.drop lead.length
      let lead := if behind.head? == some ']' then lead ++ [']'] else lead
      delimited delimiter isRegex fuel true (lead.reverse ++ c :: acc) (cs.drop lead.length)
    else if inSet && c == '[' && cs.head?.any (":.=".toList.contains ·) then
      let mark := cs.headD ':'
      let body := (cs.drop 1).takeWhile (· != mark)
      let part := mark :: body ++ [mark, ']']
      if part.isPrefixOf cs then
        delimited delimiter isRegex fuel true (part.reverse ++ c :: acc) (cs.drop part.length)
      else delimited delimiter isRegex fuel true (c :: acc) cs
    else delimited delimiter isRegex fuel (inSet && c != ']') (c :: acc) cs

/-- The expression that a text spells. -/
def pattern (extended : Bool) (cs : Octets) (ignoreCase : Bool) : Reading LinePattern := do
  if cs.isEmpty then return ⟨none, ignoreCase⟩
  match Regex.read extended cs with
  | .ok r => return ⟨some r, ignoreCase⟩
  | .error e => refuse e.message

def address? (extended : Bool) : Reading (Option Address) := do
  match ← get with
  | '$' :: rest =>
    set rest
    return some .last
  | c :: rest =>
    if c.isDigit then
      let n := (← number?).getD 0
      if ← accept '~' then return some (.every n ((← number?).getD 0))
      return some (.line n)
    else if c == '/' || c == '\\' then
      let (delimiter, rest) := if c == '/' then (c, rest) else (rest.headD '/', rest.drop 1)
      match delimited delimiter true (rest.length + 1) false [] rest with
      | none => refuse "unterminated address regex"
      | some (text, rest) =>
        let flags := rest.takeWhile fun c => c == 'I' || c == 'M'
        set (rest.drop flags.length)
        return some (.matching (← pattern extended text (flags.contains 'I')))
    else return none
  | [] => return none

/-- The end of a range, behind its comma. -/
def rangeEnd (extended : Bool) : Reading RangeEnd := do
  skipBlanks
  if ← accept '+' then return .after ((← number?).getD 0)
  if ← accept '~' then return .multiple ((← number?).getD 0)
  match ← address? extended with
  | some a => return .at a
  | none => refuse "unexpected `,'"

def replacementParts : Nat → Octets → List ReplacementPart
  | _, [] => []
  | skip + 1, _ :: cs => replacementParts skip cs
  | 0, '&' :: cs => .group 0 :: replacementParts 0 cs
  | 0, '\\' :: d :: cs =>
    let part : ReplacementPart := match d with
      | 'n' => .text ['\n']
      | 't' => .text ['\t']
      | 'U' => .case .upper
      | 'L' => .case .lower
      | 'E' => .case .none
      | 'u' => .nextCase .upper
      | 'l' => .nextCase .lower
      | d => if d.isDigit then .group (digitValue d) else .text [d]
    part :: replacementParts 1 (d :: cs)
  | 0, c :: cs => .text [c] :: replacementParts 0 cs

/-- A replacement up to its delimiter. A protected delimiter stands for itself. -/
def replacementText (delimiter : Char) : Nat → Octets → Octets → Option (Octets × Octets)
  | 0, _, _ => none
  | _, _, [] => none
  | fuel + 1, acc, c :: cs =>
    if c == '\\' then
      match cs with
      | [] => none
      | d :: rest =>
        let kept := if d == delimiter && d != '&' && !d.isDigit then [d] else [d, '\\']
        replacementText delimiter fuel (kept ++ acc) rest
    else if c == delimiter then some (acc.reverse, cs)
    else replacementText delimiter fuel (c :: acc) cs

/-- The rest of the line as the name of a file. -/
def name : Reading Octets := do
  skipBlanks
  let cs ← get
  let line := cs.takeWhile (· != '\n')
  set (cs.drop line.length)
  if line.isEmpty then refuse "missing filename in r/R/w/W commands"
  return line

/-- The flags behind a replacement. -/
def flags : Nat → Substitution → Reading Substitution
  | 0, s => return s
  | fuel + 1, s => do
    match ← get with
    | [] => return s
    | c :: rest =>
      if c.isDigit then
        let n := (← number?).getD 0
        if n == 0 then refuse "number option to `s' command may not be zero"
        flags fuel { s with nth := n }
      else
        match c with
        | 'g' =>
          set rest
          if s.all then refuse "multiple `g' options to `s' command"
          flags fuel { s with all := true }
        | 'p' =>
          set rest
          if s.prints then refuse "multiple `p' options to `s' command"
          flags fuel { s with prints := true }
        | 'i' | 'I' =>
          set rest
          flags fuel { s with pattern := { s.pattern with ignoreCase := true } }
        | 'm' | 'M' | 'e' =>
          set rest
          flags fuel s
        | 'w' =>
          set rest
          return { s with file := some (← name) }
        | _ =>
          if "\n;#\x7d \t".toList.contains c then return s
          set rest
          refuse "unknown option to `s'"

/-- A substitution, behind its letter. -/
def substitution (extended : Bool) : Reading Substitution := do
  match ← get with
  | [] => refuse "unterminated `s' command"
  | delimiter :: rest =>
    let end' : Reading (Octets × Octets) := do
      set ([] : Octets)
      refuse "unterminated `s' command"
    let (text, rest) ← match delimited delimiter true (rest.length + 1) false [] rest with
      | some r => pure r
      | none => end'
    let (replacement, rest) ← match replacementText delimiter (rest.length + 1) [] rest with
      | some r => pure r
      | none => end'
    set rest
    let start : Substitution :=
      ⟨⟨none, false⟩, replacementParts 0 replacement, 1, false, false, none⟩
    let s ← flags (rest.length + 1) start
    return { s with pattern := ← pattern extended text s.pattern.ignoreCase }

/-- The text of an instruction that adds lines: the rest of the line, and further lines behind
backslashes. -/
def addedText : Reading Octets := do
  skipBlanks
  let cs ← get
  let cs ← match cs with
    | '\\' :: rest =>
      match rest.dropWhile fun c => c == ' ' || c == '\t' with
      | '\n' :: more => pure more
      | _ => pure rest
    | cs => pure cs
  if cs.isEmpty && (← get).isEmpty then refuse "expected \\ after `a', `c' or `i'"
  let (text, rest) := lines (cs.length + 1) cs
  set rest
  return if cs.isEmpty then [] else text ++ ['\n']
where
  /-- The text up to a line end without a backslash in front. -/
  lines : Nat → Octets → Octets × Octets
    | 0, cs => ([], cs)
    | _, [] => ([], [])
    | fuel + 1, '\\' :: c :: cs =>
      let (text, rest) := lines fuel cs
      (c :: text, rest)
    | fuel + 1, c :: cs =>
      if c == '\n' then ([], cs)
      else
        let (text, rest) := lines fuel cs
        (c :: text, rest)

/-- A label: the text up to a semicolon or the end of the line. -/
def label : Reading Octets := do
  skipBlanks
  let cs ← get
  let text := cs.takeWhile fun c => c != '\n' && c != ';' && c != '\x7d'
  set (cs.drop text.length)
  return dropEndWhile (fun c => c == ' ' || c == '\t') text

/-- What `y` does. -/
def transliteration : Reading Action := do
  match ← get with
  | [] => refuse "unterminated `y' command"
  | delimiter :: rest =>
    match delimited delimiter false (rest.length + 1) false [] rest with
    | none => refuse "unterminated `y' command"
    | some (a, rest) =>
      match delimited delimiter false (rest.length + 1) false [] rest with
      | none => refuse "unterminated `y' command"
      | some (b, rest) =>
        set rest
        let a := plain a
        let b := plain b
        if a.length != b.length then
          refuse "strings for `y' command are different lengths"
        return .transliterate a b
where
  /-- A text with its protections resolved. -/
  plain : Octets → Octets
    | '\\' :: 'n' :: cs => '\n' :: plain cs
    | '\\' :: c :: cs => c :: plain cs
    | c :: cs => c :: plain cs
    | [] => []

/-- The action of an instruction, by its letter. -/
def action (extended : Bool) (letter : Char) : Reading (Action × Jump) := do
  let plain (a : Action) : Reading (Action × Jump) := return (a, .none)
  match letter with
  | '\x7b' => return (.nothing, .openBlock)
  | '\x7d' => return (.nothing, .closeBlock)
  | 's' => plain (.substitute (← substitution extended))
  | 'y' => plain (← transliteration)
  | 'd' => plain .delete
  | 'D' => plain .deleteFirst
  | 'p' => plain .print
  | 'P' => plain .printFirst
  | 'n' => plain .next
  | 'N' => plain .appendNext
  | 'h' => plain (.hold false)
  | 'H' => plain (.hold true)
  | 'g' => plain (.get false)
  | 'G' => plain (.get true)
  | 'x' => plain .exchange
  | 'q' | 'Q' => do
    skipBlanks
    plain (.quit ((← number?).getD 0) (letter == 'Q'))
  | '=' => plain .lineNumber
  | 'a' => plain (.append (← addedText))
  | 'i' => plain (.insert (← addedText))
  | 'c' => plain (.change (← addedText))
  | ':' => do
    let l ← label
    if l.isEmpty then refuse "\":\" lacks a label"
    return (.nothing, .label l)
  | 'b' => return (.nothing, .branch (← label))
  | 't' => return (.nothing, .branchIf true (← label))
  | 'T' => return (.nothing, .branchIf false (← label))
  | 'r' => plain (.readFile (← name))
  | 'w' => plain (.writeFile (← name))
  | 'l' => plain .list
  | 'F' => plain .fileName
  | 'z' => plain .empty
  | 'v' => do
    let _ ← label
    plain .nothing
  | _ => refuse ("unknown command: `" ++ String.ofList [letter] ++ "'")

/-- Whether an instruction with this letter takes the rest of its line. -/
def takesLine (letter : Char) : Bool := "aicrw:".toList.contains letter

/-- What may stand behind an instruction. -/
def finish (letter : Char) : Reading Unit := do
  skipBlanks
  match ← get with
  | [] => return
  | c :: rest =>
    if c == '\n' || c == ';' then set rest
    else if c == '#' || c == '\x7d' || letter == '\x7b' || takesLine letter then return
    else
      set rest
      refuse "extra characters after command"

/-- The instructions of a script. `depth` is the number of open blocks. -/
def drafts (extended : Bool) : Nat → Nat → Reading (List Draft)
  | 0, _ => return []
  | fuel + 1, depth => do
    modify fun cs => cs.dropWhile fun c => isSpace c || c == ';'
    match ← get with
    | [] =>
      if depth > 0 then throw ⟨"unmatched `\x7b'".toList, 0⟩
      return []
    | '#' :: rest =>
      set (rest.dropWhile (· != '\n'))
      drafts extended fuel depth
    | _ =>
      let first ← address? extended
      skipBlanks
      let second ←
        if first.isSome then
          if ← accept ',' then pure (some (← rangeEnd extended)) else pure none
        else pure none
      skipBlanks
      let negated ← accept '!'
      modify fun cs => cs.dropWhile fun c => c == ' ' || c == '\t' || c == '!'
      match ← get with
      | [] => refuse "missing command"
      | letter :: rest =>
        set rest
        if letter == '\x7d' && depth == 0 then refuse "unexpected `\x7d'"
        if letter == ',' then refuse "unexpected `,'"
        let (a, jump) ← action extended letter
        finish letter
        let depth := match jump with
          | .openBlock => depth + 1
          | .closeBlock => depth - 1
          | _ => depth
        return ⟨⟨first, second, negated, a⟩, jump⟩ :: (← drafts extended fuel depth)

end Reading

/-- The place of the brace that closes the block behind the given place. -/
def closing : Nat → Nat → List Draft → Nat
  | place, _, [] => place
  | place, depth, d :: ds =>
    match d.jump, depth with
    | .openBlock, _ => closing (place + 1) (depth + 1) ds
    | .closeBlock, 0 => place
    | .closeBlock, depth + 1 => closing (place + 1) depth ds
    | _, _ => closing (place + 1) depth ds

/-- The instructions with the places that their jumps name, or the label that is missing. -/
def resolve (ds : List Draft) : Except Octets (List Instruction) :=
  let place? (name : Octets) : Except Octets Nat :=
    if name.isEmpty then .ok ds.length
    else
      match ds.findIdx? fun d => (match d.jump with | .label l => l == name | _ => false) with
      | some n => .ok n
      | none => .error name
  ds.zipIdx.mapM fun (d, n) => do
    let a ← match d.jump with
      | .branch name => pure (.branch (← place? name))
      | .branchIf replaced name => pure (.branchIf replaced (← place? name))
      | .openBlock => pure (.block (closing (n + 1) 0 (ds.drop (n + 1))))
      | _ => pure d.instruction.action
    return { d.instruction with action := a }

end Editing
end LintRelay.Shell
