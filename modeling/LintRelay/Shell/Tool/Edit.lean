import LintRelay.Shell.Tool.Basic
import LintRelay.Shell.Tool.Editing

/-!
# Editing lines

The tool that edits the lines of texts by a script. It works in cycles: a line is read, the
instructions are carried out one after the other, and what became of the line is printed.
-/

namespace LintRelay.Shell
namespace Editing

/-- How the tool was called. -/
structure Setting where
  program : Array Instruction
  /-- Whether lines are only printed where the script says so. -/
  quiet : Bool
  lineEnd : Char

/-- What happens while lines are edited. -/
structure Session where
  space : Octets
  held : Octets
  /-- Whether the line in the space had a line end, and whether the one that is held had. -/
  ended : Bool
  heldEnded : Bool
  line : Nat
  file : Octets
  rest : List (Octets × Octets)
  /-- What was printed, the last first. -/
  out : List Octets
  /-- Whether a line end is still to be printed before anything else. -/
  owesEnd : Bool
  queue : List (Octets × Bool)
  replaced : Bool
  /-- The ranges that have begun, by their instructions, with the line at which they end if it is
  known. -/
  ranges : List (Nat × Option Nat)
  lastRegex : Option Regex
  files : FileTree
  status : Option Nat

/-- What comes after an instruction. -/
inductive Turn where
  | goOn
  | jump (place : Nat)
  /-- The cycle ends, and the line is printed unless told not to. -/
  | finish (prints : Bool)
  /-- A cycle begins without another line. -/
  | again
  | quit (prints : Bool)

namespace Session

/-- Prints the line end that is owed. -/
def pay (c : Setting) (s : Session) : Session :=
  if s.owesEnd then { s with out := [c.lineEnd] :: s.out, owesEnd := false } else s

/-- Prints a text. -/
def emit (c : Setting) (s : Session) (cs : Octets) : Session :=
  if cs.isEmpty then s
  else
    let s := s.pay c
    { s with out := cs :: s.out }

/-- Prints a line, or a text that is owed its line end. -/
def printText (c : Setting) (s : Session) (cs : Octets) (ended : Bool) : Session :=
  let s := s.pay c
  if ended then { s with out := [c.lineEnd] :: cs :: s.out }
  else { s with out := cs :: s.out, owesEnd := true }

/-- Prints a line as the one in the space ended. -/
def printLine (c : Setting) (s : Session) (cs : Octets) : Session := s.printText c cs s.ended

/-- Prints what waits for the end of the cycle. -/
def flush (c : Setting) (s : Session) : Session :=
  let s := s.queue.foldl (fun s (text, isFile) =>
    if isFile then
      match s.files.read (Task.path text) with
      | .ok content => s.emit c (octetsOf content)
      | .error _ => s
    else s.emit c text) s
  { s with queue := [] }

/-- Reads the next line into the space. -/
def readLine (c : Setting) (s : Session) : Option Session :=
  match s.rest with
  | [] => none
  | (l, file) :: rest =>
    let ended := l.getLast? == some c.lineEnd
    some { s with
      space := if ended then l.dropLast else l
      ended
      file
      rest
      line := s.line + 1 }

/-- The expression of a pattern, which is then the last one that was used. -/
def use (s : Session) (p : LinePattern) : Option Regex × Session :=
  match p.regex with
  | some r => (some r, { s with lastRegex := some r })
  | none => (s.lastRegex, s)

/-- Whether an address selects the line. -/
def selects (s : Session) : Address → Bool × Session
  | .line n => (s.line == n, s)
  | .every first step =>
    (if step == 0 then s.line == first else s.line ≥ first && (s.line - first) % step == 0, s)
  | .last => (s.rest.isEmpty, s)
  | .matching p =>
    let (r, s) := s.use p
    (r.any fun r => (r.search p.ignoreCase s.space 0).isSome, s)

/-- Takes a range to be over. -/
def closed (s : Session) (place : Nat) : Session :=
  { s with ranges := s.ranges.filter (·.1 != place) }

/-- Takes a range to have begun. -/
def opened (s : Session) (place : Nat) (stop : Option Nat) : Session :=
  { s with ranges := (place, stop) :: s.ranges }

/-- Whether the addresses of an instruction select the line. -/
def selected (s : Session) (place : Nat) (i : Instruction) : Bool × Session :=
  match i.first, i.second with
  | none, _ => (true, s)
  | some a, none => s.selects a
  | some a, some stop =>
    match s.ranges.find? (·.1 == place) with
    | some (_, some n) =>
      let s := if s.line ≥ n then s.closed place else s
      (s.line ≤ n, s)
    | some (_, none) =>
      match stop with
      | .at b =>
        let (here, s) := s.selects b
        (true, if here then s.closed place else s)
      | _ => (true, s)
    | none =>
      let (here, s) := s.selects a
      if !here then (false, s)
      else
        let until' (n : Nat) : Bool × Session :=
          (true, if n ≤ s.line then s else s.opened place (some n))
        match stop with
        | .at (.line n) => until' n
        | .after n => until' (s.line + n)
        | .multiple n => until' (if n == 0 then s.line else (s.line + n - 1) / n * n)
        | .at .last => (true, if s.rest.isEmpty then s else s.opened place none)
        | .at _ => (true, s.opened place none)

/-- Writes a line behind a file. -/
def writeTo (c : Setting) (s : Session) (name : Octets) (l : Octets) : Session :=
  if name == "/dev/stdout".toList then s.printLine c l
  else
    let old := ((s.files.read (Task.path name)).toOption).getD []
    let new := old ++ bytesOfOctets (l ++ [c.lineEnd])
    { s with files := s.files.change (.write (Task.path name) new false) }

end Session

def CaseChange.apply : CaseChange → Octets → Octets
  | .none, cs => cs
  | .upper, cs => cs.map Char.toUpper
  | .lower, cs => cs.map Char.toLower

/-- A replacement for a match. `always` is the change of all letters, `once` that of the next. -/
def replacementFor (m : Regex.Match) (text : Octets) (always once : CaseChange) :
    List ReplacementPart → Octets
  | [] => []
  | .case c :: ps => replacementFor m text c once ps
  | .nextCase c :: ps => replacementFor m text always c ps
  | .text cs :: ps => put cs ps
  | .group n :: ps => put (m.group text n) ps
where
  /-- Puts a text in front of the rest. -/
  put (cs : Octets) (ps : List ReplacementPart) : Octets :=
    match cs with
    | [] => replacementFor m text always once ps
    | c :: rest =>
      let first := if once == .none then always.apply [c] else once.apply [c]
      first ++ always.apply rest ++ replacementFor m text always .none ps

/-- The text with its matches replaced from the `nth` on, and whether there were any. -/
def Substitution.apply (s : Substitution) (r : Regex) (text : Octets) : Octets × Bool :=
  let ms := (r.allMatches s.pattern.ignoreCase text).drop (s.nth - 1)
  let ms := if s.all then ms else ms.take 1
  let (out, last) := ms.foldl (fun (out, last) m =>
    (out ++ (text.take m.start).drop last ++ replacementFor m text .none .none s.replacement,
      m.stop)) (([] : Octets), 0)
  (out ++ text.drop last, !ms.isEmpty)

/-- A text with its special characters spelled out, cut into lines. -/
def spelled (cs : Octets) : Octets :=
  let one (c : Char) : Octets :=
    match c with
    | '\\' => "\\\\".toList
    | '\x07' => "\\a".toList
    | '\x08' => "\\b".toList
    | '\x0c' => "\\f".toList
    | '\n' => "\\n".toList
    | '\r' => "\\r".toList
    | '\t' => "\\t".toList
    | '\x0b' => "\\v".toList
    | c =>
      if ' ' ≤ c && c ≤ '~' then [c]
      else '\\' :: padLeft 3 '0' (Nat.toDigits 8 c.toNat)
  let (lines, last) := cs.foldl (fun (lines, current) c =>
    let part := one c
    if current.length + part.length > 69 then (lines ++ current ++ "\\\n".toList, part)
    else (lines, current ++ part)) (([] : Octets), ([] : Octets))
  lines ++ last ++ ['$']

/-- Carries out an action. `inRange` says that a range goes on behind the line. -/
def act (c : Setting) (inRange : Bool) (a : Action) (s : Session) : Session × Turn :=
  match a with
  | .nothing | .block _ => (s, .goOn)
  | .substitute sub =>
    match s.use sub.pattern with
    | (none, s) => (s, .goOn)
    | (some r, s) =>
      let (space, any) := sub.apply r s.space
      if !any then (s, .goOn)
      else
        let s := { s with space, replaced := true }
        let s := if sub.prints then s.printLine c space else s
        let s := match sub.file with
          | some name => s.writeTo c name space
          | none => s
        (s, .goOn)
  | .transliterate a b =>
    let one (x : Char) : Char :=
      match a.idxOf? x with
      | some n => b.getD n x
      | none => x
    ({ s with space := s.space.map one }, .goOn)
  | .delete => (s, .finish false)
  | .deleteFirst =>
    if s.space.contains '\n' then
      ({ s with space := (s.space.dropWhile (· != '\n')).drop 1 }, .again)
    else (s, .finish false)
  | .print => (s.printLine c s.space, .goOn)
  | .printFirst =>
    let first := s.space.takeWhile (· != '\n')
    (s.printText c first (s.ended || first.length < s.space.length), .goOn)
  | .next =>
    if s.rest.isEmpty then (s, .quit true)
    else
      let s := (if c.quiet then s else s.printLine c s.space).flush c
      ((s.readLine c).getD s, .goOn)
  | .appendNext =>
    if s.rest.isEmpty then (s, .quit true)
    else
      let before := s.space
      let s := s.flush c
      let s := (s.readLine c).getD s
      ({ s with space := before ++ '\n' :: s.space }, .goOn)
  | .hold append =>
    if append then ({ s with held := s.held ++ '\n' :: s.space, heldEnded := s.ended }, .goOn)
    else ({ s with held := s.space, heldEnded := s.ended }, .goOn)
  | .get append =>
    if append then ({ s with space := s.space ++ '\n' :: s.held, ended := s.heldEnded }, .goOn)
    else ({ s with space := s.held, ended := s.heldEnded }, .goOn)
  | .exchange =>
    ({ s with
      space := s.held
      held := s.space
      ended := s.heldEnded
      heldEnded := s.ended }, .goOn)
  | .quit status silent => ({ s with status := some status }, .quit (!silent))
  | .lineNumber => (s.emit c (digitsOf s.line ++ ['\n']), .goOn)
  | .append text => ({ s with queue := s.queue ++ [(text, false)] }, .goOn)
  | .insert text => (s.emit c text, .goOn)
  | .change text => (if inRange then s else s.emit c text, .finish false)
  | .branch place => (s, .jump place)
  | .branchIf replaced place =>
    ({ s with replaced := false }, if s.replaced == replaced then .jump place else .goOn)
  | .readFile name => ({ s with queue := s.queue ++ [(name, true)] }, .goOn)
  | .writeFile name => (s.writeTo c name s.space, .goOn)
  | .list => (s.emit c (spelled s.space ++ ['\n']), .goOn)
  | .fileName => (s.emit c (s.file ++ ['\n']), .goOn)
  | .empty => ({ s with space := [] }, .goOn)

/-- Goes on from an instruction, for at most so many steps. -/
def go (c : Setting) : Nat → Nat → Session → Session
  | 0, _, s => s
  | fuel + 1, place, s =>
    let endCycle (prints : Bool) (s : Session) : Session :=
      (if prints && !c.quiet then s.printLine c s.space else s).flush c
    let turn (r : Session × Turn) : Session :=
      match r.2 with
      | .goOn => go c fuel (place + 1) r.1
      | .jump target => go c fuel target r.1
      | .finish prints =>
        let s := endCycle prints r.1
        match s.readLine c with
        | some s => go c fuel 0 { s with replaced := false }
        | none => s
      | .again => go c fuel 0 (r.1.flush c)
      | .quit prints => { endCycle prints r.1 with rest := [], status := some (r.1.status.getD 0) }
    match c.program[place]? with
    | none => turn (s, .finish true)
    | some i =>
      let (here, s) := s.selected place i
      let inRange := i.second.isSome && s.ranges.any (·.1 == place)
      if here != i.negated then turn (act c inRange i.action s)
      else
        match i.action with
        | .block stop => go c fuel stop s
        | _ => go c fuel (place + 1) s

/-- The greatest number of steps. -/
def stepBudget : Nat := 1000000

def edit (c : Setting) (s : Session) (ls : List (Octets × Octets)) : Session :=
  -- A range that begins before the first line has begun.
  let early := c.program.toList.zipIdx.filterMap fun (i, n) =>
    match i.first, i.second with
    | some (.line 0), some (.at (.matching _)) => some (n, (none : Option Nat))
    | _, _ => none
  let s := { s with rest := ls, ranges := early ++ s.ranges }
  match s.readLine c with
  | some s => go c stepBudget 0 s
  | none => s

/-- The files that a script writes to. -/
def written (is : List Instruction) : List Octets :=
  (is.filterMap fun i =>
    match i.action with
    | .writeFile name => some name
    | .substitute s => s.file
    | _ => none).filter (· != "/dev/stdout".toList)

end Editing

namespace Task

/-- The options of the tool that edits lines. -/
def editSwitches : List Switch :=
  letters "u" ++ [⟨'n', "quiet", false⟩, ⟨'n', "silent", false⟩, ⟨'e', "expression", true⟩,
    ⟨'f', "file", true⟩, ⟨'E', "regexp-extended", false⟩, ⟨'r', "", false⟩,
    ⟨'s', "separate", false⟩, ⟨'z', "null-data", false⟩, ⟨'i', "in-place", false⟩,
    ⟨'p', "posix", false⟩]

/-- Edits the named texts by a script that was read. -/
def edited (t : Task) (call : Call) (suffix : Option Octets) (program : List Editing.Instruction)
    (names : List Octets) : Work :=
  let names := namesOf names
  let setting : Editing.Setting :=
    ⟨program.toArray, call.has 'n', if call.has 'z' then '\x00' else '\n'⟩
  let emptied := (Editing.written program).foldl (fun (files : FileTree) name =>
    files.change (.write (path name) [] false)) t.files
  let start : Work := { t.begun with
    files := emptied, input := if readsInput names then [] else t.input }
  let describe (name : Octets) (e : FileError) : Octets :=
    match e with
    | .isDirectory =>
      if suffix.isSome then
        "couldn't edit ".toList ++ name ++ ": not a regular file".toList
      else because ("read error on ".toList ++ name) e
    | _ => because ("can't read ".toList ++ name) e
  let readable := names.filterMap fun name => ((t.content name).toOption).map (name, ·)
  let w := names.foldl (fun w name =>
    match t.content name with
    | .ok _ => w
    | .error e => t.complain w (describe name e) (if e == .isDirectory then 4 else 2)) start
  let linesIn (x : Octets × Octets) : List (Octets × Octets) :=
    let parts := splitAtChar setting.lineEnd x.2
    let ls := parts.dropLast.map (· ++ [setting.lineEnd]) ++
      if parts.getLast? == some [] then [] else [parts.getLastD []]
    ls.map (·, if x.1 == ['-'] then ['-'] else x.1)
  let fresh : Editing.Session :=
    ⟨[], [], true, true, 0, ['-'], [], [], false, [], false, [], none, emptied, none⟩
  let groups :=
    if call.has 's' || suffix.isSome then readable.map fun x => [x] else [readable]
  let (w, s) := groups.foldl (fun (w, s) group =>
    if s.status.isSome then (w, s)
    else
      let line := if groups.length > 1 then 0 else s.line
      let s := Editing.edit setting
        { s with out := [], owesEnd := s.owesEnd && suffix.isNone, files := w.files, line }
        (group.flatMap linesIn)
      let out := s.out.reverse.flatten
      let w := { w with files := s.files }
      match suffix, group with
      | some suffix, [(name, old)] =>
        let executable := match (w.files.reach (path name)).toOption with
          | some ⟨_, .file _ x⟩ => x
          | _ => false
        let kept :=
          if suffix.isEmpty then w.files
          else w.files.change (.write (path (name ++ suffix)) (bytesOfOctets old) executable)
        ({ w with files := kept.change (.write (path name) (bytesOfOctets out) executable) }, s)
      | _, _ => (w.say 1 out, s)) (w, fresh)
  w.withStatus (s.status.getD 0)

def editLines (t : Task) : Work :=
  let suffix := t.arguments.findSome? fun a =>
    if "-i".toList.isPrefixOf a then some (a.drop 2)
    else if a == "--in-place".toList then some []
    else if "--in-place=".toList.isPrefixOf a then some (a.drop 11) else none
  let others := t.arguments.map fun a =>
    if "-i".toList.isPrefixOf a || "--in-place".toList.isPrefixOf a then "-i".toList else a
  { t with arguments := others }.called editSwitches 1 fun call =>
    let fromFiles : Except FileError (List Octets) := (call.values 'f').mapM fun name =>
      (t.content name).map chomped
    match fromFiles with
    | .error e =>
      t.failed (because ("couldn't open file ".toList ++ (call.value? 'f').getD []) e) 4
    | .ok fromFiles =>
      let given := call.values 'e' ++ fromFiles
      let chosen : Option (Octets × List Octets) :=
        if !given.isEmpty then some (['\n'].intercalate given, call.operands)
        else
          match call.operands with
          | script :: names => some (script, names)
          | [] => none
      match chosen with
      | none =>
        (t.begun.say 2 ("Usage: ".toList ++ t.program ++
          " [OPTION]... \x7bscript-only-if-no-other-script\x7d [input-file]...\n".toList)).withStatus 1
      | some (script, names) =>
        let extended := call.has 'E' || call.has 'r'
        match (Editing.Reading.drafts extended (script.length + 1) 0).run script with
        | .error e =>
          let place :=
            if e.message == "unmatched `\x7b'".toList then 0 else script.length - e.left
          t.failed ("-e expression #1, char ".toList ++ digitsOf place ++ ": ".toList ++ e.message) 1
        | .ok (ds, _) =>
          match Editing.resolve ds with
          | .error label =>
            t.failed ("can't find label for jump to `".toList ++ label ++ ['\'']) 4
          | .ok program => t.edited call suffix program names

end Task
end LintRelay.Shell
