import LintRelay.Shell.Tool.Names
import LintRelay.Shell.Tool.Regex

/-!
# Finding files

The tool that walks through directories and decides an expression for each file on the way. A part
of the expression may print something, run a program or take out the file. What that means is left
to the `Host` in which the tool runs.
-/

namespace LintRelay.Shell
namespace Finding

/-- What a tool that runs other programs needs from its surroundings. -/
structure Host (m : Type → Type) where
  files : m FileTree
  setFiles : FileTree → m Unit
  say : Nat → Octets → m Unit
  run : List Octets → m Nat

inductive Comparison where
  | less
  | equal
  | greater
  deriving Repr, DecidableEq

/-- A part of an expression that is decided for a file. -/
inductive Test where
  | always (holds : Bool)
  | name (pattern : Octets) (ignoreCase : Bool)
  | path (pattern : Octets) (ignoreCase : Bool)
  | regex (r : Regex)
  | kind (letters : Octets)
  | empty
  | executable
  | size (c : Comparison) (n unit : Nat)
  | prune
  | print (end' : Char)
  | format (text : Octets)
  | run (words : List Octets)
  | runAll (words : List Octets)
  | delete
  | quit

inductive Expression where
  | test (t : Test)
  | negated (e : Expression)
  | both (a b : Expression)
  | either (a b : Expression)
  /-- Both, of which only the second is decided on. -/
  | list (a b : Expression)

/-- What the options outside the expression say. -/
structure Setting where
  least : Nat
  most : Option Nat
  /-- Whether a directory comes behind what is in it. -/
  deep : Bool
  follow : Bool

/-- Whether a part of an expression does something. -/
def Test.acts : Test → Bool
  | .print _ | .format _ | .run _ | .runAll _ | .delete => true
  | _ => false

/-- Whether an expression does something. -/
def Expression.acts : Expression → Bool
  | .test t => t.acts
  | .negated e => e.acts
  | .both a b | .either a b | .list a b => a.acts || b.acts

/-- Whether an expression takes out files, which makes the walk begin with what is inside. -/
def Expression.deletes : Expression → Bool
  | .test .delete => true
  | .test _ => false
  | .negated e => e.deletes
  | .both a b | .either a b | .list a b => a.deletes || b.deletes

/-! ## Reading -/

/-- Reads something from the front of the arguments. -/
abbrev Reading (α : Type) := StateT (List Octets × Setting) (Except Octets) α

namespace Reading

/-- Shows the next argument. -/
def peek : Reading (Option String) := do
  return ((← get).1.head?).map String.ofList

/-- Takes the next argument. -/
def drop : Reading Unit := modify fun (as, s) => (as.drop 1, s)

/-- Takes the value of a part. -/
def value (part : String) : Reading Octets := do
  match (← get).1 with
  | a :: _ =>
    drop
    return a
  | [] => throw ("missing argument to `".toList ++ part.toList ++ ['\''])

/-- The number that a value spells, with its sign and what stands behind it. -/
def compared (cs : Octets) : Comparison × Nat × Octets :=
  let (c, cs) := match cs with
    | '+' :: cs => (Comparison.greater, cs)
    | '-' :: cs => (.less, cs)
    | cs => (.equal, cs)
  let digits := cs.takeWhile Char.isDigit
  (c, (decimal? digits).getD 0, cs.drop digits.length)

/-- The words of a command up to its end. -/
def command : Nat → Reading (List Octets × Bool)
  | 0 => throw "missing argument to `-exec'".toList
  | fuel + 1 => do
    let a ← value "-exec"
    if a == [';'] then return ([], false)
    if a == ['+'] then return ([], true)
    let (words, all) ← command fuel
    return (a :: words, all)

/-- The part of the given name. -/
def test (name : String) : Reading Test := do
  match name with
  | "-true" => return .always true
  | "-false" => return .always false
  | "-name" => return .name (← value name) false
  | "-iname" => return .name (← value name) true
  | "-path" | "-wholename" => return .path (← value name) false
  | "-ipath" => return .path (← value name) true
  | "-regex" =>
    match Regex.read false (← value name) with
    | .ok r => return .regex r
    | .error e => throw e.message.toList
  | "-type" | "-xtype" => return .kind (← value name)
  | "-empty" => return .empty
  | "-executable" => return .executable
  | "-readable" | "-writable" | "-depth" | "-xdev" | "-mount" | "-follow" | "-noleaf" =>
    if name == "-depth" then modify fun (as, s) => (as, { s with deep := true })
    if name == "-follow" then modify fun (as, s) => (as, { s with follow := true })
    return .always true
  | "-size" =>
    let (c, n, unit) := compared (← value name)
    let unit := match unit with
      | ['c'] => 1
      | ['w'] => 2
      | ['k'] => 1024
      | ['M'] => 1048576
      | _ => 512
    return .size c n unit
  | "-mtime" | "-atime" | "-ctime" | "-mmin" | "-amin" | "-cmin" =>
    let (c, n, _) := compared (← value name)
    return .always (match c with
      | .less => n > 0
      | .equal => n == 0
      | .greater => false)
  | "-perm" | "-user" | "-group" | "-uid" | "-gid" | "-links" =>
    let _ ← value name
    return .always true
  | "-newer" =>
    let _ ← value name
    return .always false
  | "-maxdepth" =>
    let n := (decimal? (← value name)).getD 0
    modify fun (as, s) => (as, { s with most := some n })
    return .always true
  | "-mindepth" =>
    let n := (decimal? (← value name)).getD 0
    modify fun (as, s) => (as, { s with least := n })
    return .always true
  | "-prune" => return .prune
  | "-print" => return .print '\n'
  | "-print0" => return .print '\x00'
  | "-printf" => return .format (← value name)
  | "-exec" | "-execdir" =>
    let (words, all) ← command ((← get).1.length + 1)
    return if all then .runAll words else .run words
  | "-delete" => return .delete
  | "-quit" => return .quit
  | _ => throw ("unknown predicate `".toList ++ name.toList ++ ['\''])

mutual

/-- An expression whose parts are divided by commas. -/
def list : Nat → Reading Expression
  | 0 => throw "invalid expression".toList
  | fuel + 1 => do
    let a ← either fuel
    if (← peek) == some "," then
      drop
      return .list a (← list fuel)
    return a

/-- An expression of alternatives. -/
def either : Nat → Reading Expression
  | 0 => throw "invalid expression".toList
  | fuel + 1 => do
    let a ← both fuel
    match ← peek with
    | some "-o" | some "-or" =>
      drop
      return .either a (← either fuel)
    | _ => return a

/-- An expression of parts that all have to hold. -/
def both : Nat → Reading Expression
  | 0 => throw "invalid expression".toList
  | fuel + 1 => do
    let a ← one fuel
    match ← peek with
    | none | some "-o" | some "-or" | some ")" | some "," => return a
    | some "-a" | some "-and" =>
      drop
      return .both a (← both fuel)
    | _ => return .both a (← both fuel)

/-- One part, or an expression in parentheses. -/
def one : Nat → Reading Expression
  | 0 => throw "invalid expression".toList
  | fuel + 1 => do
    match ← peek with
    | none => throw "invalid expression".toList
    | some "!" | some "-not" =>
      drop
      return .negated (← one fuel)
    | some "(" =>
      drop
      let e ← list fuel
      if (← peek) != some ")" then
        throw "invalid expression; I was expecting to find a ')' somewhere but did not see one.".toList
      drop
      return e
    | some name =>
      if name.toList.head? != some '-' then
        throw ("paths must precede expression: `".toList ++ name.toList ++ ['\''])
      drop
      return .test (← test name)

end
end Reading

/-! ## Walking -/

/-- A file that was come upon. -/
structure Visit where
  /-- Its path, and the part of it that was given as an argument. -/
  path : Octets
  origin : Octets
  location : Location
  node : FileNode
  depth : Nat

/-- What has happened on the walk. -/
structure Progress where
  pruned : Bool
  stopped : Bool
  /-- The files for programs that are run once, by the words of the program. -/
  gathered : List (List Octets × Octets)
  status : Nat

def kindLetter (n : FileNode) : Char :=
  match n with
  | .directory => 'd'
  | .file .. => 'f'
  | .link _ => 'l'
  | .device => 'c'

/-- A format with the properties of a file in it. -/
def Visit.formatted (v : Visit) : Nat → Octets → Octets
  | _, [] => []
  | skip + 1, _ :: cs => formatted v skip cs
  | 0, '%' :: c :: cs =>
    let part : Octets := match c with
      | 'p' => v.path
      | 'f' => Task.baseOf v.path
      | 'h' => Task.directoryOf v.path
      | 'P' => (v.path.drop v.origin.length).dropWhile (· == '/')
      | 'd' => digitsOf v.depth
      | 's' => digitsOf (Task.sizeOfNode v.node)
      | 'y' => [kindLetter v.node]
      | 'l' => match v.node with
        | .link target => octetsOf target
        | _ => []
      | 'm' => match v.node with
        | .file _ false => "644".toList
        | _ => "755".toList
      | '%' => ['%']
      | c => ['%', c]
    part ++ formatted v 1 (c :: cs)
  | 0, '\\' :: c :: cs =>
    let part : Octets := match c with
      | 'n' => ['\n']
      | 't' => ['\t']
      | '0' => ['\x00']
      | '\\' => ['\\']
      | c => ['\\', c]
    part ++ formatted v 1 (c :: cs)
  | 0, c :: cs => c :: formatted v 0 cs

/-- Whether a number is as a comparison wants it. -/
def Comparison.holds (c : Comparison) (m n : Nat) : Bool :=
  match c with
  | .less => m < n
  | .equal => m == n
  | .greater => m > n

/-- Whether a pattern matches a text. -/
def fits (pattern text : Octets) (ignoreCase : Bool) : Bool :=
  let fold (cs : Octets) : Octets := if ignoreCase then cs.map Char.toLower else cs
  accepts (patternParts 0 (unmarked (fold pattern))) (fold text)

/-- A word with the path in place of the mark for it. -/
def filledIn (path : Octets) : Nat → Octets → Octets
  | _, [] => []
  | skip + 1, _ :: cs => filledIn path skip cs
  | 0, '\x7b' :: '\x7d' :: cs => path ++ filledIn path 1 ('\x7d' :: cs)
  | 0, c :: cs => c :: filledIn path 0 cs

variable {m : Type → Type} [Monad m]

/-- Decides a part of an expression for a file. -/
def decide (host : Host m) (v : Visit) : Test → StateT Progress m Bool
  | .always b => return b
  | .name p i => return fits p (Task.baseOf v.path) i
  | .path p i => return fits p v.path i
  | .regex r =>
    return (Regex.matchAt? (.both r (.edge .lineEnd)) false v.path ⟨0, none, v.path, []⟩).isSome
  | .kind letters => return letters.contains (kindLetter v.node)
  | .empty => do
    let files ← host.files
    return match v.node with
      | .directory => (files.entries v.location).isEmpty
      | .file content _ => content.isEmpty
      | _ => false
  | .executable => return match v.node with
    | .file _ x => x
    | _ => true
  | .size c n unit =>
    let size := Task.sizeOfNode v.node
    return c.holds ((size + unit - 1) / unit) n
  | .prune => do
    modify fun p => { p with pruned := true }
    return true
  | .print end' => do
    host.say 1 (v.path ++ [end'])
    return true
  | .format text => do
    host.say 1 (v.formatted 0 text)
    return true
  | .run words => do
    let status ← host.run (words.map (filledIn v.path 0))
    return status == 0
  | .runAll words => do
    modify fun p => { p with gathered := p.gathered ++ [(words, v.path)] }
    return true
  | .delete => do
    let files ← host.files
    if v.node == .directory && !(files.entries v.location).isEmpty then
      host.say 2 ("find: cannot delete '".toList ++ v.path ++ "': Directory not empty\n".toList)
      modify fun p => { p with status := 1 }
      return false
    host.setFiles (files.prune v.location)
    return true
  | .quit => do
    modify fun p => { p with stopped := true }
    return true

def Expression.decide (host : Host m) (v : Visit) : Expression → StateT Progress m Bool
  | .test t => do
    if (← get).stopped then return false
    Finding.decide host v t
  | .negated e => return !(← e.decide host v)
  | .both a b => do if ← a.decide host v then b.decide host v else return false
  | .either a b => do if ← a.decide host v then return true else b.decide host v
  | .list a b => do
    let _ ← a.decide host v
    b.decide host v

/-- Walks through a file and, as far as the bound allows, what is below it. -/
def walk (host : Host m) (s : Setting) (e : Expression) : Nat → Visit → StateT Progress m Unit
  | 0, _ => return
  | fuel + 1, v => do
    if (← get).stopped then return
    let own : StateT Progress m Unit := do
      if v.depth ≥ s.least then
        let _ ← e.decide host v
    modify fun p => { p with pruned := false }
    if !s.deep then own
    let p ← get
    let descends := v.node == .directory && (s.deep || !p.pruned) && s.most.all fun n => v.depth < n
    if descends && !p.stopped then
      let files ← host.files
      for name in files.entries v.location do
        let location := v.location ++ [name]
        match files.at? location with
        | some node =>
          let path := dropEndWhile (· == '/') v.path ++ '/' :: octetsOf name
          let path := if v.path == ['/'] then '/' :: octetsOf name else path
          let (location, node) :=
            if s.follow then
              match files.reach (Task.path path) with
              | .ok r => (r.location, r.node)
              | .error _ => (location, node)
            else (location, node)
          walk host s e fuel ⟨path, v.origin, location, node, v.depth + 1⟩
        | none => pure ()
    if s.deep then own

/-- The programs that are run once, with all their files. -/
def gatheredRuns (xs : List (List Octets × Octets)) : List (List Octets) :=
  (xs.map (·.1)).eraseDups.map fun words =>
    let paths := (xs.filter (·.1 == words)).map (·.2)
    words.flatMap fun w => if w == ['\x7b', '\x7d'] then paths else [w]

/-- Walks through the files that the arguments name. Gives the status. -/
def run (host : Host m) (program : Octets) (arguments : List Octets) : m Nat := do
  let files ← host.files
  let isExpression (a : Octets) : Bool :=
    (a.head? == some '-' && a.length > 1) || a == ['('] || a == ['!'] || a == [')'] || a == [',']
  let leading := arguments.takeWhile fun a => ["-L", "-P", "-H"].contains (String.ofList a)
  let arguments := arguments.drop leading.length
  let (origins, rest) := arguments.span fun a => !isExpression a
  let complain (message : Octets) : m Unit := host.say 2 (program ++ ": ".toList ++ message ++ ['\n'])
  let start : Setting := ⟨0, none, false, leading.contains "-L".toList⟩
  let parsed : Except Octets (Expression × List Octets × Setting) :=
    if rest.isEmpty then .ok (.test (.print '\n'), [], start)
    else (Reading.list (8 * rest.length + 8)).run (rest, start)
  match parsed with
  | .error e =>
    complain e
    return 1
  | .ok (_, a :: _, _) =>
    complain ("paths must precede expression: `".toList ++ a ++ ['\''])
    return 1
  | .ok (e, [], s) =>
    let s := if e.deletes then { s with deep := true } else s
    let e := if e.acts then e else .both e (.test (.print '\n'))
    let walks : StateT Progress m Unit := do
      for origin in if origins.isEmpty then [['.']] else origins do
        let found : Option Reached :=
          if s.follow then (files.reach (Task.path origin)).toOption
          else files.find? (Task.path origin)
        match found with
        | some r => walk host s e (files.places.length + 2) ⟨origin, origin, r.location, r.node, 0⟩
        | none =>
          let reason := match files.reach (Task.path origin) with
            | .error e => e
            | .ok _ => .notFound
          complain (Task.because (Task.quoted origin) reason)
          modify fun p => { p with status := 1 }
    let (_, p) ← walks.run ⟨false, false, [], 0⟩
    let mut status := p.status
    for words in gatheredRuns p.gathered do
      if (← host.run words) != 0 then status := 1
    return status

end Finding

namespace Gathering

/-- The arguments that a text divides into at blanks, quotes protecting them. `field` is the one that
has begun, reversed, and `quote` the quote that is open. -/
def arguments : Option Octets → Option Char → Octets → List Octets
  | field, _, [] => (field.map List.reverse).toList
  | field, some q, c :: cs =>
    if c == q then arguments field none cs else arguments (some (c :: field.getD [])) (some q) cs
  | field, none, '\\' :: c :: cs => arguments (some (c :: field.getD [])) none cs
  | field, none, c :: cs =>
    if c == '\'' || c == '"' then arguments (some (field.getD [])) (some c) cs
    else if isGap c then (field.map List.reverse).toList ++ arguments none none cs
    else arguments (some (c :: field.getD [])) none cs

/-- The parts of a list with at most so many members each. -/
def chunks (n : Nat) : Nat → List α → List (List α)
  | 0, _ => []
  | _, [] => []
  | fuel + 1, xs => xs.take n :: chunks n fuel (xs.drop n)

/-- A word with a text in place of a mark. -/
def filledIn (mark text : Octets) : Nat → Octets → Octets
  | _, [] => []
  | skip + 1, _ :: cs => filledIn mark text skip cs
  | 0, c :: cs =>
    if mark.isPrefixOf (c :: cs) && !mark.isEmpty then
      text ++ filledIn mark text (mark.length - 1) cs
    else c :: filledIn mark text 0 cs

/-- The options of the tool. -/
def switches : List Task.Switch :=
  [⟨'0', "null", false⟩, ⟨'n', "max-args", true⟩, ⟨'L', "max-lines", true⟩,
    ⟨'I', "replace", true⟩, ⟨'r', "no-run-if-empty", false⟩, ⟨'t', "verbose", false⟩,
    ⟨'d', "delimiter", true⟩, ⟨'P', "max-procs", true⟩, ⟨'s', "max-chars", true⟩,
    ⟨'a', "arg-file", true⟩, ⟨'x', "exit", false⟩]

/-- The command lines that the options and the input ask for. -/
def commands (call : Task.Call) (input : Octets) : List (List Octets) :=
  let words := if call.operands.isEmpty then ["echo".toList] else call.operands
  let divider : Option Char :=
    if call.has '0' then some '\x00'
    else (call.value? 'd').bind fun d => if d == "\\n".toList then some '\n' else d.head?
  let divided (c : Char) : List Octets :=
    let parts := splitAtChar c input
    if parts.getLast? == some [] then parts.dropLast else parts
  match call.value? 'I' with
  | some mark =>
    let items := match divider with
      | some c => divided c
      | none =>
        ((bareLinesOf input).map fun (l : Octets) => l.dropWhile isGap).filter fun l => !l.isEmpty
    items.map fun item => words.map (filledIn mark item 0)
  | none =>
    let given : List (List Octets) :=
      match divider, (call.value? 'L').bind decimal? with
      | some c, _ => [divided c]
      | none, some n =>
        let ls := (bareLinesOf input).filter fun l => !l.all isGap
        (chunks (max n 1) (ls.length + 1) ls).map fun part => part.flatMap (arguments none none)
      | none, none => [arguments none none input]
    let size := (call.value? 'n').bind decimal?
    let parts := match size with
      | some n => given.flatMap fun (as : List Octets) => chunks (max n 1) (as.length + 1) as
      | none => given.filter fun as => !as.isEmpty
    if parts.isEmpty then if call.has 'r' then [] else [words] else parts.map (words ++ ·)

/-- Runs a program on arguments that are read from the input. Gives the status. -/
def run {m : Type → Type} [Monad m] (host : Finding.Host m) (call : Task.Call) (input : Octets) :
    m Nat := do
  let mut status := 0
  for words in commands call input do
    if status < 124 then
      if call.has 't' then host.say 2 (spaced words ++ ['\n'])
      let s ← host.run words
      if s == 127 || s == 126 then status := s
      else if s == 255 then status := 124
      else if s != 0 then status := 123
  return status

end Gathering
end LintRelay.Shell
