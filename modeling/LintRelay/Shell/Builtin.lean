import LintRelay.Shell.Fields
import LintRelay.Shell.Format
import LintRelay.Shell.Parser
import LintRelay.Shell.Settings
import LintRelay.Shell.Signal
import LintRelay.Shell.Test
import LintRelay.Shell.Tool.Basic

/-!
# Parts of the shell

Commands that are no programs but parts of the shell. Those of this module work on the state of the
shell alone; `parts` lists them. Some of them are special: a fault in one ends the shell.
-/

namespace LintRelay.Shell

/-- The parts of the shell that are neither special nor in `parts`. -/
def runningParts : List String := ["command", "kill", "wait"]

/-- A text in quotes, such that a shell reads the text back. -/
def shellQuoted (cs : Octets) : Octets := close (quote false cs)
where
  /-- The text with the quotes that open and close in it. `single` tells whether the text before it
  ended among apostrophes. -/
  quote (inApostrophes : Bool) : Octets → Octets × Bool
    | [] => ([], inApostrophes)
    | c :: cs =>
      let (rest, open') := quote (c == '\'') cs
      if c == '\'' && !inApostrophes then ('\'' :: '"' :: c :: rest, open')
      else if c != '\'' && inApostrophes then ('"' :: '\'' :: c :: rest, open')
      else (c :: rest, open')
  /-- The quoted text with its first and its last quote. -/
  close (t : Octets × Bool) : Octets := '\'' :: t.1 ++ [if t.2 then '"' else '\'']

/-- Reads the letters of an argument. Gives the options, and the letter of the last one if its value
is the next argument. -/
def partLetters (flags valued : String) : Octets → Except Octets (List (Char × Octets) × Option Char)
  | [] => .ok ([], none)
  | c :: cs =>
    if valued.toList.contains c then
      if cs.isEmpty then .ok ([], some c) else .ok ([(c, cs)], none)
    else if flags.toList.contains c then do
      let (os, waiting) ← partLetters flags valued cs
      return ((c, []) :: os, waiting)
    else .error ("Illegal option -".toList ++ [c])

/-- Sorts the arguments of a part of the shell into options, which come first, and operands. -/
def partCall (flags valued : String) : Option Char → List Octets → Except Octets Task.Call
  | none, [] => .ok ⟨[], []⟩
  | some c, [] => .error ("No arg for -".toList ++ [c] ++ " option".toList)
  | some c, a :: as => (partCall flags valued none as).map (·.withOption c a)
  | none, a :: as =>
    if a == ['-', '-'] then .ok ⟨[], as⟩
    else if a.head? == some '-' && a.length > 1 then do
      let (os, waiting) ← partLetters flags valued (a.drop 1)
      let call ← partCall flags valued waiting as
      return { call with options := os ++ call.options }
    else .ok ⟨[], a :: as⟩

/-- What the permissions are that a mode in letters such as `u=rwx,g-w` makes of others. -/
def modeChanged (permissions : Nat) (mode : Octets) : Option Nat :=
  (splitAtChar ',' mode).foldlM change permissions
where
  /-- The permissions after one change. -/
  change (permissions : Nat) (clause : Octets) : Option Nat :=
    let who := clause.takeWhile "ugoa".toList.contains
    let places : List Nat :=
      if who.isEmpty || who.contains 'a' then [64, 8, 1]
      else [('u', 64), ('g', 8), ('o', 1)].filterMap fun (c, n) =>
        if who.contains c then some n else none
    match clause.drop who.length with
    | op :: letters =>
      if !"+-=".toList.contains op || !letters.all "rwxXst".toList.contains then none
      else
        let bits := [('r', 4), ('w', 2), ('x', 1)].foldl (fun n (c, k) =>
          if letters.contains c then n + k else n) 0
        some (places.foldl (fun n place =>
          let old := n / place % 8
          let new := match op with
            | '+' => old ||| bits
            | '-' => old - (old &&& bits)
            | _ => bits
          n - old * place + new * place) permissions)
    | [] => none

def modeLetters (permissions : Nat) : Octets :=
  let one (who : Char) (place : Nat) : Octets :=
    let bits := permissions / place % 8
    [who, '='] ++ (if bits / 4 == 1 then ['r'] else []) ++
      (if bits / 2 % 2 == 1 then ['w'] else []) ++ if bits % 2 == 1 then ['x'] else []
  [','].intercalate [one 'u' 64, one 'g' 8, one 'o' 1]

/-- The path of a directory, named from another one, with the names that lead upwards carried out. -/
def pathJoined (place target : Octets) : Octets :=
  let names := splitAtChar '/' (if target.head? == some '/' then target else place ++ '/' :: target)
  let kept := names.foldl (fun (kept : List Octets) name =>
    if name.isEmpty || name == ['.'] then kept
    else if name == ['.', '.'] then kept.drop 1
    else name :: kept) []
  '/' :: ['/'].intercalate kept.reverse

namespace Running

/-- Reads the arguments of a part of the shell. -/
def call (flags valued : String) (arguments : List Octets) : Running Task.Call :=
  match partCall flags valued none arguments with
  | .ok c => return c
  | .error e => fail e

/-- Prints the output of a part of the shell, which fails where it cannot be printed. -/
def answer (text : Octets) : Running Unit := do
  if ← print 1 text then finish 0
  else
    complain ((← get).caller ++ "I/O error".toList)
    finish 1

/-- The number that an argument spells. -/
def count (argument : Octets) : Running Nat :=
  match decimal? argument with
  | some n => if n < 0x80000000 then return n else fail ("Illegal number: ".toList ++ argument)
  | none => fail ("Illegal number: ".toList ++ argument)

def named (argument : Octets) : Running String :=
  if isName argument then return String.ofList argument
  else fail (argument ++ ": bad variable name".toList)

/-- The variables that `p` holds of, as commands that begin with `lead` and set them. -/
def listing (lead : String) (p : Variable → Bool) : Running Octets := do
  let chosen := (← get).bindings.filter fun v => p v.2
  let sorted := chosen.mergeSort fun a b => notAfter a.1.toList b.1.toList
  return sorted.flatMap fun (name, v) =>
    lead.toList ++ name.toList ++
      (match v.value with
      | some value => '=' :: shellQuoted value
      | none => []) ++ ['\n']

/-! ## Printing and deciding -/

/-- Puts arguments into a format. -/
def format (arguments : List Octets) : Running Unit := do
  match (← call "" "" arguments).operands with
  | [] => fail "usage: printf format [arg ...]".toList
  | format :: arguments =>
    let p := printf .shell format arguments
    p.errors.forM complain
    answer p.printed
    if p.status != 0 then finish p.status

def workingDirectory (arguments : List Octets) : Running Unit := do
  let c ← call "LP" "" arguments
  let s ← get
  answer ((if c.lastOf? "LP" == some 'P' then s.directory else s.place) ++ ['\n'])

/-- Decides a condition. -/
def test (arguments : List Octets) : Running Unit := do
  match condition (← get).files arguments with
  | .ok b => decide b
  | .error e => fail e.message

/-- Decides a condition that a bracket closes. -/
def testClosed (arguments : List Octets) : Running Unit :=
  if arguments.getLast? == some [']'] then test arguments.dropLast else fail "missing ]".toList

/-! ## Jumps -/

/-- Ends the shell. A trap ends it with the status from before the trap. -/
def exit (arguments : List Octets) : Running Unit := do
  match arguments, (← get).trapStatus with
  | a :: _, _ => finish (← count a)
  | [], some status => finish status
  | [], none => pure ()
  throw .exit

/-- Ends the running function. -/
def leave (arguments : List Octets) : Running Unit := do
  if let a :: _ := arguments then finish (← count a)
  throw .leave

/-- Ends rounds of loops; `jump` gives the jump for the number of loops that are passed. -/
def endRounds (jump : Nat → Jump) (arguments : List Octets) : Running Unit := do
  let n ← match arguments with
    | a :: _ => do
      if (← count a) == 0 then fail ("Illegal number: ".toList ++ a)
      count a
    | [] => pure 1
  finish 0
  let loops := (← get).loops
  if loops > 0 then throw (jump (min n loops - 1))

/-! ## Variables and parameters -/

/-- Drops parameters. -/
def shift (arguments : List Octets) : Running Unit := do
  let n ← count (arguments.headD ['1'])
  let s ← get
  if n > s.parameters.length then fail "can't shift that many".toList
  set { s with parameters := s.parameters.drop n, option := 1, letters := 0, status := 0 }

def setOptions (arguments : List Octets) : Running Unit := do
  if arguments.isEmpty then answer (← listing "" (·.value.isSome))
  else
    match Settings.read false 0 true arguments .none with
    | .error e => fail e
    | .ok settings =>
      modify fun s => s.withSettings settings
      if settings.closed || !settings.operands.isEmpty then
        modify fun s => { s with parameters := settings.operands, option := 1, letters := 0 }
      match settings.shown with
      | some table => answer ((← get).optionList table)
      | none => finish 0

/-- Sets the variables that arguments such as `name=value` name, and changes what they are. -/
def declare (change : Variable → Variable) (arguments : List Octets) : Running Unit := do
  arguments.forM fun a => do
    let (name, value) := a.span (· != '=')
    let name ← named name
    match value with
    | _ :: value => setVariable name value
    | [] => pure ()
    modify fun s => s.replace name (some (change ((s.bound? name).getD ⟨none, false, false⟩)))
  finish 0

/-- Lets variables be given to programs. -/
def exporting (arguments : List Octets) : Running Unit := do
  let c ← call "p" "" arguments
  if c.operands.isEmpty then answer (← listing "export " (·.exported))
  else declare (fun v => { v with exported := true }) c.operands

/-- Makes variables keep their values. -/
def fixing (arguments : List Octets) : Running Unit := do
  let c ← call "p" "" arguments
  if c.operands.isEmpty then answer (← listing "readonly " (·.fixed))
  else declare (fun v => { v with fixed := true }) c.operands

/-- Makes variables those of the running function. -/
def makeLocal (arguments : List Octets) : Running Unit := do
  if (← get).locals.isNone then fail "not in a function".toList
  arguments.forM fun a => do
    let (name, value) := a.span (· != '=')
    if a == ['-'] then
      modify fun s => { s with locals := s.locals.map (("-", some ⟨some s.options, false, false⟩) :: ·) }
    else
      let name ← named name
      modify fun s => { s with locals := s.locals.map ((name, s.bound? name) :: ·) }
      match value with
      | _ :: value => setVariable name value
      | [] => pure ()
  finish 0

/-- Puts back what a variable was before a function. -/
def restore (name : String) (before : Option Variable) : Running Unit :=
  modify fun s =>
    if name == "-" then { s with options := (before.bind (·.value)).getD [] }
    else s.replace name before

/-- Takes variables or functions out. -/
def unset (arguments : List Octets) : Running Unit := do
  let c ← call "fv" "" arguments
  let last := c.lastOf? "fv"
  c.operands.forM fun a => do
    if last == some 'f' then
      modify fun s => { s with functions := s.functions.filter (·.1 != String.ofList a) }
    else
      let name ← named a
      if ((← get).bound? name).any (·.fixed) then fail (a ++ ": is read only".toList)
      modify fun s => s.replace name none
  finish 0

def readLine (arguments : List Octets) : Running Unit := do
  let c ← call "r" "p" arguments
  if c.operands.isEmpty then fail "arg count".toList
  let s ← get
  let input := s.channel? 0
  let line := inputLine (c.has 'r') (s.unread input)
  set (s.withUnread input line.rest)
  if !line.ended then passUntil ((s.source? input).elim 0 (·.ready))
  let values := lineFields s.dividers c.operands.length line.characters
  (c.operands.zip values).forM fun (name, value) => do setVariable (← named name) value
  decide line.ended

/-- Reads the next option of the parameters. -/
def nextOption (arguments : List Octets) : Running Unit := do
  match arguments with
  | known :: target :: more =>
    let s ← get
    let given := if more.isEmpty then s.parameters else more
    let option := if s.option > given.length + 1 then 1 else s.option
    -- What is left of the argument whose letters were read, and the place of the next one.
    let behind : Octets :=
      if option ≤ 1 || s.letters == 0 then [] else (given.getD (option - 2) []).drop s.letters
    let (letters, next) : Octets × Nat :=
      if !behind.isEmpty then (behind, option)
      else
        match given[option - 1]? with
        | some ('-' :: c :: cs) => (c :: cs, option + 1)
        | _ => ([], option)
    let conclude (letter : Char) (next : Nat) (rest : Octets) (status : Nat) : Running Unit := do
      setVariable "OPTIND" (digitsOf next)
      let size := (given.getD (next - 2) []).length
      modify fun s => { s with option := next, letters := if rest.isEmpty then 0 else size - rest.length }
      setVariable (← named target) [letter]
      finish status
    match letters with
    | [] => conclude '?' next [] 1
    | c :: rest =>
      if behind.isEmpty && letters == ['-'] then conclude '?' next [] 1
      else
        let quiet := known.head? == some ':'
        match (known.dropWhile fun d => d != c || d == ':').drop 1, known.contains c && c != ':' with
        | _, false =>
          if quiet then setVariable "OPTARG" [c]
          else
            let _ ← print 2 ("Illegal option -".toList ++ [c, '\n'])
            modify fun s => s.replace "OPTARG" none
          conclude '?' next rest 0
        | ':' :: _, _ =>
          if !rest.isEmpty then
            setVariable "OPTARG" rest
            conclude c next [] 0
          else
            match given[next - 1]? with
            | some value =>
              setVariable "OPTARG" value
              conclude c (next + 1) [] 0
            | none =>
              if quiet then
                setVariable "OPTARG" [c]
                conclude ':' next [] 0
              else
                let _ ← print 2 ("No arg for -".toList ++ [c] ++ " option\n".toList)
                modify fun s => s.replace "OPTARG" none
                conclude '?' next [] 0
        | _, _ =>
          setVariable "OPTARG" []
          conclude c next rest 0
  | _ => fail "Usage: getopts optstring var [arg...]".toList

/-! ## The working directory -/

/-- Goes to a directory. -/
def goTo (location : Location) (place : Octets) : Running Unit := do
  let before := (← get).place
  modify fun s => { s with files := s.files.withBase location, place }
  let exported (name : String) (value : Octets) : Running Unit := do
    setVariable name value
    modify fun s => s.replace name ((s.bound? name).map ({ · with exported := true }))
  exported "OLDPWD" before
  exported "PWD" place
  finish 0

def changeDirectory (arguments : List Octets) : Running Unit := do
  let c ← call "LP" "" arguments
  let s ← get
  let physical := c.lastOf? "LP" == some 'P'
  let asked := match c.operands with
    | a :: _ => a
    | [] => (s.binding? "HOME").getD []
  let target := if asked == ['-'] then (s.binding? "OLDPWD").getD s.place else asked
  let direct := target.isEmpty || "/".toList.isPrefixOf target ||
    [".", ".."].contains (String.ofList (target.takeWhile (· != '/')))
  let fronts := if direct then [[]] else ((s.binding? "CDPATH").elim [] (splitAtChar ':')) ++ [[]]
  let found := fronts.findSome? fun front =>
    let path := if front.isEmpty then target else front ++ '/' :: target
    let path := pathJoined s.place path
    match s.files.reach ⟨bytesOfOctets path⟩ with
    | .ok ⟨l, .directory⟩ => some (front, l, path)
    | _ => none
  match found with
  | none => fail ("can't cd to ".toList ++ target)
  | some (front, l, path) =>
    let path := if physical then octetsOf (FileTree.pathOf l).bytes else path
    goTo l path
    if asked == ['-'] || !front.isEmpty then answer (path ++ ['\n'])

/-! ## Traps, aliases and the rest -/

/-- Sets or shows what is done when signals arrive. -/
def trap (arguments : List Octets) : Running Unit := do
  match (← call "" "" arguments).operands with
  | [] =>
    let traps := (← get).traps.mergeSort fun a b => a.1 ≤ b.1
    answer (traps.flatMap fun (n, action) =>
      "trap -- ".toList ++ shellQuoted action ++ (" " ++ signalName n ++ "\n").toList)
  | first :: rest =>
    let plain := rest.isEmpty || (decimal? first).any (· < 65)
    let action := if plain || first == ['-'] then none else some first
    let names := if plain then first :: rest else rest
    match names.find? fun name => (signal? name).isNone with
    | some name =>
      let _ ← print 2 ("trap: ".toList ++ name ++ ": bad trap\n".toList)
      finish 1
    | none =>
      let numbers := names.filterMap signal?
      modify fun s => { s with
        traps := numbers.flatMap (fun n => action.toList.map (n, ·)) ++
          s.traps.filter fun t => !numbers.contains t.1 }
      finish 0

/-- Sets or shows aliases. -/
def nameAliases (arguments : List Octets) : Running Unit := do
  let shown (a : String × Octets) : Octets := a.1.toList ++ '=' :: shellQuoted a.2 ++ ['\n']
  if arguments.isEmpty then answer ((← get).aliases.flatMap shown)
  else
    finish 0
    arguments.forM fun a => do
      let (name, value) := a.span (· != '=')
      let name := String.ofList name
      let s ← get
      match value with
      | _ :: value => set { s with aliases := (name, value) :: s.aliases.filter (·.1 != name) }
      | [] =>
        match s.aliases.find? (·.1 == name) with
        | some found => let _ ← print 1 (shown found)
        | none =>
          let _ ← print 2 ("alias: " ++ name ++ " not found\n").toList
          finish 1

/-- Takes aliases out. -/
def unalias (arguments : List Octets) : Running Unit := do
  let c ← call "a" "" arguments
  finish 0
  if c.has 'a' then modify fun s => { s with aliases := [] }
  else
    c.operands.forM fun a => do
      let s ← get
      if !s.aliases.any (·.1 == String.ofList a) then
        let _ ← print 2 ("unalias: ".toList ++ a ++ " not found\n".toList)
        finish 1
      set { ← get with aliases := s.aliases.filter (·.1 != String.ofList a) }

/-- Sets or shows the permissions that new files do not get. -/
def mask (arguments : List Octets) : Running Unit := do
  let c ← call "S" "" arguments
  let s ← get
  match c.operands with
  | [] =>
    answer (if c.has 'S' then modeLetters (0o777 - s.mask) ++ ['\n']
      else padLeft 4 '0' (Nat.toDigits 8 s.mask) ++ ['\n'])
  | mode :: _ =>
    if mode.head?.any Char.isDigit then
      match numberIn? 8 mode with
      | some n => set { s with mask := n.toNat % 512, status := 0 }
      | none => fail ("Illegal number: ".toList ++ mode)
    else
      match modeChanged (0o777 - s.mask) mode with
      | some permissions => set { s with mask := 0o777 - permissions, status := 0 }
      | none => fail ("Illegal mode: ".toList ++ mode)

/-- Where a program of the search path stands. -/
def locate? (s : State) (name : Octets) : Option Octets :=
  let runs (p : Path) : Bool :=
    match s.files.reach p with
    | .ok ⟨_, .file _ executable⟩ => executable
    | _ => false
  if name.isEmpty then none
  else if name.contains '/' then
    if (s.files.reach ⟨bytesOfOctets name⟩).toOption.isSome then some name else none
  else ((s.searchPath.map fun d => d.join ⟨bytesOfOctets name⟩).find? runs).map (octetsOf ·.bytes)

/-- Remembers where programs stand. -/
def remember (arguments : List Octets) : Running Unit := do
  let c ← call "rv" "" arguments
  finish 0
  c.operands.forM fun a => do
    let s ← get
    let isOwn := s.functions.any (·.1 == String.ofList a) || ordinary.contains (String.ofList a)
    if (locate? s a).isNone && !isOwn then
      complain (a ++ ": not found".toList)
      finish 1
where
  /-- The parts of the shell that are taken for granted here. -/
  ordinary : List String := ["echo", "cd", "test", "[", "printf", "read", "true", "false", "pwd"]

/-- Shows limits, of which there are none. -/
def limit (arguments : List Octets) : Running Unit := do
  let _ ← call "HSatfdsmcnpvwxr" "" arguments
  answer "unlimited\n".toList

/-- Shows the times that were used. -/
def times (_ : List Octets) : Running Unit := do
  let zero := "0m0.000000s 0m0.000000s\n".toList
  answer (zero ++ zero)

def showJobs (arguments : List Octets) : Running Unit := do
  let c ← call "lp" "" arguments
  let s ← get
  match c.operands with
  | a :: _ => fail ("No such job: ".toList ++ a)
  | [] =>
    let own := (s.jobs.filter (·.owner == s.self)).zipIdx.reverse
    answer (own.flatMap fun (_, i) =>
      let mark := if i + 1 == own.length then '+' else if i + 2 == own.length then '-' else ' '
      "[".toList ++ digitsOf (i + 1) ++ "] ".toList ++ [mark, ' '] ++
        padRight 27 ' ' "Running".toList ++ ['\n'])

/-- Goes on with a job, of which there is none that was stopped. -/
def continueJob (_ : List Octets) : Running Unit := fail "No current job".toList

/-- The parts of the shell that work on its state alone. -/
def parts : List (String × (List Octets → Running Unit)) :=
  [(":", fun _ => finish 0), ("true", fun _ => finish 0), ("false", fun _ => finish 1),
    ("echo", fun arguments => answer (echo arguments)), ("printf", format),
    ("pwd", workingDirectory), ("test", test), ("[", testClosed), ("exit", exit),
    ("return", leave), ("break", endRounds .break), ("continue", endRounds .continue),
    ("shift", shift), ("set", setOptions), ("export", exporting), ("readonly", fixing),
    ("local", makeLocal), ("unset", unset), ("read", readLine), ("getopts", nextOption),
    ("cd", changeDirectory), ("chdir", changeDirectory), ("trap", trap), ("alias", nameAliases),
    ("unalias", unalias), ("umask", mask), ("hash", remember), ("ulimit", limit),
    ("times", times), ("jobs", showJobs), ("fg", continueJob), ("bg", continueJob)]

/-- Whether a name is that of a part of the shell. -/
def isPart (name : String) : Bool :=
  parts.any (·.1 == name) || specialBuiltins.contains name || runningParts.contains name ||
    name == "type"

/-- Says what names stand for. -/
def describe (long : Bool) (name : Octets) : Running Unit := do
  let s ← get
  let text := String.ofList name
  let say (brief full : Octets) : Running Unit := do
    let _ ← print 1 ((if long then full else brief) ++ ['\n'])
    finish 0
  let is (what : String) : Octets := name ++ (" is " ++ what).toList
  if reservedWords.contains text then say name (is "a shell keyword")
  else
    match s.aliases.find? (·.1 == text) with
    | some (_, value) =>
      say ("alias ".toList ++ name ++ '=' :: shellQuoted value) (is "an alias for " ++ value)
    | none =>
      if specialBuiltins.contains text then say name (is "a special shell builtin")
      else if s.functions.any (·.1 == text) then say name (is "a shell function")
      else if isPart text then say name (is "a shell builtin")
      else
        match locate? s name with
        | some path => say path (name ++ " is ".toList ++ path)
        | none =>
          if long then let _ ← print 1 (name ++ ": not found\n".toList)
          finish 127

/-- Says what each of some names stands for. -/
def describeAll (names : List Octets) : Running Unit := do
  finish 0
  names.forM fun name => do
    let before := (← get).status
    describe true name
    if before != 0 then finish before

end Running
end LintRelay.Shell
