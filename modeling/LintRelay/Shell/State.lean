import LintRelay.FileTree.Change
import LintRelay.Shell.Script

/-!
# The state of a shell

A shell has a scope of its own: its variables, functions, options and open descriptors. A shell that
it starts has a copy of the scope. What all shells of a run share is the files, the texts that are
being read, what was printed, and a clock. The clock is moved on by starting processes and by
sleeping; the other commands take next to no time.

Everything printed carries its time, since a job in the background prints beside the shell that
started it. A command may end more than itself; the `Jump` says how much.
-/

namespace LintRelay.Shell

/-- What a descriptor leads to. -/
inductive Channel where
  | source (number : Nat)
  | output
  | errors
  | null
  | file (location : Location)
  /-- What is printed becomes part of a word, or the input of the next command. -/
  | capture (number : Nat)
  deriving Repr, DecidableEq

/-- How a command ends more than itself. -/
inductive Jump where
  | exit
  /-- A fault, which ends the shell unless the part of the shell that has it is an ordinary one. -/
  | error
  | killed (pid signal : Nat)
  | leave
  | break (depth : Nat)
  | continue (depth : Nat)
  /-- The bound on the length of a run is used up. -/
  | stuck
  /-- The time until which the process may run is over. -/
  | expired
  deriving Repr, DecidableEq

/-- A text that is being read. -/
structure Source where
  number : Nat
  text : Octets
  isFile : Bool
  /-- When the end of the text can be read. -/
  ready : Nat

structure Printed where
  channel : Channel
  text : Octets
  time : Nat
  writer : Nat

structure Variable where
  value : Option Octets
  exported : Bool
  /-- Whether it must not be set again. -/
  fixed : Bool

/-- What a shell has for itself. -/
structure Scope where
  name : Octets
  /-- The part of the shell that the errors are reported for, with a colon behind it. -/
  caller : Octets
  parameters : List Octets
  bindings : List (String × Variable)
  functions : List (String × Command)
  traps : List (Nat × Octets)
  /-- The traps of the shell that the script started as, for the processes that it starts. -/
  mainTraps : List (Nat × Octets)
  /-- How the last command ended before the running trap. -/
  trapStatus : Option Nat
  aliases : List (String × Octets)
  options : Octets
  channels : List (Nat × Channel)
  /-- What the variables of the running function were before, or nothing outside a function. -/
  locals : Option (List (String × Option Variable))
  /-- Whether the status of the running command is looked at. -/
  guarded : Bool
  /-- Whether nothing follows the running command, so that a program takes the place of the shell. -/
  final : Bool
  loops : Nat
  /-- The number of the shell that the script started as, and that of the one above it. -/
  pid : Nat
  parent : Nat
  /-- The number of the process that runs the commands, and of those above it. -/
  self : Nat
  above : List Nat
  lastJob : Option Nat
  line : Nat
  /-- The number of the next parameter that is read for options, and how many letters of it were. -/
  option : Nat
  letters : Nat
  place : Octets
  /-- The permissions that new files do not get. -/
  mask : Nat
  deadline : Option Nat

/-- The scope of a new process with the number `pid`. -/
def Scope.child (s : Scope) (pid : Nat) : Scope := { s with
  self := pid
  above := s.self :: s.above
  traps := s.traps.filter (·.2.isEmpty)
  mainTraps := if s.self == s.pid then s.traps else s.mainTraps
  final := false }

/-- A part of a job that is still to be done. -/
inductive Pending where
  | command (c : Command)
  | redirects (rs : List Redirect)
  | loop (goal : Bool) (test body : Command)
  | each (name : String) (values : List Octets) (body : Command)

/-- A job in the background that has not ended. -/
structure Job where
  pid : Nat
  owner : Nat
  scope : Scope
  directory : Location
  status : Nat
  todo : List Pending
  /-- When it goes on. -/
  clock : Nat

inductive Ending where
  | exited (status : Nat)
  | signalled (signal : Nat)
  deriving Repr, DecidableEq

/-- The status that a shell makes of an ending. -/
def Ending.status : Ending → Nat
  | .exited n => n
  | .signalled n => 128 + n

structure EndedJob where
  pid : Nat
  owner : Nat
  ending : Ending
  finish : Nat
  noticed : Bool

/-- The state of a shell. -/
structure State extends Scope where
  status : Nat
  /-- How the last command ended whose output became part of a word. -/
  outputStatus : Nat
  files : FileTree
  sources : List Source
  /-- What was printed, the last first. -/
  printed : List Printed
  /-- The time since the start, in microseconds. -/
  clock : Nat
  jobs : List Job
  ended : List EndedJob
  /-- The signals that have arrived at shells of a number and were not handled yet. -/
  arrived : List (Nat × Nat)
  captures : Nat
  budget : Nat
  nextPid : Nat

/-- Runs something in a shell. -/
abbrev Running (α : Type) := ExceptT Jump (StateM State) α

namespace State

/-- The variables that every run begins with. -/
def environment : List (String × Variable) :=
  [("HOME", "/root"),
    ("PATH", "/usr/local/sbin:/usr/local/bin:/usr/sbin:/usr/bin:/sbin:/bin")].map
    fun (name, value) => (name, ⟨some value.toList, true, false⟩)

/-- A shell with the standard channels and an empty input. -/
def start (files : FileTree) (pid budget : Nat) : State where
  name := []
  caller := []
  parameters := []
  bindings := environment
  functions := []
  traps := []
  mainTraps := []
  trapStatus := none
  aliases := []
  options := []
  channels := [(0, .null), (1, .output), (2, .errors)]
  locals := none
  guarded := false
  final := false
  loops := 0
  pid := pid
  parent := pid
  self := pid
  above := []
  lastJob := none
  line := 0
  option := 1
  letters := 0
  place := octetsOf (FileTree.pathOf files.base).bytes
  mask := 0o22
  deadline := none
  status := 0
  outputStatus := 0
  files := files
  sources := []
  printed := []
  clock := 0
  jobs := []
  ended := []
  arrived := []
  captures := 0
  budget := budget
  nextPid := pid + 1

/-- All that was printed to a channel, in the order of time. -/
def textOn (s : State) (c : Channel) : Octets :=
  let own := (s.printed.filter (·.channel == c)).reverse
  let ordered :=
    if own.all fun p => p.time == 0 then own else own.mergeSort fun a b => a.time ≤ b.time
  ordered.flatMap (·.text)

/-- Where a descriptor leads. -/
def channel? (s : State) (descriptor : Nat) : Option Channel :=
  (s.channels.find? (·.1 == descriptor)).map (·.2)

/-- What can be read from a channel. -/
def source? (s : State) (c : Option Channel) : Option Source :=
  match c with
  | some (.source n) => s.sources.find? (·.number == n)
  | _ => none

/-- The text that can be read from a channel. -/
def unread (s : State) (c : Option Channel) : Octets := (s.source? c).elim [] (·.text)

/-- The state in which only `text` is left to read from a channel. -/
def withUnread (s : State) (c : Option Channel) (text : Octets) : State :=
  match c with
  | some (.source n) => { s with
    sources := s.sources.map fun source => if source.number == n then { source with text } else source }
  | _ => s

def bound? (s : State) (name : String) : Option Variable :=
  (s.bindings.find? (·.1 == name)).map (·.2)

/-- The value of a variable. -/
def binding? (s : State) (name : String) : Option Octets := (s.bound? name).bind (·.value)

/-- Puts a variable in place, or takes it out. A new one comes last. -/
def replace (s : State) (name : String) (v : Option Variable) : State :=
  match v with
  | none => { s with bindings := s.bindings.filter (·.1 != name) }
  | some v =>
    if s.bindings.any (·.1 == name) then
      { s with bindings := s.bindings.map fun w => if w.1 == name then (name, v) else w }
    else { s with bindings := s.bindings ++ [(name, v)] }

/-- Whether an option is set. -/
def has (s : State) (option : Char) : Bool := s.options.contains option

/-- Sets an option, or takes it back. -/
def withOption (s : State) (option : Char) (on : Bool) : State :=
  let others := s.options.filter (· != option)
  { s with options := if on then others ++ [option] else others }

def setVariable (s : State) (name : String) (value : Octets) : State :=
  let old := (s.bound? name).getD ⟨none, s.has 'a', false⟩
  let s :=
    if name == "OPTIND" then { s with option := max 1 ((decimal? value).getD 1), letters := 0 }
    else s
  s.replace name (some { old with value := some value })

/-- The path of the working directory, without links. -/
def directory (s : State) : Octets := octetsOf (FileTree.pathOf s.files.base).bytes

/-- The characters that divide fields. -/
def dividers (s : State) : Octets := (s.binding? "IFS").getD " \t\n".toList

/-- What stands between fields that are put together. -/
def joint (s : State) : Octets :=
  match s.binding? "IFS" with
  | some dividers => dividers.take 1
  | none => [' ']

def parameter? (s : State) (name : String) : Option Octets :=
  match name with
  | "#" => some (digitsOf s.parameters.length)
  | "?" => some (digitsOf s.status)
  | "$" => some (digitsOf s.pid)
  | "!" => s.lastJob.map digitsOf
  | "-" => some ("ubaCEVvxsnmiIfe".toList.filter s.has)
  | "0" => some s.name
  | "@" | "*" => some (s.joint.intercalate s.parameters)
  | _ =>
    match name.toNat? with
    | some n => s.parameters[n - 1]?
    | none => s.binding? name

/-- The directories that a list such as `/usr/bin:/bin` names. -/
def directoriesIn (list : Octets) : List Path :=
  (splitAtChar ':' list).map fun d => ⟨bytesOfOctets (if d.isEmpty then ['.'] else d)⟩

/-- The directories in which programs are looked for. -/
def searchPath (s : State) : List Path := (s.binding? "PATH").elim [] directoriesIn

end State

namespace Running

/-- Ends the command with a status. -/
def finish (status : Nat) : Running Unit := modify fun s => { s with status }

/-- Takes one command from those that may still be run. -/
def spend : Running Unit := do
  let s ← get
  match s.budget with
  | 0 => throw .stuck
  | budget + 1 => set { s with budget }

/-- Lets time pass. -/
def pass (time : Nat) : Running Unit := do
  let s ← get
  let clock := s.clock + time
  match s.deadline with
  | some d =>
    if d < clock then
      set { s with clock := max d s.clock }
      throw .expired
    else set { s with clock }
  | none => set { s with clock }

/-- Lets time pass up to a moment, if that is still to come. -/
def passUntil (moment : Nat) : Running Unit := do pass (moment - (← get).clock)

/-- Ends with zero or one. -/
def decide (b : Bool) : Running Unit := finish (if b then 0 else 1)

/-- Prints a text to a channel, if it takes any. -/
def printOn (channel : Option Channel) (text : Octets) : Running Bool := do
  let s ← get
  match channel with
  | none | some (.source _) => return text.isEmpty
  | some .null => return true
  | some (.file l) =>
    match s.files.at? l with
    | some (.file content executable) =>
      set { s with files := s.files.put l (.file (content ++ bytesOfOctets text) executable) }
    | _ => pure ()
    return true
  | some c =>
    if !text.isEmpty then set { s with printed := ⟨c, text, s.clock, s.self⟩ :: s.printed }
    return true

/-- Prints a text to a descriptor, if it is open. -/
def print (descriptor : Nat) (text : Octets) : Running Bool := do
  printOn ((← get).channel? descriptor) text

/-- Reports an error of the shell. -/
def complain (message : Octets) : Running Unit := do
  let s ← get
  let place := s.name ++ ": ".toList ++ digitsOf s.line ++ ": ".toList
  let _ ← print 2 (place ++ s.caller ++ message ++ ['\n'])

/-- Reports an error and ends the shell. -/
def fail (message : Octets) : Running α := do
  complain message
  finish 2
  throw .error

/-- Sets a variable, unless it is fixed. -/
def setVariable (name : String) (value : Octets) : Running Unit := do
  let s ← get
  if (s.bound? name).any (·.fixed) then fail (name ++ ": is read only").toList
  set (s.setVariable name value)

/-- Runs something and gives the jump it ends with. -/
def caught (act : Running Unit) : Running (Option Jump) :=
  tryCatch (do act; return none) fun j => return some j

/-- Goes on with a jump, if there is one. -/
def resume : Option Jump → Running Unit
  | some j => throw j
  | none => return

/-- Runs something, and something else however it ends. -/
def ensuring (act after : Running Unit) : Running Unit := do
  let jump ← caught act
  after
  resume jump

/-- Runs something that may run at most `n` commands. -/
def budgeted (n : Nat) (act : Running Unit) : Running Unit := do
  let before := (← get).budget
  modify fun s => { s with budget := min n before }
  ensuring act (modify fun s => { s with budget := before - (min n before - s.budget) })

/-- Runs the body of a loop and gives the jump it ends with. -/
def looping (act : Running Unit) : Running (Option Jump) := do
  let before := (← get).loops
  modify fun s => { s with loops := before + 1 }
  let jump ← caught act
  modify fun s => { s with loops := before }
  return jump

/-- Runs something as a process of its own, after a change of the scope, and gives how it ends.
Whatever else it changes in the scope is forgotten. The end of a process above, the end of the time
and an exhausted bound reach further. -/
def forked (change : Scope → Scope) (act : Running Unit) : Running Ending := do
  let before ← get
  let pid := before.nextPid
  set { before with toScope := change (before.toScope.child pid), nextPid := pid + 1 }
  let jump ← caught act
  let after ← get
  set { after with
    toScope := before.toScope
    files := after.files.withBase before.files.base
    status := before.status
    outputStatus := before.outputStatus }
  match jump with
  | some (.killed p signal) => if p == pid then return .signalled signal else throw (.killed p signal)
  | some .stuck => throw .stuck
  | some .expired => throw .expired
  | _ => return .exited (after.status % 256)

/-- Makes a descriptor lead to a channel. -/
def openChannel (descriptor : Nat) (c : Channel) : Running Unit :=
  modify fun s => { s with channels := (descriptor, c) :: s.channels.filter (·.1 != descriptor) }

/-- Makes descriptors lead where they led before. -/
def reopen (before : List (Nat × Channel)) (descriptors : List Nat) : Running Unit :=
  modify fun s => { s with
    channels := before.filter (descriptors.contains ·.1) ++
      s.channels.filter fun c => !descriptors.contains c.1 }

/-- Makes a descriptor read from a text whose end can be read at a certain time. -/
def readFrom (descriptor : Nat) (text : Octets) (isFile : Bool) (ready : Nat) : Running Unit := do
  let s ← get
  let number := s.sources.length
  set { s with sources := ⟨number, text, isFile, ready⟩ :: s.sources }
  openChannel descriptor (.source number)

/-- Runs something whose status is looked at. -/
def guarded (act : Running Unit) : Running Unit := do
  let before := (← get).guarded
  modify fun s => { s with guarded := true }
  ensuring act (modify fun s => { s with guarded := before })

/-! ## Files -/

/-- What the shell says of a file that it cannot open. -/
def openFault (e : FileError) (missing : String) : String :=
  match e with
  | .notFound | .notDirectory => missing
  | e => e.cause

def standardDescriptor? (name : Octets) : Option Nat :=
  match String.ofList name with
  | "/dev/stdin" | "/dev/fd/0" => some 0
  | "/dev/stdout" | "/dev/fd/1" => some 1
  | "/dev/stderr" | "/dev/fd/2" => some 2
  | _ => none

/-- Makes a descriptor lead to a file, which is emptied unless it is appended to. Where files are
kept, one that is there is not opened unless `force` is set. -/
def openFile (descriptor : Nat) (name : Octets) (append force : Bool) : Running Bool := do
  let s ← get
  match standardDescriptor? name with
  | some d =>
    match s.channel? d with
    | some c => openChannel descriptor c
    | none => pure ()
    return true
  | none =>
    let refuse (why : String) : Running Bool := do
      complain ("cannot create ".toList ++ name ++ ": ".toList ++ why.toList)
      return false
    let path : Path := ⟨bytesOfOctets name⟩
    match s.files.reach path with
    | .ok ⟨_, .device⟩ =>
      openChannel descriptor .null
      return true
    | r =>
      if s.has 'C' && !append && !force && r.toOption.isSome then refuse "File exists"
      else
        match s.files.writable path with
        | .error e => refuse (openFault e "Directory nonexistent")
        | .ok l =>
          let node :=
            match s.files.at? l with
            | some (.file content executable) =>
              .file (if append then content else []) executable
            | _ => .file [] false
          modify fun s => { s with files := s.files.put l node }
          openChannel descriptor (.file l)
          return true

/-- Carries out a redirection with an expanded target. -/
def redirect (descriptor : Nat) (kind : RedirectKind) (target : Octets) : Running Bool := do
  let s ← get
  match kind with
  | .write => openFile descriptor target false false
  | .overwrite => openFile descriptor target false true
  | .append => openFile descriptor target true true
  | .inline =>
    readFrom descriptor target false 0
    return true
  | .read =>
    match standardDescriptor? target with
    | some d =>
      match s.channel? d with
      | some c => openChannel descriptor c
      | none => pure ()
      return true
    | none =>
      let path : Path := ⟨bytesOfOctets target⟩
      match s.files.reach path with
      | .ok ⟨_, .file content _⟩ =>
        readFrom descriptor (octetsOf content) true 0
        return true
      | .ok _ =>
        openChannel descriptor .null
        return true
      | .error e =>
        complain ("cannot open ".toList ++ target ++ ": ".toList ++
          (openFault e "No such file").toList)
        return false
  | .duplicate =>
    if target == ['-'] then
      modify fun s => { s with channels := s.channels.filter (·.1 != descriptor) }
      return true
    match (decimal? target).bind s.channel? with
    | some c =>
      openChannel descriptor c
      return true
    | none =>
      complain (target ++ ": Bad file descriptor".toList)
      return false

/-- Opens the targets of redirections one after the other. -/
def openAll : List (Nat × RedirectKind × Octets) → Running Bool
  | [] => return true
  | (d, kind, target) :: rest => do
    if ← redirect d kind target then openAll rest else return false

end Running
end LintRelay.Shell
