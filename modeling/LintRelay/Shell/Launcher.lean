import LintRelay.Shell.Builtin
import LintRelay.Shell.Tool.Find

/-!
# Programs that start programs

Some programs run another one: with other variables, for a limited time, or once for each file. How
a program is started is left to the shell. The programs of this module that start nothing need the
variables or the clock, which the tools do not know.
-/

namespace LintRelay.Shell

/-- The options of the program that changes the variables. -/
def environmentSwitches : List Task.Switch :=
  [⟨'i', "ignore-environment", false⟩, ⟨'0', "null", false⟩, ⟨'u', "unset", true⟩,
    ⟨'C', "chdir", true⟩, ⟨'v', "debug", false⟩]

/-- The options of the program that limits the time. -/
def limitSwitches : List Task.Switch :=
  [⟨'s', "signal", true⟩, ⟨'k', "kill-after", true⟩, ⟨'p', "preserve-status", false⟩,
    ⟨'f', "foreground", false⟩, ⟨'v', "verbose", false⟩]

/-- The time in microseconds that a text such as `1.5m` spells. -/
def duration? (cs : Octets) : Option Nat :=
  let whole := cs.takeWhile Char.isDigit
  let rest := cs.drop whole.length
  let fraction := match rest with
    | '.' :: ds => ds.takeWhile Char.isDigit
    | _ => []
  let rest := if rest.head? == some '.' then rest.drop (fraction.length + 1) else rest
  let unit : Option Nat := match rest with
    | [] | ['s'] => some 1
    | ['m'] => some 60
    | ['h'] => some 3600
    | ['d'] => some 86400
    | _ => none
  if cs == "infinity".toList || cs == "inf".toList then some 1000000000000000
  else if whole.isEmpty && fraction.isEmpty then none
  else unit.map fun u =>
    Nat.ofDigitChars 10 (whole ++ fraction) 0 * u * 1000000 / Nat.pow 10 fraction.length

namespace Launcher

/-- Starts a program, of which the first word is the name. -/
abbrev Start := List Octets → Running (Except FileError Ending)

/-- A program as an action on its name and its arguments. -/
abbrev Program := Start → Octets → List Octets → Running Unit

open Running

/-- Prints a complaint of a program. -/
def complain (program message : Octets) (status : Nat) : Running Unit := do
  let _ ← print 2 (program ++ ": ".toList ++ message ++ ['\n'])
  finish status

/-- Points to the help of a program. -/
def refer (program : Octets) (status : Nat) : Running Unit := do
  let _ ← print 2 ("Try '".toList ++ program ++ " --help' for more information.\n".toList)
  finish status

/-- Refuses the arguments of a program. -/
def misused (program message : Octets) (status : Nat) : Running Unit := do
  complain program message status
  refer program status

/-- The status of a program that cannot be started. -/
def failureStatus (e : FileError) : Nat :=
  match e with
  | .notFound | .notDirectory => 127
  | _ => 126

/-- Lets a program take the place of the running one. `describe` is the complaint where that
fails. -/
def replaceBy (start : Start) (program : Octets) (describe : Octets → FileError → Octets)
    (words : List Octets) : Running Unit := do
  match ← start words with
  | .ok (.exited status) => finish status
  | .ok (.signalled signal) => throw (.killed (← get).self signal)
  | .error e => complain program (describe (words.headD []) e) (failureStatus e)

/-- A complaint about a program in quotes. -/
def quotedName (lead : String) (name : Octets) (e : FileError) : Octets :=
  lead.toList ++ Task.because (Task.quoted name) e

/-- Prints a text, which may fail. -/
def show' (program text : Octets) : Running Unit := do
  if ← print 1 text then finish 0
  else complain program "write error: Bad file descriptor".toList 1

/-- The variables that programs are given, as lines. -/
def variableLines (s : State) : List Octets :=
  s.bindings.filterMap fun (name, v) =>
    if v.exported then v.value.map fun value => name.toList ++ '=' :: value else none

/-- Runs a program with other variables. -/
def environment : Program := fun start program arguments => do
  match Task.readCall environmentSwitches false none arguments with
  | .error e => misused program e 125
  | .ok call =>
    let (cleared, operands) : Bool × List Octets :=
      if call.operands.head? == some ['-'] then (true, call.operands.drop 1)
      else (call.has 'i', call.operands)
    if cleared then modify fun s => { s with bindings := [] }
    (call.values 'u').forM fun name => modify fun s => s.replace (String.ofList name) none
    let (settings, words) := operands.span (·.contains '=')
    settings.forM fun a =>
      let (name, value) := a.span (· != '=')
      modify fun s => s.replace (String.ofList name) (some ⟨some (value.drop 1), true, false⟩)
    if words.isEmpty then
      let ls := variableLines (← get)
      show' program (if call.has '0' then ls.flatMap (· ++ ['\x00']) else textOfLines ls)
    else replaceBy start program (quotedName "") words

def printVariables : Program := fun _ program arguments => do
  let s ← get
  if arguments.isEmpty then show' program (textOfLines (variableLines s))
  else
    let values := arguments.map fun name => s.binding? (String.ofList name)
    show' program (textOfLines (values.filterMap id))
    if values.any (·.isNone) then finish 1

def sleep : Program := fun _ program arguments => do
  match Task.readCall [] false none arguments with
  | .error e => misused program e 1
  | .ok call =>
    if call.operands.isEmpty then misused program "missing operand".toList 1
    else
      match call.operands.filter fun a => (duration? a).isNone with
      | [] =>
        pass (call.operands.foldl (fun n a => n + (duration? a).getD 0) 0)
        finish 0
      | wrong =>
        wrong.forM fun a => complain program ("invalid time interval ".toList ++ Task.quoted a) 1
        refer program 1

/-- Runs a program for a limited time. -/
def limited : Program := fun start program arguments => do
  match Task.readCall limitSwitches false none arguments with
  | .error e => misused program e 125
  | .ok call =>
    match call.operands with
    | limit :: word :: words =>
      match duration? limit with
      | none => misused program ("invalid time interval ".toList ++ Task.quoted limit) 125
      | some limit =>
        let name := (call.value? 's').getD "TERM".toList
        let name := if "SIG".toList.isPrefixOf name then name.drop 3 else name
        match signal? name with
        | none => misused program (Task.quoted name ++ ": invalid signal".toList) 125
        | some signal =>
          let s ← get
          let moment := s.clock + limit
          if limit > 0 then
            set { s with deadline := some (s.deadline.elim moment (min moment)) }
          let ending ← tryCatch (some <$> start (word :: words)) fun jump =>
            if jump == .expired && limit > 0 && s.deadline.all (moment < ·) then return none
            else throw jump
          modify fun t => { t with deadline := s.deadline }
          match ending with
          | some (.ok e) => finish e.status
          | some (.error e) =>
            complain program (quotedName "failed to run command " word e) (failureStatus e)
          | none =>
            if signal == 9 then throw (.killed s.self 9)
            finish (if call.has 'p' then 128 + signal else 124)
    | _ => refer program 125

/-- Runs a program as it is, behind options of one's own. -/
def plainly (known : List Task.Switch) (status : Nat) (missing : Octets → Running Unit)
    (describe : Octets → FileError → Octets) : Program := fun start program arguments => do
  match Task.readCall known false none arguments with
  | .error e => misused program e status
  | .ok call =>
    if call.operands.isEmpty then missing program
    else replaceBy start program describe call.operands

/-- Shows where programs stand. -/
def which : Program := fun _ _ arguments => do
  let s ← get
  let (options, names) := arguments.span fun a => a.head? == some '-'
  let all := options.any (·.contains 'a')
  let places (name : Octets) : List Octets :=
    let paths : List Octets :=
      if name.contains '/' then [name]
      else s.searchPath.map fun d => octetsOf (d.join ⟨bytesOfOctets name⟩).bytes
    let found := paths.filter fun p =>
      match s.files.reach ⟨bytesOfOctets p⟩ with
      | .ok ⟨_, .file _ executable⟩ => executable
      | _ => false
    if all then found else found.take 1
  let _ ← print 1 (textOfLines (names.flatMap places))
  decide (!names.isEmpty && names.all fun name => !(places name).isEmpty)

/-- Decides a condition. -/
def test : Program := fun _ program arguments => do
  match condition (← get).files arguments with
  | .ok b => decide b
  | .error e => complain program (conditionComplaint arguments e) 2

/-- Decides a condition that a bracket closes. -/
def testClosed : Program := fun start program arguments =>
  if arguments.getLast? == some [']'] then test start program arguments.dropLast
  else complain program "missing ']'".toList 2

/-- What a program that runs others for files or arguments needs. `failure` is its complaint about one
that cannot be run, with the status. -/
def host (start : Start) (program : Octets) (describe : Octets → FileError → Octets) :
    Finding.Host Running where
  files := return (← get).files
  setFiles files := modify fun s => { s with files }
  say descriptor text := do let _ ← print descriptor text
  run words := do
    match ← start words with
    | .ok (.exited status) => return status
    | .ok (.signalled signal) =>
      complain program (words.headD [] ++ ": terminated by signal ".toList ++ digitsOf signal) 125
      return 125
    | .error e =>
      complain program (describe (words.headD []) e) 1
      return failureStatus e

/-- Walks through files. -/
def findFiles : Program := fun start program arguments => do
  finish (← Finding.run (host start program fun name e => Task.because (Task.quoted name) e)
    program arguments)

/-- Runs a program on arguments that are read. -/
def gather : Program := fun start program arguments => do
  match Task.readCall Gathering.switches false none arguments with
  | .error e => misused program e 1
  | .ok call =>
    let s ← get
    let input := s.channel? 0
    set (s.withUnread input [])
    passUntil ((s.source? input).elim 0 (·.ready))
    let h := host start program Task.because
    let run (words : List Octets) : Running Nat := do
      let status ← h.run words
      if status == 255 then
        complain program (words.headD [] ++ ": exited with status 255; aborting".toList) 124
      return status
    finish (← Gathering.run { h with run } call (s.unread input))

/-- The programs of this module by their names. -/
def all : List (String × Program) :=
  [("env", environment), ("printenv", printVariables), ("sleep", sleep), ("timeout", limited),
    ("nice", plainly [⟨'n', "adjustment", true⟩] 125 (show' · "0\n".toList) (quotedName "")),
    ("nohup", plainly [] 125 (misused · "missing operand".toList 125)
      (quotedName "failed to run command ")),
    ("stdbuf", plainly (Task.valued "ioe") 125 (misused · "missing operand".toList 125)
      (quotedName "failed to run command ")),
    ("setsid", plainly (Task.letters "wcf") 1 (misused · "no command specified".toList 1)
      fun name e => "failed to execute ".toList ++ Task.because name e),
    ("which", which), ("test", test), ("[", testClosed), ("find", findFiles), ("xargs", gather)]

end Launcher
end LintRelay.Shell
