import LintRelay.Program.Basic
import LintRelay.Shell.Expansion
import LintRelay.Shell.Launcher
import LintRelay.Shell.Tool.Catalog

/-!
# Running shell scripts

Commands are run one after the other, and a program that a command names is a tool, another script,
or part of the shell itself. A run recurses on a bound, which also bounds the length of loops; where
it is used up, the run is stuck.

Jobs in the background go on a part at a time: whenever the shell runs a command, each job does what
it begins up to that time.
-/

namespace LintRelay.Shell

/-- The time in microseconds that a command, a new process and a program take at least. -/
def commandTime : Nat := 20

@[inherit_doc commandTime]
def forkTime : Nat := 300

@[inherit_doc commandTime]
def programTime : Nat := 1000

/-- The bound on the commands of a pipeline whose output is read, since a run without end is cut off
by its reader. -/
def writerBudget : Nat := 20000

/-- The frames of a job that are left when a jump leaves so many loops, and whether the next one goes
on. -/
def Pending.behindLoops : Nat → Bool → List Pending → List Pending
  | _, _, [] => []
  | n, again, p :: ps =>
    match p with
    | .loop .. | .each .. =>
      match n with
      | 0 => if again then p :: ps else ps
      | n + 1 => behindLoops n again ps
    | _ => behindLoops n again ps

/-- The number of loops among the frames of a job. -/
def Pending.loops (ps : List Pending) : Nat :=
  ps.countP fun
    | .loop .. | .each .. => true
    | _ => false

/-- What a job has to do for a command. -/
def Pending.ofCommand : Command → List Pending
  | .subshell body rs | .group body rs =>
    if rs.isEmpty then [.command body] else [.redirects rs, .command body]
  | c => [.command c]

/-- The job that goes on next, among those that `p` holds of. -/
def State.nextJob? (s : State) (p : Job → Bool) : Option Job :=
  s.jobs.foldl (fun best j =>
    if p j && best.all (j.clock < ·.clock) then some j else best) none

/-- Whether a job may still print to a channel. -/
def Job.holds (j : Job) (c : Channel) : Bool := j.scope.channels.any (·.2 == c)

namespace Running

/-- Prints what a tool said, in order. Gives whether all of it could be printed. -/
def sayAll : List (Nat × Octets) → Running Bool
  | [] => return true
  | (descriptor, text) :: rest => do
    let done ← print descriptor text
    let others ← sayAll rest
    return done && others

def useTool (tool : Tool) (name : Octets) (arguments : List Octets) : Running Unit := do
  let s ← get
  let input := s.channel? 0
  let source := s.source? input
  let text := s.unread input
  let w := tool ⟨name, arguments, text, source.any (·.isFile), s.files⟩
  set ({ s with files := w.files }.withUnread input w.input)
  if w.input.length < text.length || text.isEmpty then passUntil (source.elim 0 (·.ready))
  if ← sayAll w.said then finish w.status
  else
    let (what, status) := match String.ofList (lastName name) with
      | "cat" => ("standard output", 1)
      | "ls" | "sort" | "grep" => ("write error", 2)
      | _ => ("write error", 1)
    let _ ← print 2 (name ++ (": " ++ what ++ ": Bad file descriptor\n").toList)
    finish status

/-- Runs something of which more follows in the shell. -/
def followed (act : Running Unit) : Running Unit := do
  let before := (← get).final
  modify fun s => { s with final := false }
  ensuring act (modify fun s => { s with final := before })

/-- Shows a command before it is run, if that is asked for. -/
def trace (channel : Option Channel) (words : List Octets) : Running Unit := do
  let s ← get
  if s.has 'x' then
    let _ ← printOn channel ((s.binding? "PS4").getD [] ++ spaced words ++ ['\n'])

/-- Ends a strict shell whose command failed. -/
def checkStatus : Running Unit := do
  let s ← get
  if s.has 'e' && !s.guarded && s.status != 0 then throw .exit

/-- Reports a signal that ended a process. -/
def notice (e : Ending) : Running Unit := do
  match e with
  | .signalled signal => let _ ← print 2 (signalNotice signal).toList
  | .exited _ => pure ()

/-- Takes over how a process ended. Where nothing follows, the process has taken the place of the
shell. -/
def conclude (e : Ending) : Running Unit := do
  let s ← get
  let ended := s.ended.map fun (e : EndedJob) => { e with noticed := true }
  set { s with ended }
  match e, s.final && s.traps.isEmpty with
  | .signalled signal, true => throw (.killed s.self signal)
  | _, _ =>
    notice e
    finish e.status

/-- Reports a program that cannot be run. -/
def complainOf (name : Octets) (e : FileError) : Running Unit := do
  match e with
  | .notFound | .notDirectory =>
    complain (name ++ (if name.isEmpty then ": Permission denied" else ": not found").toList)
    finish 127
  | e =>
    complain (Task.because name e)
    finish (if name.contains '/' then 126 else 127)

/-- Makes the scope that of a shell that was started as a program. -/
def becomeShell (name : Octets) : Running Unit := do
  let s ← get
  let given := s.binding? "PWD"
  let isHere (path : Octets) : Bool :=
    path.head? == some '/' &&
      ((s.files.reach ⟨bytesOfOctets path⟩).toOption.map (·.location)) == some s.files.base
  let place := (given.filter isHere).getD s.directory
  let own : List (String × Octets) :=
    [("IFS", " \t\n".toList), ("OPTIND", ['1']), ("PS1", "# ".toList), ("PS2", "> ".toList),
      ("PS4", "+ ".toList), ("PPID", digitsOf (s.above.headD 0))]
  let own :=
    if (s.binding? "PATH").isSome then own
    else ("PATH", (State.environment.find? (·.1 == "PATH")).elim [] fun v => v.2.value.getD []) :: own
  let names := own.map (·.1)
  let settings : List (String × Variable) :=
    ("PWD", ⟨some place, true, false⟩) :: own.map fun (n, v) => (n, ⟨some v, false, false⟩)
  let given := s.bindings.filter fun v => v.1 != "PWD" && !names.contains v.1
  set { s with
    name := name
    place := place
    parameters := []
    bindings := settings ++ given
    pid := s.self
    parent := s.above.headD 0
    line := 0
    option := 1
    letters := 0 }

/-- The rank of a variable among those that a program is given. -/
def rank (name : String) : Nat :=
  name.toList.foldl (fun n c => n + c.toNat) (16 * (name.toList.headD '\x00').toNat) % 39

/-- What is left of a scope for a program. -/
def programScope (s : Scope) : Scope := { s with
  caller := []
  bindings :=
    ((s.bindings.filter fun v => v.2.exported && v.2.value.isSome).map
      fun v => (v.1, { v.2 with fixed := false })).mergeSort fun a b => rank a.1 ≤ rank b.1
  functions := []
  aliases := []
  options := []
  locals := none
  guarded := false
  loops := 0
  trapStatus := none
  lastJob := none }

def endJob (job : Job) (ending : Ending) (finish : Nat) : Running Unit :=
  modify fun s => { s with
    jobs := s.jobs.filter (·.pid != job.pid)
    ended := ⟨job.pid, job.owner, ending, finish, false⟩ :: s.ended }

/-- Sends a signal to a job. What it does for a trap comes before everything else it has to do. -/
def signalJob (job : Job) (signal : Nat) : Running Unit := do
  match job.scope.traps.find? (·.1 == signal), signal == 9 with
  | some (_, action), false =>
    if !action.isEmpty then
      let act : Command := .simple job.scope.line [] [[.text "eval".toList false], [.text action true]] []
      let now := max job.clock (← get).clock
      modify fun s => { s with
        jobs := s.jobs.map fun j =>
          if j.pid == job.pid then { j with todo := .command act :: j.todo, clock := now } else j }
  | _, _ =>
    if !harmlessSignals.contains signal then endJob job (.signalled signal) (← get).clock

def sendSignal (signal pid : Nat) : Running Unit := do
  let s ← get
  let deliver (traps : List (Nat × Octets)) : Running Unit :=
    match traps.find? (·.1 == signal), signal == 9 with
    | some (_, action), false =>
      if action.isEmpty then return
      else modify fun s => { s with arrived := s.arrived ++ [(pid, signal)] }
    | _, _ => if harmlessSignals.contains signal then return else throw (.killed pid signal)
  if pid == s.self && s.self == s.pid then deliver s.traps
  else if pid == s.pid then deliver s.mainTraps
  else if pid == s.self || s.above.contains pid then deliver []
  else
    match s.jobs.find? (·.pid == pid) with
    | some job => signalJob job signal
    | none =>
      if !s.ended.any (·.pid == pid) then
        complain "No such process\n".toList
        finish 1

/-- Sends signals to processes, or shows their names. -/
def kill (arguments : List Octets) : Running Unit := do
  let usage : Running Unit := do
    fail ("Usage: kill [-s sigspec | -signum | -sigspec] [pid | job]... or\n" ++
      "kill -l [exitstatus]").toList
  let direct := arguments.head?.bind fun a => if a.head? == some '-' then signal? (a.drop 1) else none
  match direct with
  | some signal => send signal (arguments.drop 1) usage
  | none =>
    let c ← call "l" "s" arguments
    if c.has 'l' then
      match c.operands with
      | [] =>
        answer (textOfLines (['0'] :: (List.range 64).map fun n => (signalName (n + 1)).toList))
      | a :: _ =>
        let n ← count a
        let n := if n > 128 then n - 128 else n
        if n == 0 || n > 64 then fail ("invalid signal number or exit status: ".toList ++ a)
        answer ((signalName n).toList ++ ['\n'])
    else
      match c.value? 's' with
      | some name =>
        match signal? name with
        | some signal => send signal c.operands usage
        | none => fail ("invalid signal number or name: ".toList ++ name)
      | none => send 15 c.operands usage
where
  /-- Sends a signal to the processes that arguments name. -/
  send (signal : Nat) (targets : List Octets) (usage : Running Unit) : Running Unit := do
    if targets.isEmpty then usage
    finish 0
    targets.forM fun a => do
      let s ← get
      if a.head? == some '%' then
        let own := s.jobs.filter (·.owner == s.self)
        match (decimal? (a.drop 1)).bind fun n => own[n - 1]? with
        | some job => sendSignal signal job.pid
        | none => fail ("No such job: ".toList ++ a)
      else
        sendSignal signal (← count a)

/-- Runs something and gives what it printed, with the jump that it ends with. Jobs that may still add
to the output go on before that, which `drain` sees to. -/
def captured (drain : Channel → Running Unit) (act : Running Unit) :
    Running (Option Jump × Octets) := do
  let before ← get
  let own := Channel.capture before.captures
  set { before with captures := before.captures + 1 }
  openChannel 1 own
  let jump ← caught do
    act
    drain own
  reopen before.channels [1]
  let s ← get
  set { s with printed := s.printed.filter (·.channel != own) }
  return (jump, s.textOn own)

/-- The jump that a shell ends with, unless it ends by itself. -/
def stopping : Option Jump → Option Jump
  | some (.killed pid signal) => some (.killed pid signal)
  | some .stuck => some .stuck
  | some .expired => some .expired
  | _ => none

/-- The file that a name behind a dot stands for. -/
def sourceFile? (s : State) (name : Octets) : Option Octets :=
  if name.contains '/' then some name
  else
    let paths := s.searchPath.map fun d => d.join ⟨bytesOfOctets name⟩
    (paths.find? s.files.isFile).map (octetsOf ·.bytes)

mutual

/-- Runs the commands of a script. `lines` is the number of its line ends. -/
def runText : Nat → Nat → Octets → Running Unit
  | 0, _, _ => throw .stuck
  | fuel + 1, lines, cs => do
    let s ← get
    match nextCommand ⟨lines, s.aliases⟩ cs with
    | .error e =>
      set { s with line := lines - e.left + 1 }
      fail e.error.message.toList
    | .ok none => return
    | .ok (some (c, rest)) =>
      if s.final && !(dropLines rest.length rest).isEmpty then followed (run fuel c) else run fuel c
      runText fuel lines rest

/-- Runs a whole script. -/
def runSource : Nat → Octets → Running Unit
  | 0, _ => throw .stuck
  | fuel + 1, cs => runText fuel (cs.count '\n') cs

/-- Runs something and then what the shell does at its end. -/
def closing : Nat → Running Unit → Running Unit
  | 0, _ => throw .stuck
  | fuel + 1, act => do
    let jump ← caught act
    resume (stopping jump)
    let s ← get
    match s.traps.find? (·.1 == 0) with
    | none => return
    | some (_, action) =>
      set { s with traps := s.traps.filter (·.1 != 0), trapStatus := some s.status, final := false }
      match ← caught (runSource fuel action) with
      | some .exit | some .error => return
      | jump =>
        resume (stopping jump)
        finish s.status

def handleSignals : Nat → Running Unit
  | 0 => throw .stuck
  | fuel + 1 => do
    let s ← get
    match s.arrived.find? (·.1 == s.self) with
    | none => return
    | some arrival =>
      set { s with arrived := s.arrived.erase arrival, trapStatus := some s.status, final := false }
      let action := (s.traps.find? (·.1 == arrival.2)).elim [] (·.2)
      let jump ← caught (runSource fuel action)
      modify fun t => { t with trapStatus := s.trapStatus, final := s.final }
      resume jump
      finish s.status
      handleSignals fuel

/-- Runs a script for its output. -/
def outputOf : Nat → Octets → Running Octets
  | 0, _ => throw .stuck
  | fuel + 1, source => do
    let status := (← get).status
    pass forkTime
    let (jump, text) ← captured (drain fuel) do
      let e ← forked ({ · with guarded := false }) (closing fuel (runSource fuel source))
      notice e
      finish e.status
    resume jump
    modify fun s => { s with
      status
      outputStatus := if source.all isGap then 0 else s.status }
    return text

/-- Does a part of a job, and gives what is to be done in its place. -/
def perform : Nat → Pending → Running (List Pending)
  | 0, _ => throw .stuck
  | fuel + 1, p => do
    match p with
    | .redirects rs =>
      if ← openAll (← expandTargets (outputOf fuel) rs) then return []
      finish 2
      throw .exit
    | .loop goal test body =>
      spend
      pass commandTime
      guarded (run fuel test)
      return if ((← get).status == 0) == goal then [.command body, p] else []
    | .each _ [] _ => return []
    | .each name (v :: vs) body =>
      setVariable name v
      return [.command body, .each name vs body]
    | .command (.sequence a b) => return [.command a, .command b]
    | .command (.both a b) =>
      guarded (run fuel a)
      return if (← get).status == 0 then [.command b] else []
    | .command (.either a b) =>
      guarded (run fuel a)
      return if (← get).status == 0 then [] else [.command b]
    | .command (.branch test yes no) =>
      guarded (run fuel test)
      return [.command (if (← get).status == 0 then yes else no)]
    | .command (.loop goal test body) => return [.loop goal test body]
    | .command (.each name (some ws) body) =>
      return [.each name (← expandWords (outputOf fuel) ws) body]
    | .command c =>
      run fuel c
      return []

/-- Lets a job do its next part, beside the running shell. -/
def stepJob : Nat → Job → Running Unit
  | 0, _ => throw .stuck
  | fuel + 1, job => do
    let before ← get
    let rest := job.todo.drop 1
    set { before with
      toScope := { job.scope with loops := Pending.loops rest }
      status := job.status
      clock := job.clock
      files := before.files.withBase job.directory
      jobs := before.jobs.filter (·.pid != job.pid) }
    let (jump, todo) : Option Jump × List Pending ←
      match job.todo with
      | [] => do
        let jump ← caught (closing fuel (return))
        pure (jump, [])
      | p :: _ =>
        tryCatch (do return (none, (← perform fuel p) ++ rest)) fun jump => return (some jump, [])
    let after ← get
    set { after with
      toScope := before.toScope
      status := before.status
      outputStatus := before.outputStatus
      clock := before.clock
      files := after.files.withBase before.files.base }
    let goOn (todo : List Pending) : Running Unit :=
      let job := { job with
        scope := after.toScope
        directory := after.files.base
        status := after.status
        clock := after.clock
        todo }
      modify fun s => { s with jobs := (job :: s.jobs).mergeSort fun a b => a.pid ≤ b.pid }
    let atEnd := job.todo.isEmpty
    match jump with
    | some (.killed pid signal) =>
      if pid == job.pid then endJob job (.signalled signal) after.clock
      else throw (.killed pid signal)
    | some .stuck => throw .stuck
    | some .expired => endJob job (.signalled 15) after.clock
    | some (.break n) => goOn (Pending.behindLoops n false rest)
    | some (.continue n) => goOn (Pending.behindLoops n true rest)
    | some _ => if atEnd then endJob job (.exited (after.status % 256)) after.clock else goOn []
    | none => if atEnd then endJob job (.exited (after.status % 256)) after.clock else goOn todo

/-- Lets all jobs go on up to a moment. -/
def settle : Nat → Nat → Running Unit
  | 0, _ => throw .stuck
  | fuel + 1, moment => do
    match (← get).nextJob? (·.clock ≤ moment) with
    | none => return
    | some job => do
      stepJob fuel job
      settle fuel moment

/-- Lets jobs go on until none of them may print to a channel, and waits for the end of those that
might. -/
def drain : Nat → Channel → Running Unit
  | 0, _ => throw .stuck
  | fuel + 1, c => do
    let s ← get
    if s.jobs.any (·.holds c) then
      match s.nextJob? fun _ => true with
      | none => return
      | some job => do
        stepJob fuel job
        match (← get).ended.find? (·.pid == job.pid) with
        | some e => if job.holds c then passUntil e.finish
        | none => pure ()
        drain fuel c

/-- Lets jobs go on until those of the given numbers have ended, or a signal arrives. -/
def await : Nat → List Nat → Running Unit
  | 0, _ => throw .stuck
  | fuel + 1, pids => do
    let s ← get
    if s.arrived.any (·.1 == s.self) then return
    if s.jobs.any fun j => pids.contains j.pid then
      match s.nextJob? fun _ => true with
      | none => return
      | some job => do
        passUntil job.clock
        stepJob fuel job
        await fuel pids
    else
      passUntil ((s.ended.filter fun e => pids.contains e.pid).foldl (fun n e => max n e.finish) 0)

def wait : Nat → List Octets → Running Unit
  | 0, _ => throw .stuck
  | fuel + 1, arguments => do
    let c ← call "" "" arguments
    finish 0
    let interrupted : Running Unit := do
      let s ← get
      match s.arrived.find? (·.1 == s.self) with
      | some (_, signal) => finish (128 + signal)
      | none => return
    let s ← get
    let own := s.jobs.filter (·.owner == s.self)
    if c.operands.isEmpty then
      await fuel (own.map (·.pid))
      modify fun s => { s with ended := s.ended.map ({ · with noticed := true }) }
      interrupted
    else
      c.operands.forM fun a => do
        let pid ←
          if a.head? == some '%' then
            match (decimal? (a.drop 1)).bind fun n => own[n - 1]? with
            | some job => pure job.pid
            | none => fail ("No such job: ".toList ++ a)
          else count a
        if own.any (·.pid == pid) then await fuel [pid]
        match (← get).ended.find? fun e => e.pid == pid && e.owner == s.self with
        | some e =>
          if !e.noticed then
            modify fun s => { s with
              ended := s.ended.map fun e => if e.pid == pid then { e with noticed := true } else e }
            notice e.ending
          finish e.ending.status
        | none => finish 127
        interrupted

/-- Runs something with redirections in force. Where one fails, it is not run. -/
def redirected : Nat → List Redirect → Command → Running Unit
  | 0, _, _ => throw .stuck
  | fuel + 1, rs, c => do
    let before := (← get).channels
    let targets ← expandTargets (outputOf fuel) rs
    ensuring
      (do if ← openAll targets then followed (run fuel c) else finish 2)
      (reopen before (rs.map (·.descriptor)))

def run : Nat → Command → Running Unit
  | 0, _ => throw .stuck
  | fuel + 1, c => do
    if (← get).has 'n' then return
    match c with
    | .nothing => finish 0
    | .sequence a b =>
      if (← get).final then followed (run fuel a) else run fuel a
      run fuel b
    | .background a =>
      let s ← get
      let pid := s.nextPid
      let scope := { s.toScope.child pid with
        guarded := false
        channels := (0, .null) :: s.channels.filter (·.1 != 0) }
      let start := s.clock + 2 * forkTime
      let job : Job := ⟨pid, s.self, scope, s.files.base, s.status, Pending.ofCommand a, start⟩
      set { s with jobs := s.jobs ++ [job], nextPid := pid + 1, lastJob := some pid, status := 0 }
      pass forkTime
    | .negation a =>
      followed (guarded (run fuel a))
      decide ((← get).status != 0)
    | .both a b =>
      followed (guarded (run fuel a))
      if (← get).status == 0 then run fuel b
    | .either a b =>
      followed (guarded (run fuel a))
      if (← get).status != 0 then run fuel b
    | .group body rs => if rs.isEmpty then run fuel body else redirected fuel rs body
    | .subshell body rs =>
      pass forkTime
      let e ← forked id (closing fuel (redirected fuel rs body))
      conclude e
      checkStatus
    | .pipeline stages =>
      runPipeline fuel stages
      checkStatus
    | .branch test yes no =>
      followed (guarded (run fuel test))
      if (← get).status == 0 then run fuel yes else run fuel no
    | .loop goal test body =>
      let status ← runLoop fuel goal test body 0
      finish status
    | .each name words body =>
      let values ← match words with
        | some ws => expandWords (outputOf fuel) ws
        | none => pure (← get).parameters
      finish 0
      followed (runEach fuel name values body)
    | .choice subject arms =>
      let text ← expandText (outputOf fuel) subject
      finish 0
      runChoice fuel text arms
    | .function name body =>
      modify fun s => { s with
        functions := (name, body) :: s.functions.filter (·.1 != name)
        status := 0 }
    | .simple line assignments words rs =>
      modify fun s => { s with line }
      runSimple fuel assignments words rs
      checkStatus
    if !(← get).arrived.isEmpty then handleSignals fuel

/-- Runs the commands of a pipeline, each reading what the one before printed. -/
def runPipeline : Nat → List Command → Running Unit
  | 0, _ => throw .stuck
  | _ + 1, [] => return
  | fuel + 1, [c] => do
    pass forkTime
    let e ← forked id (closing fuel (run fuel c))
    notice e
    finish e.status
  | fuel + 1, c :: cs => do
    pass forkTime
    let before ← get
    let (jump, text) ← captured (drain fuel) (budgeted writerBudget do
      let e ← forked id (closing fuel (run fuel c))
      notice e)
    -- A command without end is ended by the one that reads from it.
    let isCut := jump == some .stuck
    if !isCut then resume jump
    let after ← get
    let ready := if isCut then before.clock else after.clock
    modify fun s => { s with clock := before.clock }
    readFrom 0 text false ready
    ensuring (runPipeline fuel cs) (reopen before.channels [0])
    passUntil ready

/-- Runs a loop and gives the status of its last round. -/
def runLoop : Nat → Bool → Command → Command → Nat → Running Nat
  | 0, _, _, _, _ => throw .stuck
  | fuel + 1, goal, test, body, last => do
    spend
    followed (guarded (run fuel test))
    if ((← get).status == 0) != goal then return last
    match ← looping (followed (run fuel body)) with
    | some (.break 0) => return 0
    | some (.break (n + 1)) => throw (.break n)
    | some (.continue (n + 1)) => throw (.continue n)
    | none | some (.continue 0) => runLoop fuel goal test body (← get).status
    | some j => throw j

/-- Runs a command for each value of a variable. -/
def runEach : Nat → String → List Octets → Command → Running Unit
  | 0, _, _, _ => throw .stuck
  | _ + 1, _, [], _ => return
  | fuel + 1, name, v :: vs, body => do
    setVariable name v
    match ← looping (run fuel body) with
    | some (.break 0) => return
    | some (.break (n + 1)) => throw (.break n)
    | some (.continue (n + 1)) => throw (.continue n)
    | none | some (.continue 0) => runEach fuel name vs body
    | some j => throw j

/-- Runs the first arm with a pattern that matches a text. -/
def runChoice : Nat → Octets → List (List Word × Command) → Running Unit
  | 0, _, _ => throw .stuck
  | _ + 1, _, [] => return
  | fuel + 1, text, (ps, body) :: arms => do
    if ← matchesAny fuel text ps then run fuel body else runChoice fuel text arms

/-- Whether one of the patterns matches a text. -/
def matchesAny : Nat → Octets → List Word → Running Bool
  | 0, _, _ => throw .stuck
  | _ + 1, _, [] => return false
  | fuel + 1, text, p :: ps => do
    if accepts (← expandPattern (outputOf fuel) p) text then return true
    else matchesAny fuel text ps

def runSimple : Nat → List (String × Word) → List Word → List Redirect → Running Unit
  | 0, _, _, _ => throw .stuck
  | fuel + 1, assignments, words, rs => do
    spend
    pass commandTime
    let s ← get
    if !s.jobs.isEmpty then settle fuel s.clock
    modify fun s => { s with outputStatus := 0 }
    let output := outputOf fuel
    let fields ← expandCommand output words
    let targets ← expandTargets output rs
    let s ← get
    let close := reopen s.channels (rs.map (·.descriptor))
    match fields with
    | [] =>
      let act : Running Unit := do
        if ← openAll targets then
          trace (s.channel? 2) (← assign output false assignments)
          finish (← get).outputStatus
        else finish 2
      ensuring act close
    | name :: arguments =>
      let name := String.ofList name
      let isSpecial := specialBuiltins.contains name
      let act : Running Unit := do
        if ← openAll targets then
          let old := assignments.map fun (n, _) => (n, s.bound? n)
          let values ← assign output (!isSpecial || name == "exec") assignments
          trace (s.channel? 2) (values ++ fields)
          if isSpecial || assignments.isEmpty then runNamed fuel name arguments
          else ensuring (runNamed fuel name arguments) (old.forM fun (n, v) => restore n v)
        else
          finish 2
          if isSpecial then throw .error
      if rs.isEmpty || (name == "exec" && arguments.isEmpty) then act else ensuring act close

/-- Runs what a name stands for: a function, a part of the shell or a program. -/
def runNamed : Nat → String → List Octets → Running Unit
  | 0, _, _ => throw .stuck
  | fuel + 1, name, arguments => do
    let s ← get
    match s.functions.find? (·.1 == name) with
    | some (_, body) =>
      set { s with
        parameters := arguments
        loops := 0
        locals := some []
        option := 1
        letters := 0
        final := false }
      let jump ← caught (run fuel body)
      ((← get).locals.getD []).forM fun (n, v) => restore n v
      modify fun t => { t with
        parameters := s.parameters
        loops := s.loops
        locals := s.locals
        option := s.option
        letters := s.letters
        final := s.final }
      match jump with
      | none | some .leave => return
      | some j => throw j
    | none => if isPart name then runPart fuel name arguments else runProgram fuel (name.toList :: arguments)

/-- Runs a part of the shell. A fault in one that is not special does not go further. -/
def runPart : Nat → String → List Octets → Running Unit
  | 0, _, _ => throw .stuck
  | fuel + 1, name, arguments => do
    let s ← get
    let act : Running Unit :=
      match name with
      | "eval" => do
        let source := spaced arguments
        if source.all isGap then finish 0
        runSource fuel source
      | "." => runFile fuel arguments
      | "exec" => replaceShell fuel arguments
      | "command" => do
        let c ← call "pvV" "" arguments
        modify fun t => { t with caller := s.caller }
        match c.operands, c.lastOf? "vV" with
        | [], _ => finish 0
        | name :: _, some letter => describe (letter == 'V') name
        | name :: arguments, none =>
          if isPart (String.ofList name) then runPart fuel (String.ofList name) arguments
          else runProgram fuel (name :: arguments)
      | "kill" => kill arguments
      | "wait" => wait fuel arguments
      | "type" => describeAll arguments
      | _ =>
        match parts.find? (·.1 == name) with
        | some (_, part) => part arguments
        | none => return
    set { s with caller := (name ++ ": ").toList }
    let jump ← caught act
    modify fun t => { t with caller := s.caller }
    if jump == some .error && !specialBuiltins.contains name then return
    resume jump

/-- Runs the script in a file as a part of the running one. -/
def runFile : Nat → List Octets → Running Unit
  | 0, _ => throw .stuck
  | fuel + 1, arguments => do
    match arguments with
    | [] => finish 0
    | name :: _ =>
      let s ← get
      match sourceFile? s name with
      | none => fail (name ++ ": not found".toList)
      | some path =>
        match s.files.read ⟨bytesOfOctets path⟩ with
        | .error .isDirectory => finish 0
        | .error e =>
          fail ("cannot open ".toList ++ path ++ (": " ++ openFault e "No such file").toList)
        | .ok content =>
          set { s with caller := path ++ ": ".toList, guarded := false, final := false, status := 0 }
          let jump ← caught (runSource fuel (octetsOf content))
          modify fun t => { t with guarded := s.guarded, final := s.final }
          if jump != some .leave then resume jump

/-- Lets a program take the place of the shell. -/
def replaceShell : Nat → List Octets → Running Unit
  | 0, _ => throw .stuck
  | fuel + 1, words => do
    match words with
    | [] => finish 0
    | name :: _ =>
      match ← process fuel (← get).searchPath words with
      | .ok e =>
        modify fun s => { s with traps := s.traps.filter (·.1 != 0) }
        match e with
        | .exited status =>
          finish status
          throw .exit
        | .signalled signal => throw (.killed (← get).self signal)
      | .error e =>
        complainOf name e
        if e != .notFound && e != .notDirectory then finish 126
        throw .exit

def runProgram : Nat → List Octets → Running Unit
  | 0, _ => throw .stuck
  | fuel + 1, words => do
    match ← process fuel (← get).searchPath words with
    | .ok e =>
      let s ← get
      if !s.jobs.isEmpty then settle fuel s.clock
      conclude e
    | .error e => complainOf (words.headD []) e

/-- Runs a program by its path, or by its name in one of the directories, with arguments. -/
def process : Nat → List Path → List Octets → Running (Except FileError Ending)
  | 0, _, _ => throw .stuck
  | fuel + 1, dirs, words => do
    let s ← get
    let name := words.headD []
    match Program.find s.files dirs ⟨bytesOfOctets name⟩ (words.map bytesOfOctets) with
    | .ok image => return .ok (← forked programScope (native fuel image))
    | .error .execFormat =>
      let path := (locate? s name).getD name
      return .ok (← forked programScope (interpret fuel (path :: path :: words.drop 1)))
    | .error e => return .error e

/-- Runs a native program. -/
def native : Nat → Program.Image → Running Unit
  | 0, _ => throw .stuck
  | fuel + 1, image => do
    pass programTime
    let s ← get
    if !s.jobs.isEmpty then settle fuel s.clock
    let words := image.arguments.map octetsOf
    let name := Text.lossy image.name
    if ["sh", "dash", "bash"].contains name then interpret fuel words
    else
      match Launcher.all.find? (·.1 == name), tool? name with
      | some (_, act), _ =>
        let start (words : List Octets) : Running (Except FileError Ending) := do
          let dirs := ((← get).binding? "PATH").getD "/bin:/usr/bin".toList
          process fuel (State.directoriesIn dirs) words
        act start (words.headD []) (words.drop 1)
      | none, some tool => useTool tool (words.headD []) (words.drop 1)
      | none, none => finish 127

/-- Runs a shell with the given arguments, of which the first is its name. -/
def interpret : Nat → List Octets → Running Unit
  | 0, _ => throw .stuck
  | fuel + 1, words => do
    becomeShell (words.headD [])
    match Settings.read true 0 true (words.drop 1) .none with
    | .error e => fail e
    | .ok settings =>
      modify (·.withSettings settings)
      if let some table := settings.shown then answer ((← get).optionList table)
      closing fuel do
        let s ← get
        match settings.command, settings.operands with
        | true, [] => fail "-c requires an argument".toList
        | true, source :: more =>
          set { s with name := more.headD s.name, parameters := more.drop 1, final := true }
          runSource fuel source
        | false, operands =>
          match operands, s.has 's' with
          | file :: parameters, false =>
            match s.files.read ⟨bytesOfOctets file⟩ with
            | .error .isDirectory => return
            | .error e =>
              fail ("cannot open ".toList ++ file ++ (": " ++ openFault e "No such file").toList)
            | .ok content =>
              set { s with name := file, parameters }
              runSource fuel (octetsOf content)
          | parameters, _ =>
            let input := s.channel? 0
            set ({ s.withOption 's' true with parameters }.withUnread input [])
            passUntil ((s.source? input).elim 0 (·.ready))
            runSource fuel (s.unread input)

end

end Running
end LintRelay.Shell
