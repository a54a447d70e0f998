import LintRelay.Program.Run
import LintRelay.Server.Basic

/-!
# Letting a server come to rest

A server is at rest when no call is spawned or waiting and no timer runs. To get there, spawned calls
start at once, in the order in which they were spawned, and their linters run beside each other: each
works on the files when it starts, and ends as much later as it takes. Whatever comes first, the end
of a linter or that of a timer, happens next.
-/

namespace LintRelay.Server

/-- A server with the files that it works on. -/
structure Scene where
  server : Server
  files : FileTree

/-- A linter that runs: when it ends, in microseconds, and what it will have printed. -/
structure Linting where
  finish : Nat
  output : Except LintError String

/-- A scene that comes to rest. -/
structure Settling extends Scene where
  /-- The time since the timers were set, in microseconds. -/
  clock : Nat
  /-- The linters of the waiting calls, in their order. -/
  linters : List Linting

/-- The place of the least of some numbers, the first of them. -/
def leastPlace (ns : List Nat) : Nat :=
  match ns.min? with
  | none => 0
  | some least => ns.idxOf least

namespace Settling

def runLinter (c : Settling) (p : Pending) : Settling :=
  let (files, duration, output) := p.invocation.runTimed c.files
  { c with files, linters := c.linters ++ [⟨c.clock + duration, output⟩] }

/-- Starts the first spawned call, and its linter if it asks for one. -/
def startFirst (c : Settling) : Settling :=
  let server := c.server.startCall c.files 0
  let c' := { c with server }
  match server.waiting.drop c.server.waiting.length with
  | p :: _ => c'.runLinter p
  | [] => c'

/-- Finishes the call whose linter ends first. -/
def finishFirst (c : Settling) : Settling × List Notice :=
  let place := leastPlace (c.linters.map (·.finish))
  match c.linters[place]? with
  | none => (c, [])
  | some l =>
    let (server, notices) := c.server.finishCall place l.output
    ({ c with
      server
      clock := max c.clock l.finish
      linters := c.linters.eraseIdx place }, notices)

/-- When a timer expires. -/
def due (timer : Timer) : Nat := timer.delay.toNat * 1000

/-- Lets the timer expire that does so first. -/
def expireFirst (c : Settling) : Settling :=
  let moments := c.server.timers.map due
  let place := leastPlace moments
  { c with
    server := c.server.expire place
    clock := max c.clock (moments.getD place 0) }

/-- Whether a linter ends before the first timer expires. -/
def finishesNext (c : Settling) : Bool :=
  match (c.linters.map (·.finish)).min?, (c.server.timers.map due).min? with
  | some finish, some moment => finish ≤ moment
  | some _, none => true
  | none, _ => false

/-- Takes up to `n` steps towards rest. -/
def settleWithin : Nat → Settling → Settling × List Notice
  | 0, c => (c, [])
  | n + 1, c =>
    if !c.server.spawned.isEmpty then settleWithin n c.startFirst
    else if c.finishesNext then
      let (c, notices) := c.finishFirst
      let (c, more) := settleWithin n c
      (c, notices ++ more)
    else if !c.server.timers.isEmpty then settleWithin n c.expireFirst
    else (c, [])

end Settling

/-- The greatest number of steps that a server needs to come to rest: two for each call, and one
more for a timer. -/
def workLeft (s : Server) : Nat :=
  s.waiting.length + 2 * s.spawned.length + 3 * s.timers.length

/-- Lets the server come to rest. -/
def Scene.settle (c : Scene) : Scene × List Notice :=
  let begun := c.server.waiting.foldl Settling.runLinter ⟨c, 0, []⟩
  let (c, notices) := begun.settleWithin c.server.workLeft
  (c.toScene, notices)

/-- Handles a message, and lets the server come to rest unless told not to wait. -/
def Scene.handle (c : Scene) (m : Message) (wait : Bool) : Scene × Answer × List Notice :=
  let r := c.server.receive c.files m
  let c := { c with server := r.server }
  if wait then
    let (c, notices) := c.settle
    (c, r.answer, r.notices ++ notices)
  else (c, r.answer, r.notices)

end LintRelay.Server
