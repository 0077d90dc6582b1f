import RequestMux.Client.Connection
import RequestMux.Network.Plan
import RequestMux.Network.Sight
import RequestMux.Network.Socket
import RequestMux.SyncSource

/-!
# Simulation

A connection runs in virtual time against a scripted network.  Tasks that can run
wait in a line and run in the order in which they were woken; the engine takes
commands before anything else runs.  Time passes only when nothing can run, and
then it jumps to the next timer.
-/

namespace RequestMux.Network

open Client (Connection Effect Outcome Report Stimulus Time)
open Link (Reader Writer)

/-- A task that can run. -/
inductive Task where
  /-- The engine has reports to take. -/
  | engine
  /-- The attempt is to begin. -/
  | dial
  | reader (socket : Nat)
  | writer (socket : Nat)
  /-- Somebody who awaits a response learns the outcome. -/
  | awaiter (ticket : Nat) (outcome : Outcome)
  deriving DecidableEq, Repr

/-- A connection with its network. -/
structure Simulation where
  now : Time
  connection : Connection
  /-- Whether the handle has not been dropped. -/
  handled : Bool
  /-- Reports that the engine has not taken, with their generations. -/
  reports : List (Nat × Report)
  /-- The source of ids that callers and pings share. -/
  source : SyncSource
  /-- Tasks that can run, in the order in which they were woken. -/
  tasks : List Task
  attempt : Option Attempt
  /-- Attempts begun so far. -/
  attempts : Nat
  plans : List Plan
  /-- The plan of every attempt for which there is no other. -/
  fallback : Plan
  sockets : List Socket
  /-- Tickets of requests whose outcome is awaited. -/
  awaited : List Nat
  /-- What was seen, the latest first. -/
  seen : List Sight

namespace Simulation

/-- A new connection with a network that has the given plans. -/
def start (endpoint : Endpoint) (settings : Settings) (source : SyncSource) (plans : List Plan)
    (fallback : Plan) : Simulation where
  now := 0
  connection := .start endpoint settings
  handled := true
  reports := []
  source := source
  tasks := []
  attempt := none
  attempts := 0
  plans := plans
  fallback := fallback
  sockets := []
  awaited := []
  seen := []

/-- The settings of the connection. -/
def settings (simulation : Simulation) : Settings := simulation.connection.engine.settings

/-- Whether the engine still runs. -/
def isRunning (simulation : Simulation) : Bool :=
  simulation.connection.engine.life == .running

/-- Note something that can be seen. -/
def see (sight : Sight) (simulation : Simulation) : Simulation :=
  { simulation with seen := sight :: simulation.seen }

/-- Put a task at the end of the line, unless it is in the line already. -/
def wake (task : Task) (simulation : Simulation) : Simulation :=
  if task ∈ simulation.tasks then simulation
  else { simulation with tasks := simulation.tasks ++ [task] }

/-- The socket with a number. -/
def socket? (simulation : Simulation) (number : Nat) : Option Socket :=
  simulation.sockets[number]?

/-- The socket with a number, if the client still has it. -/
def openSocket? (simulation : Simulation) (number : Nat) : Option Socket :=
  (simulation.socket? number).filter Socket.isOpen

/-- Change the socket with a number. -/
def onSocket (number : Nat) (change : Socket → Socket) (simulation : Simulation) : Simulation :=
  { simulation with sockets := simulation.sockets.modify number change }

/-- Close a socket: its tasks are dropped. -/
def close (number : Nat) (simulation : Simulation) : Simulation :=
  let isServing (task : Task) : Bool := task == .reader number || task == .writer number
  (({ simulation with tasks := simulation.tasks.filter fun task => !isServing task }.onSocket number
    fun socket => { socket with isOpen := false })).see (.closed number)

/-- Tell a caller its outcome: at once, or through the task that awaits it. -/
def deliver (ticket : Nat) (outcome : Outcome) (simulation : Simulation) : Simulation :=
  if ticket ∈ simulation.awaited then simulation.wake (.awaiter ticket outcome)
  else simulation.see (.result simulation.now ticket (.outcome outcome))

/-- Do what the engine wants done. -/
def obey (simulation : Simulation) (effect : Effect) : Simulation :=
  match effect with
  | .resolved ticket outcome => simulation.deliver ticket outcome
  | .abandoned ticket =>
    if ticket ∈ simulation.awaited then simulation.wake (.awaiter ticket .error) else simulation
  | .handed number write =>
    (simulation.onSocket number fun socket =>
      { socket with writer := socket.writer.hand write.octets }).wake (.writer number)
  | .dialed generation =>
    { simulation with attempt := some ⟨generation, .unstarted⟩ }.wake .dial
  | .hungUp =>
    { simulation with
      attempt := none
      tasks := simulation.tasks.filter (· != .dial) }
  | .attached number => (simulation.wake (.reader number)).wake (.writer number)
  | .closed number => simulation.close number
  | _ => simulation

/-- See what the engine does, and do it. -/
def perform (simulation : Simulation) (effect : Effect) : Simulation :=
  (simulation.see (.engine simulation.now effect)).obey effect

/-- Take over a reaction of the connection. -/
def accept (simulation : Simulation) (reaction : Connection × List Effect) : Simulation :=
  reaction.2.foldl perform { simulation with connection := reaction.1 }

/-- Note what the engine is told. -/
def hear (simulation : Simulation) (stimulus : Stimulus) : Simulation :=
  simulation.see (.heard simulation.now stimulus)

/-- Let the engine react to something other than a command. -/
def stimulate (simulation : Simulation) (stimulus : Stimulus) : Simulation :=
  (simulation.hear stimulus).accept (simulation.connection.react simulation.now stimulus)

/-- Let the engine take a command, which is the first in the mailbox. -/
def serve (simulation : Simulation) (command : Client.Command) : Simulation :=
  (simulation.hear (.command command)).accept (simulation.connection.serve simulation.now)

/-- Queue a report for the engine, if there is an engine to take it. -/
def report (generation : Nat) (report : Report) (simulation : Simulation) : Simulation :=
  if simulation.isRunning then
    { simulation with reports := simulation.reports ++ [(generation, report)] }.wake .engine
  else simulation

/-- The peer accepts: a new socket is there.  It closes at once if it cannot be set up, or if
nobody is left to serve it. -/
def acceptSocket (generation : Nat) (plan : Plan) (reportAt : Time) (simulation : Simulation) :
    Simulation :=
  let number := simulation.sockets.length
  let socket :=
    Socket.fresh number generation simulation.settings.maxPayload plan.echo plan.script
  let accepted := { simulation with sockets := simulation.sockets ++ [socket] }.see
    (.accepted number simulation.settings.nodelay)
  match plan.setupFailure with
  | some failure =>
    { accepted.close number with attempt := some ⟨generation, .failing reportAt failure⟩ }
  | none =>
    let settled := { accepted with attempt := none }
    if simulation.isRunning then settled.report generation (.connected number)
    else settled.close number

/-- Let an attempt go on whose time has come. -/
def proceed (attempt : Attempt) (simulation : Simulation) : Simulation :=
  match attempt.stage with
  | .unstarted => simulation
  | .accepting _ plan reportAt => simulation.acceptSocket attempt.generation plan reportAt
  | .failing _ failure =>
    { simulation with attempt := none }.report attempt.generation (.connectFailed failure)

/-- Whether a time has come. -/
def isDue (simulation : Simulation) (time : Option Time) : Bool :=
  time.any fun time => time ≤ simulation.now

/-- Begin an attempt with the next plan. -/
def dial (simulation : Simulation) : Simulation :=
  match simulation.attempt with
  | none => simulation
  | some attempt =>
    let plan := simulation.plans.head?.getD simulation.fallback
    let timeout := simulation.settings.connectTimeout.toNat
    let begun : Attempt := { attempt with stage := plan.begin simulation.now timeout }
    let dialed := { simulation with
      plans := simulation.plans.tail
      attempts := simulation.attempts + 1
      attempt := some begun }.see (.attempt simulation.now simulation.attempts)
    match begun.stage with
    | .accepting time _ _ => if dialed.isDue (some time) then dialed.proceed begun else dialed
    | _ => dialed

/-- Let the reader of a socket run, if the socket is open. -/
def runReader (number : Nat) (simulation : Simulation) : Simulation :=
  match simulation.openSocket? number with
  | none => simulation
  | some socket =>
    let (after, reports) := socket.read
    reports.foldl (fun simulation report => simulation.report socket.generation report)
      (simulation.onSocket number fun _ => after)

/-- Let the writer of a socket run, if the socket is open. -/
def runWriter (number : Nat) (simulation : Simulation) : Simulation :=
  match simulation.openSocket? number with
  | none => simulation
  | some socket =>
    let written := socket.write
    let moved := simulation.onSocket number fun _ => written.socket
    let sent := if written.sent.isEmpty then moved else moved.see (.sent number written.sent)
    let answered :=
      if written.echo.isEmpty then sent
      else (sent.see (.arrived number written.echo)).wake (.reader number)
    written.report.elim answered fun report => answered.report socket.generation report

/-- Let the engine take every report. -/
def takeReports (simulation : Simulation) : Simulation :=
  simulation.reports.foldl
    (fun simulation entry => simulation.stimulate (.report entry.1 entry.2))
    { simulation with reports := [] }

/-- Run a task. -/
def runTask (task : Task) (simulation : Simulation) : Simulation :=
  match task with
  | .engine => simulation.takeReports
  | .dial => simulation.dial
  | .reader number => simulation.runReader number
  | .writer number => simulation.runWriter number
  | .awaiter ticket outcome =>
    { simulation with awaited := simulation.awaited.erase ticket }.see
      (.result simulation.now ticket (.outcome outcome))

/-- When the next alarm is due. -/
def alarmDue? (simulation : Simulation) : Option Time :=
  simulation.connection.engine.pending.nextAlarm?.map Client.Pending.Alarm.due

/-- When the next ping is due. -/
def pingDue? (simulation : Simulation) : Option Time := simulation.connection.engine.pingAt

/-- When the attempt goes on. -/
def attemptDue? (simulation : Simulation) : Option Time :=
  simulation.attempt.bind fun attempt => attempt.stage.due?

/-- The earliest of some times. -/
def earliest (times : List (Option Time)) : Option Time :=
  times.foldl
    (fun best time =>
      match best, time with
      | some best, some time => some (min best time)
      | best, none => best
      | none, time => time)
    none

/-- When the next timer goes off. -/
def nextTimer? (simulation : Simulation) : Option Time :=
  earliest [simulation.alarmDue?, simulation.attemptDue?, simulation.pingDue?]

/-- Hand out the next id. -/
def allocate (simulation : Simulation) : UInt32 × Simulation :=
  let (sync, source) := simulation.source.allocate
  (sync, { simulation with source })

/-- Send a ping with a new id. -/
def firePing (simulation : Simulation) : Simulation :=
  let (sync, simulation) := simulation.allocate
  simulation.stimulate (.ping sync)

/-- Let one timer go off whose time has come. -/
def fireTimer (simulation : Simulation) : Simulation :=
  if simulation.isDue simulation.alarmDue? then simulation.stimulate .alarm
  else
    match simulation.attempt with
    | some attempt =>
      if simulation.isDue simulation.attemptDue? then simulation.proceed attempt
      else simulation.firePing
    | none => simulation.firePing

/-- One step of whatever can go on without time passing beyond `horizon`; nothing if all is at
rest until then. -/
def step? (horizon : Time) (simulation : Simulation) : Option Simulation :=
  match simulation.connection.mailbox, simulation.tasks with
  | command :: _, _ => some (simulation.serve command)
  | [], task :: rest => some ({ simulation with tasks := rest }.runTask task)
  | [], [] =>
    match simulation.nextTimer? with
    | none => none
    | some time =>
      if time ≤ horizon then
        some { simulation with now := max simulation.now time }.fireTimer
      else none

/-- Go on until all is at rest up to `horizon`, or the fuel is used up. -/
def run (horizon : Time) : Nat → Simulation → Simulation
  | 0, simulation => simulation
  | fuel + 1, simulation =>
    match simulation.step? horizon with
    | none => simulation
    | some next => run horizon fuel next

/-- Steps that a run may take.  Only a network that answers at once for ever takes as many. -/
def stepLimit : Nat := 10000000

/-- Go on until all is at rest, without time passing. -/
def settle (simulation : Simulation) : Simulation :=
  simulation.run simulation.now stepLimit

/-- Whether nothing more goes on until a given time. -/
def isAtRest (horizon : Time) (simulation : Simulation) : Bool :=
  (simulation.step? horizon).isNone

/-- Let time pass; every timer goes off at its own time.  The clock stops where the fuel is
used up. -/
def elapse (span : Time) (simulation : Simulation) : Simulation :=
  let horizon := simulation.now + span
  let after := simulation.run horizon stepLimit
  if after.isAtRest horizon then { after with now := horizon } else after

end Simulation

end RequestMux.Network
