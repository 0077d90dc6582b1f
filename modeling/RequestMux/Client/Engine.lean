import RequestMux.Client.Pending
import RequestMux.Client.Report
import RequestMux.Field.Packer
import RequestMux.Settings.Basic

/-!
# The engine of a connection

The engine owns the write queue, the pending requests, the current socket and the
ping schedule.  It reacts to one stimulus at a time: a command, a report of a
task, an alarm, or the time for a ping.  Each reaction is the engine afterwards
and the effects in their order.

Sockets and attempts belong to a generation.  Every teardown opens a new one, and
a report of an older generation changes nothing.
-/

namespace RequestMux.Client

open Pending (Entry Table Waiter)

/-- The longest delay, in milliseconds, for which an alarm can be set: thirty-six bits. -/
def longestDelay : Nat := 0xFFFFFFFFF

/-- What the handle can see of the engine. -/
structure Board where
  phase : Phase
  shuttingDown : Bool
  /-- Requests accepted and not yet resolved. -/
  outstanding : Nat
  /-- A caller's buffer is with the writer. -/
  writing : Bool
  deriving DecidableEq, Repr

/-- Whether the engine still takes stimuli. -/
inductive Life where
  | running
  /-- It was shut down. -/
  | stopped
  /-- It broke down at a deadline for which no alarm can be set. -/
  | collapsed
  deriving DecidableEq, Repr

/-- The state of the engine. -/
structure Engine where
  settings : Settings
  life : Life
  phase : Phase
  generation : Nat
  pending : Table
  queue : List QueuedWrite
  /-- The buffer that is with the writer. -/
  inFlight : Option QueuedWrite
  /-- The socket that is served. -/
  link : Option Nat
  /-- Whether a connect attempt is under way. -/
  attempting : Bool
  pingEnabled : Bool
  /-- When the next ping is to be sent. -/
  pingAt : Option Time
  /-- Number of the next buffer. -/
  nextJob : Nat
  board : Board
  deriving DecidableEq, Repr

/-- The engine after a reaction, and what it does. -/
abbrev Reaction := Engine × List Effect

/-- Go on from the engine that a reaction leaves. -/
def Reaction.andThen (reaction : Reaction) (next : Engine → Reaction) : Reaction :=
  let later := next reaction.1
  (later.1, reaction.2 ++ later.2)

/-- What the engine reacts to. -/
inductive Stimulus where
  | command (command : Command)
  | report (generation : Nat) (report : Report)
  /-- An alarm may be due. -/
  | alarm
  /-- The time for a ping has come; the ping is to carry this id. -/
  | ping (sync : UInt32)
  deriving DecidableEq, Repr

namespace Engine

/-- The engine of a new connection. -/
def start (settings : Settings) : Engine where
  settings := settings
  life := .running
  phase := .disconnected
  generation := 0
  pending := .empty
  queue := []
  inFlight := none
  link := none
  attempting := false
  pingEnabled := settings.pingInterval.isSome
  pingAt := none
  nextJob := 0
  board := ⟨.disconnected, false, 0, false⟩

/-- The engine does one thing and stays as it is. -/
def emit (effect : Effect) (engine : Engine) : Reaction := (engine, [effect])

/-- Change the phase, and show it. -/
def setPhase (engine : Engine) (phase : Phase) : Engine :=
  { engine with phase, board := { engine.board with phase } }

/-- Show whether a caller's buffer is with the writer. -/
def publishWriting (engine : Engine) : Engine :=
  { engine with
    board := { engine.board with writing := engine.inFlight.any QueuedWrite.counted } }

/-- Start a connect attempt. -/
def beginConnect (engine : Engine) : Reaction :=
  ({ engine.setPhase .connecting with attempting := true },
    [.noted (.connecting engine.generation), .dialed engine.generation])

/-- Hand the next buffer to the writer, one at a time. -/
def pumpWrites (engine : Engine) : Reaction :=
  match engine.inFlight, engine.link, engine.queue with
  | none, some socket, write :: rest =>
    ({ engine with inFlight := some write, queue := rest }.publishWriting,
      [.handed socket write])
  | _, _, _ => (engine.publishWriting, [])

/-- Put a buffer at the end of the queue. -/
def push (octets : Bytes) (counted : Bool) (engine : Engine) : Reaction :=
  let write : QueuedWrite := ⟨engine.nextJob, octets, counted⟩
  ({ engine with queue := engine.queue ++ [write], nextJob := engine.nextJob + 1 },
    [.enqueued write])

/-- See to it that the queue gets on its way. -/
def dispatch (engine : Engine) : Reaction :=
  match engine.phase with
  | .disconnected => engine.beginConnect
  | .connecting => (engine, [])
  | .connected => engine.pumpWrites
  | .shuttingDown => ({ engine with queue := [] }, [])

/-- Put a buffer at the end of the queue, and see to it that it gets on its way. -/
def enqueue (octets : Bytes) (counted : Bool) (engine : Engine) : Reaction :=
  (engine.push octets counted).andThen dispatch

/-- Set the time of the next ping, if pings are wanted. -/
def schedulePing (now : Time) (engine : Engine) : Engine :=
  { engine with
    pingAt :=
      match engine.settings.pingInterval with
      | some interval =>
        if engine.pingEnabled && engine.phase == .connected then some (now + interval.toNat)
        else none
      | none => none }

/-- Tell a caller its outcome. -/
def settle (ticket : Nat) (outcome : Outcome) (engine : Engine) : Reaction :=
  ({ engine with board := { engine.board with outstanding := engine.board.outstanding - 1 } },
    [.resolved ticket outcome])

/-- Dismiss every pending request.  A ping among them has nobody to tell. -/
def dismissAll (engine : Engine) : Reaction :=
  let (entries, table) := engine.pending.drain
  let tickets := Pending.tickets entries
  let count := engine.board.outstanding - tickets.length
  ({ engine with pending := table, board := { engine.board with outstanding := count } },
    (if entries.isEmpty then [] else [.noted (.dismissing entries.length)])
      ++ tickets.map fun ticket => .resolved ticket .error)

/-- Close the socket and give up the attempt.  Queued buffers stay; the one with the writer is
dropped. -/
def release (engine : Engine) : Reaction :=
  let phase := if engine.phase = .shuttingDown then .shuttingDown else .disconnected
  let closing := engine.link.toList.map .closed
  let givingUp := if engine.attempting then [.hungUp] else []
  let bare := { engine.setPhase phase with
    generation := engine.generation + 1
    link := none
    attempting := false
    pingAt := none
    inFlight := none }
  (bare.publishWriting, closing ++ givingUp)

/-- Leave the generation: nothing of its socket and its attempt counts any more, and every
pending request is dismissed. -/
def teardown (engine : Engine) : Reaction := engine.release.andThen dismissAll

/-- Start anew with another socket. -/
def reconnect (engine : Engine) : Reaction :=
  if engine.phase = .shuttingDown then (engine, [])
  else engine.teardown.andThen beginConnect

/-- End the connection. -/
def shutDown (engine : Engine) : Reaction :=
  let flagged := { engine with board := { engine.board with shuttingDown := true } }
  (flagged.setPhase .shuttingDown).teardown.andThen fun engine =>
    ({ engine with queue := [], life := .stopped }, [.noted .shutDown])

/-- Break down: everybody who waits is forgotten and the socket closes, but an attempt that is
under way goes on without the engine. -/
def collapse (forgotten : List Nat) (engine : Engine) : Reaction :=
  ({ engine with
      life := .collapsed
      pending := .empty
      queue := []
      inFlight := none
      link := none
      attempting := false
      pingAt := none },
    (Pending.tickets engine.pending.entries ++ forgotten).map .abandoned
      ++ engine.link.toList.map .closed)

/-- What becomes of a ping.  Anything but a response means that the peer is gone. -/
def pingDone (now : Time) (outcome : Outcome) (engine : Engine) : Reaction :=
  if engine.phase = .connected then
    if outcome.isOk then (engine.schedulePing now, [])
    else (engine.emit (.warned (.pingFailed outcome))).andThen reconnect
  else (engine, [])

/-- Give an outcome to whoever waits. -/
def complete (now : Time) (waiter : Waiter) (outcome : Outcome) (engine : Engine) : Reaction :=
  match waiter with
  | .caller ticket => engine.settle ticket outcome
  | .ping => engine.pingDone now outcome

/-- Milliseconds within which a response has to come. -/
def patience (engine : Engine) : Nat := engine.settings.effectiveReadTimeout.toNat

/-- Enter a request into the table of pending requests, with the number of the buffer that is
queued next.  Gives the entry whose id it took over, too. -/
def register (now : Time) (sync : UInt32) (waiter : Waiter) (engine : Engine) :
    Option Entry × Reaction :=
  let entry := engine.pending.newEntry sync (now + engine.patience) engine.nextJob waiter
  let (replaced, table) := engine.pending.register entry
  (replaced, ({ engine with pending := table }, [.registered entry]))

/-- Dismiss the caller whose id a later request took over; a ping whose id was taken over is
sent again in due time. -/
def yieldTo (now : Time) (sync : UInt32) (replaced : Option Entry) (engine : Engine) : Reaction :=
  match replaced.map Entry.waiter with
  | some (.caller ticket) =>
    (engine.emit (.warned (.syncReused sync))).andThen (settle ticket .error)
  | some .ping => (engine.schedulePing now, [])
  | none => (engine, [])

/-- Dismiss the caller whose id a ping took over. -/
def yieldToPing (replaced : Option Entry) (engine : Engine) : Reaction :=
  match replaced.map Entry.waiter with
  | some (.caller ticket) => engine.settle ticket .error
  | _ => (engine, [])

/-- Write a packet; with a ticket, its response is waited for. -/
def write (now : Time) (packet : Wire.Packet) (ticket : Option Nat) (engine : Engine) :
    Reaction :=
  match ticket with
  | none => engine.enqueue packet.data true
  | some ticket =>
    if longestDelay < engine.patience then engine.collapse [ticket]
    else
      let (replaced, entered) := engine.register now packet.header.sync (.caller ticket)
      (entered.andThen (yieldTo now packet.header.sync replaced)).andThen
        (enqueue packet.data true)

/-- Send a liveness ping with a given id. -/
def sendPing (now : Time) (sync : UInt32) (engine : Engine) : Reaction :=
  let engine := { engine with pingAt := none }
  if longestDelay < engine.patience then engine.collapse []
  else
    let packet := (Field.Packer.withSync Wire.Header.pingMsg sync).finish
    let (replaced, entered) := engine.register now sync .ping
    (entered.andThen (yieldToPing replaced)).andThen (enqueue packet.data false)

/-- Serve a new socket. -/
def attach (now : Time) (socket : Nat) (engine : Engine) : Reaction :=
  let attached := { engine.setPhase .connected with link := some socket, attempting := false }
  Reaction.andThen
    (attached.schedulePing now, [.attached socket, .noted (.connected engine.generation)])
    pumpWrites

/-- React to a frame from the peer. -/
def handleFrame (now : Time) (packet : Wire.Packet) (engine : Engine) : Reaction :=
  match engine.pending.resolve packet.header.sync with
  | (some entry, table) =>
    (emit (.answered entry packet) { engine with pending := table }).andThen
      (complete now entry.waiter (.ok packet))
  | (none, _) => engine.emit (.noted (.unknownSync packet.header.sync packet.header.msg))

/-- React to a failed write.  A buffer that was cut off part-way goes back to the front. -/
def handleWriteFailed (failure : IoFailure) (part : Bool) (engine : Engine) : Reaction :=
  let returned := if part then engine.inFlight.toList else []
  Reaction.andThen
    ({ engine with inFlight := none, queue := returned ++ engine.queue },
      .warned (.writeFailed failure) :: returned.map .requeued)
    reconnect

/-- React to a report of the current generation. -/
def handleReport (now : Time) (report : Report) (engine : Engine) : Reaction :=
  match report with
  | .connected socket => engine.attach now socket
  | .connectFailed failure =>
    (emit (.warned (.connectFailed failure)) { engine with attempting := false }).andThen
      beginConnect
  | .frame packet => engine.handleFrame now packet
  | .readFailed fault => (engine.emit (.warned (.readFailed fault))).andThen reconnect
  | .written =>
    Reaction.andThen
      ({ engine with inFlight := none }, engine.inFlight.toList.map .delivered)
      pumpWrites
  | .writeFailed failure part => engine.handleWriteFailed failure part

/-- React to a report of an older generation: a socket that comes too late is closed. -/
def ignoreReport (report : Report) (engine : Engine) : Reaction :=
  match report with
  | .connected socket => (engine, [.noted .staleReport, .closed socket])
  | _ => engine.emit (.noted .staleReport)

/-- React to the alarm that is due, if there is one. -/
def handleAlarm (now : Time) (engine : Engine) : Reaction :=
  match engine.pending.ring? now with
  | none => (engine, [])
  | some (alarm, table) =>
    match table.takeExpired alarm.sync now with
    | (.fired entry, table) =>
      (emit (.expired alarm.sync) { engine with pending := table }).andThen
        (complete now entry.waiter .timeout)
    | (_, table) => ({ engine with pending := table }, [])

/-- React to a command. -/
def handleCommand (now : Time) (command : Command) (engine : Engine) : Reaction :=
  match command with
  | .write packet ticket => engine.write now packet ticket
  | .reconnect => engine.reconnect
  | .disablePing => ({ engine with pingEnabled := false, pingAt := none }, [])
  | .shutdown => engine.shutDown

/-- React to a stimulus.  An engine that no longer runs reacts to nothing. -/
def step (now : Time) (engine : Engine) (stimulus : Stimulus) : Reaction :=
  match engine.life with
  | .running =>
    match stimulus with
    | .command command => engine.handleCommand now command
    | .report generation report =>
      if generation = engine.generation then engine.handleReport now report
      else engine.ignoreReport report
    | .alarm => engine.handleAlarm now
    | .ping sync => engine.sendPing now sync
  | _ => (engine, [])

end Engine

end RequestMux.Client
