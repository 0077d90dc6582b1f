import RequestMux.Proofs.Client.Accounts
import RequestMux.Proofs.Client.Deadlines

/-!
# The end of a connection

When the engine takes a shutdown out of the mailbox, it tells everybody who waits that there will be
no response, in the table and in the mailbox, and keeps nothing.  From then on neither the handle
nor anything that is reported changes the connection.
-/

namespace RequestMux.Client

open Pending (Table tickets)

theorem tellingsOf_map_resolved (now : Time) (told : List Nat) (outcome : Outcome) :
    tellingsOf now (told.map fun ticket => .resolved ticket outcome) =
      told.map fun ticket => ⟨ticket, outcome, now⟩ := by
  simp [tellingsOf, List.filterMap_map, Function.comp_def, Effect.telling?]

/-- A shutdown tells everybody in the table. -/
theorem Engine.tellingsOf_shutDown (engine : Engine) (now : Time) :
    tellingsOf now engine.shutDown.2 =
      (tickets engine.pending.entries).map fun ticket => ⟨ticket, .error, now⟩ := by
  let entries := engine.pending.entries
  change tellingsOf now ((Engine.release _).2 ++
    ((if entries.isEmpty then [] else [.noted (.dismissing entries.length)]) ++
      (tickets entries).map fun ticket => .resolved ticket .error) ++ [.noted .shutDown]) = _
  rw [tellingsOf_append, tellingsOf_append, tellingsOf_append, (AreSilent.release _).tellingsOf,
    (AreSilent.dismissing entries).tellingsOf, tellingsOf_map_resolved, List.nil_append,
    List.nil_append]
  exact List.append_nil _

namespace Connection

/-- Whether a connection has been shut down and has nothing left. -/
structure IsClosed (connection : Connection) : Prop where
  life : connection.engine.life = .stopped
  phase : connection.engine.phase = .shuttingDown
  queue : connection.engine.queue = []
  inFlight : connection.engine.inFlight = none
  link : connection.engine.link = none
  attempting : connection.engine.attempting = false
  entries : connection.engine.pending.entries = []
  alarms : connection.engine.pending.alarms = []
  pingAt : connection.engine.pingAt = none
  mailbox : connection.mailbox = []
  /-- The handle sees that nobody waits and that no buffer is with a writer. -/
  board : connection.board = ⟨.shuttingDown, true, 0, false⟩

variable {connection : Connection} {rest : List Command} {now : Time}

/-- What the engine does when it takes a shutdown out of the mailbox. -/
theorem serve_shutdown (running : connection.engine.life = .running)
    (asked : connection.mailbox = .shutdown :: rest) :
    connection.serve now = connection.takeOver rest connection.engine.shutDown := by
  unfold serve
  rw [asked]
  dsimp only
  unfold Engine.step
  rw [running]
  rfl

/-- It tells those in the table, and those whose writes were still in the mailbox. -/
theorem tellingsOf_serve_shutdown (running : connection.engine.life = .running)
    (asked : connection.mailbox = .shutdown :: rest) :
    tellingsOf now (connection.serve now).2 =
      (tickets connection.engine.pending.entries ++ callers rest).map
        fun ticket => ⟨ticket, .error, now⟩ := by
  rw [serve_shutdown running asked]
  change tellingsOf now (connection.engine.shutDown.2 ++ (dismiss rest _).2 ++ [.noted .stopped]) = _
  rw [tellingsOf_append, tellingsOf_append, Engine.tellingsOf_shutDown, List.map_append]
  change _ ++ tellingsOf now ((callers rest).map fun ticket => .resolved ticket .error) ++ [] = _
  rw [tellingsOf_map_resolved, List.append_nil]

/-- A connection whose engine has taken a shutdown has nothing left, if it kept its accounts. -/
theorem isClosed_serve_shutdown {accepted : List Nat} {past : List Effect}
    (accounts : Accounts accepted past connection) (kept : abandonedIn past = [])
    (running : connection.engine.life = .running)
    (asked : connection.mailbox = .shutdown :: rest) : (connection.serve now).1.IsClosed := by
  have counted : connection.engine.board.outstanding =
      (tickets connection.engine.pending.entries).length + (callers rest).length := by
    have counts := accounts.outstanding_eq kept
    rw [asked] at counts
    exact counts
  have nobody : connection.engine.board.outstanding -
      (tickets connection.engine.pending.entries).length - (callers rest).length = 0 := by
    omega
  rw [serve_shutdown running asked]
  constructor
  case board =>
    exact congrArg (Board.mk .shuttingDown true · false) nobody
  all_goals rfl

namespace IsClosed

/-- A closed connection takes no packet. -/
theorem submit (closed : connection.IsClosed) (packet : Wire.Packet) (ticket : Option Nat) :
    connection.submit packet ticket = (false, connection) := by
  unfold Connection.submit
  rw [closed.board]
  rfl

theorem post (closed : connection.IsClosed) (command : Command) :
    connection.post command = connection := by
  unfold Connection.post
  rw [closed.life]
  rfl

theorem shutdown (closed : connection.IsClosed) : connection.shutdown = connection := by
  have same : connection.setBoard { connection.board with shuttingDown := true } = connection := by
    rw [closed.board, ← closed.board]
    rfl
  unfold Connection.shutdown
  rw [same, closed.post]

theorem gentleShutdown (closed : connection.IsClosed) :
    connection.gentleShutdown = (true, connection) := by
  unfold Connection.gentleShutdown
  rw [closed.board]
  rfl

theorem reconnect (closed : connection.IsClosed) : connection.reconnect = connection :=
  closed.post .reconnect

theorem disablePing (closed : connection.IsClosed) : connection.disablePing = connection :=
  closed.post .disablePing

/-- Nor does it react to anything. -/
theorem react (closed : connection.IsClosed) (now : Time) (stimulus : Stimulus) :
    connection.react now stimulus = (connection, []) := by
  unfold Connection.react
  rw [closed.life]
  rfl

end IsClosed

end Connection

end RequestMux.Client
