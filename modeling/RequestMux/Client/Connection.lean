import RequestMux.Client.Engine
import RequestMux.Endpoint

/-!
# Connections

A connection is the handle that callers hold, the mailbox in which its commands
wait, and the engine that takes them out.  The handle sees only the board of the
engine.
-/

namespace RequestMux.Client

/-- A connection as its handle has it. -/
structure Connection where
  endpoint : Endpoint
  engine : Engine
  /-- Commands that the engine has not taken yet. -/
  mailbox : List Command
  deriving DecidableEq, Repr

namespace Connection

/-- A new connection; no socket is opened before the first write. -/
def start (endpoint : Endpoint) (settings : Settings) : Connection :=
  ⟨endpoint, .start settings, []⟩

/-- What the handle sees. -/
def board (connection : Connection) : Board := connection.engine.board

/-- Change what the handle and the engine share. -/
def setBoard (connection : Connection) (board : Board) : Connection :=
  { connection with engine := { connection.engine with board } }

/-- Put a command into the mailbox, as long as there is an engine to take it. -/
def post (connection : Connection) (command : Command) : Connection :=
  if connection.engine.life = .running then
    { connection with mailbox := connection.mailbox ++ [command] }
  else connection

/-- Queue a packet; with a ticket, its response is waited for.  The answer says whether the
packet was accepted. -/
def submit (connection : Connection) (packet : Wire.Packet) (ticket : Option Nat) :
    Bool × Connection :=
  if connection.board.shuttingDown || connection.engine.life != .running then
    (false, connection)
  else
    let board := connection.board
    let tracked := if ticket.isSome then board.outstanding + 1 else board.outstanding
    (true, (connection.setBoard { board with outstanding := tracked }).post
      (.write packet ticket))

/-- Close the socket and dismiss every pending request. -/
def shutdown (connection : Connection) : Connection :=
  (connection.setBoard { connection.board with shuttingDown := true }).post .shutdown

/-- Shut down unless a request is pending or a caller's buffer is with the writer.  The answer
says whether the connection is shutting down now. -/
def gentleShutdown (connection : Connection) : Bool × Connection :=
  if connection.board.shuttingDown then (true, connection)
  else if connection.board.outstanding ≠ 0 ∨ connection.board.writing = true then
    (false, connection)
  else (true, connection.shutdown)

/-- Start anew with another socket. -/
def reconnect (connection : Connection) : Connection := connection.post .reconnect

/-- Send no more pings. -/
def disablePing (connection : Connection) : Connection := connection.post .disablePing

/-- A description for diagnostics. -/
def describe (connection : Connection) : String :=
  "Connection \x7b endpoint: " ++ connection.endpoint.text
    ++ ", state: " ++ connection.board.phase.name
    ++ ", pending: " ++ toString connection.board.outstanding ++ " \x7d"

/-- The line that the log sink gets for a warning. -/
def logLine (connection : Connection) (warning : Warning) : String :=
  "[iproto_conn] " ++ connection.endpoint.text ++ ": " ++ warning.message

/-- The callers of the writes among some commands. -/
def callers (commands : List Command) : List Nat :=
  commands.filterMap fun command =>
    match command with
    | .write _ ticket => ticket
    | _ => none

/-- Dismiss the callers whose writes never reached the engine. -/
def dismiss (commands : List Command) (engine : Engine) : Reaction :=
  let tickets := callers commands
  let count := engine.board.outstanding - tickets.length
  ({ engine with board := { engine.board with outstanding := count } },
    tickets.map fun ticket => .resolved ticket .error)

/-- Take over a reaction of the engine, with the commands that it has not taken.  They are
dismissed when the engine has stopped, and forgotten when it has broken down. -/
def takeOver (rest : List Command) (reaction : Reaction) (connection : Connection) :
    Connection × List Effect :=
  match reaction.1.life with
  | .running => ({ connection with engine := reaction.1, mailbox := rest }, reaction.2)
  | .stopped =>
    let last := (reaction.andThen (dismiss rest)).andThen (Engine.emit (.noted .stopped))
    ({ connection with engine := last.1, mailbox := [] }, last.2)
  | .collapsed =>
    ({ connection with engine := reaction.1, mailbox := [] },
      reaction.2 ++ (callers rest).map .abandoned)

/-- Let the engine take the first command out of the mailbox. -/
def serve (now : Time) (connection : Connection) : Connection × List Effect :=
  match connection.mailbox with
  | [] => (connection, [])
  | command :: rest => connection.takeOver rest (connection.engine.step now (.command command))

/-- Let the engine react to something other than a command, if it still runs. -/
def react (now : Time) (connection : Connection) (stimulus : Stimulus) :
    Connection × List Effect :=
  if connection.engine.life = .running then
    connection.takeOver connection.mailbox (connection.engine.step now stimulus)
  else (connection, [])

end Connection

end RequestMux.Client
