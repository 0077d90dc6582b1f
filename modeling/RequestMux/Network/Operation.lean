import RequestMux.Network.Simulation

/-!
# Operations on a simulation

What a user of the connection and what the peer can do.  Operations of one batch
are done one after the other with nothing running in between; afterwards
everything that can run does.
-/

namespace RequestMux.Network

open Client (Connection)
open Link (Script)
open Wire (Packet Piece)

/-- One thing done to a connection or by its peer.  A peer acts on the socket with the given
number, or on the latest. -/
inductive Operation where
  /-- Write a packet and have its outcome recorded under a ticket. -/
  | write (ticket : Nat) (packet : Packet)
  /-- Write a packet without waiting for a response. -/
  | send (packet : Packet)
  /-- Write a packet and await its outcome. -/
  | request (ticket : Nat) (packet : Packet)
  | shutdown
  | gentleShutdown
  | reconnect
  | disablePing
  /-- Give up the handle. -/
  | drop
  | describe
  /-- Let so many milliseconds pass. -/
  | elapse (span : Nat)
  | peerSend (socket : Option Nat) (pieces : List Piece)
  | peerClose (socket : Option Nat)
  /-- Let a call go that is held back. -/
  | unblock (socket : Option Nat)
  | prepare (socket : Option Nat) (script : Script)
  | plan (plans : List Plan)
  | nothing
  deriving DecidableEq, Repr

/-- What an operation answers. -/
inductive Answer where
  | nothing
  | flag (value : Bool)
  | text (value : String)
  deriving DecidableEq, Repr

namespace Simulation

/-- Take over a connection that its handle has changed. -/
def withConnection (simulation : Simulation) (connection : Connection) : Simulation :=
  { simulation with connection }

/-- Write a packet through the handle. -/
def submit (simulation : Simulation) (packet : Packet) (ticket : Option Nat) :
    Answer × Simulation :=
  let (accepted, connection) := simulation.connection.submit packet ticket
  (.flag accepted, simulation.withConnection connection)

/-- Write a packet and await its outcome. -/
def request (simulation : Simulation) (ticket : Nat) (packet : Packet) : Simulation :=
  let (accepted, connection) := simulation.connection.submit packet (some ticket)
  if accepted then
    { simulation.withConnection connection with awaited := ticket :: simulation.awaited }
  else simulation.see (.result simulation.now ticket (.refused .shuttingDown))

/-- An operation on the handle; a handle that was given up answers nothing. -/
def throughHandle (simulation : Simulation) (act : Simulation → Answer × Simulation) :
    Answer × Simulation :=
  if simulation.handled then act simulation else (.nothing, simulation)

/-- The number of the socket that is meant: the latest, if no other is named. -/
def meant (simulation : Simulation) (socket : Option Nat) : Option Nat :=
  match socket with
  | some number => some number
  | none => if simulation.sockets.isEmpty then none else some (simulation.sockets.length - 1)

/-- An action of the peer on an open socket, which wakes its reader. -/
def byPeer (simulation : Simulation) (socket : Option Nat) (sight : Nat → Sight)
    (change : Socket → Socket) : Answer × Simulation :=
  match (simulation.meant socket).bind simulation.socket? with
  | none => (.flag false, simulation)
  | some found =>
    if found.isOpen then
      (.flag true,
        ((simulation.onSocket found.number change).see (sight found.number)).wake
          (.reader found.number))
    else (.flag false, simulation)

/-- Let a call go that is held back on a socket. -/
def release (simulation : Simulation) (socket : Option Nat) : Answer × Simulation :=
  match (simulation.meant socket).bind simulation.socket? with
  | none => (.flag false, simulation)
  | some found =>
    if found.isBlocked then
      (.flag true,
        (simulation.onSocket found.number Socket.release).wake (.writer found.number))
    else (.flag false, simulation)

/-- Give a socket more answers to writes. -/
def prepare (simulation : Simulation) (socket : Option Nat) (script : Script) :
    Answer × Simulation :=
  match (simulation.meant socket).bind simulation.socket? with
  | none => (.flag false, simulation)
  | some found =>
    (.flag true, simulation.onSocket found.number fun socket => socket.prepare script)

/-- Do one thing, with nothing running afterwards. -/
def act (simulation : Simulation) (operation : Operation) :
    Answer × Simulation :=
  match operation with
  | .write ticket packet => simulation.throughHandle fun simulation =>
    simulation.submit packet (some ticket)
  | .send packet => simulation.throughHandle fun simulation => simulation.submit packet none
  | .request ticket packet => simulation.throughHandle fun simulation =>
    (.nothing, simulation.request ticket packet)
  | .shutdown => simulation.throughHandle fun simulation =>
    (.nothing, simulation.withConnection simulation.connection.shutdown)
  | .gentleShutdown => simulation.throughHandle fun simulation =>
    let (done, connection) := simulation.connection.gentleShutdown
    (.flag done, simulation.withConnection connection)
  | .reconnect => simulation.throughHandle fun simulation =>
    (.nothing, simulation.withConnection simulation.connection.reconnect)
  | .disablePing => simulation.throughHandle fun simulation =>
    (.nothing, simulation.withConnection simulation.connection.disablePing)
  | .drop => simulation.throughHandle fun simulation =>
    (.nothing,
      { simulation.withConnection simulation.connection.shutdown with handled := false })
  | .describe => simulation.throughHandle fun simulation =>
    (.text (simulation.connection.describe), simulation)
  | .elapse span => (.nothing, simulation.elapse span)
  | .peerSend socket pieces =>
    simulation.byPeer socket (.arrived · pieces) fun socket => socket.arrive pieces
  | .peerClose socket => simulation.byPeer socket .ended Socket.finish
  | .unblock socket => simulation.release socket
  | .prepare socket script => simulation.prepare socket script
  | .plan plans => (.nothing, { simulation with plans := simulation.plans ++ plans })
  | .nothing => (.nothing, simulation)

/-- Do a batch of things one after the other, and let everything run that can. -/
def batch (simulation : Simulation) (operations : List Operation) :
    List Answer × Simulation :=
  let (answers, after) := operations.foldl
    (fun (state : List Answer × Simulation) operation =>
      let (answer, simulation) := state.2.act operation
      (answer :: state.1, simulation))
    ([], simulation)
  (answers.reverse, after.settle)

end Simulation

end RequestMux.Network
