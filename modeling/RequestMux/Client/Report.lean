import RequestMux.Client.Pending

/-!
# What the engine hears, says and does

Commands come from the handle of a connection, reports from the tasks that serve
its sockets.  Effects are what the engine wants done or made known; it does
nothing else to the outside.
-/

namespace RequestMux.Client

/-- Where a connection is in its life. -/
inductive Phase where
  /-- Neither a socket nor an attempt to get one. -/
  | disconnected
  /-- An attempt is under way. -/
  | connecting
  /-- A socket is served. -/
  | connected
  /-- The end: nothing is accepted any more. -/
  | shuttingDown
  deriving DecidableEq, Repr

/-- The name of a phase. -/
def Phase.name : Phase → String
  | .disconnected => "Disconnected"
  | .connecting => "Connecting"
  | .connected => "Connected"
  | .shuttingDown => "ShuttingDown"

/-- What the handle asks of the engine. -/
inductive Command where
  /-- Write a packet; a ticket asks for its response. -/
  | write (packet : Wire.Packet) (ticket : Option Nat)
  | reconnect
  | disablePing
  | shutdown
  deriving DecidableEq, Repr

/-- What a task reports about an attempt or a socket. -/
inductive Report where
  /-- The attempt gave a socket. -/
  | connected (socket : Nat)
  | connectFailed (failure : IoFailure)
  | frame (packet : Wire.Packet)
  | readFailed (fault : ClientError)
  | written
  /-- A write failed, perhaps part-way. -/
  | writeFailed (failure : IoFailure) (part : Bool)
  deriving DecidableEq, Repr

/-- A buffer on its way to the peer. -/
structure QueuedWrite where
  /-- Buffers are numbered in the order in which they are queued. -/
  job : Nat
  octets : Bytes
  /-- Whether the buffer comes from a caller. -/
  counted : Bool
  deriving DecidableEq, Repr

/-- What the log sink is told. -/
inductive Warning where
  | syncReused (sync : UInt32)
  | connectFailed (failure : IoFailure)
  | readFailed (fault : ClientError)
  | writeFailed (failure : IoFailure)
  | pingFailed (outcome : Outcome)
  deriving DecidableEq, Repr

/-- The wording of a warning. -/
def Warning.message : Warning → String
  | .syncReused sync =>
    "sync " ++ toString sync.toNat ++ " reused while pending, dismissing the older request"
  | .connectFailed failure => "connect failed: " ++ failure.text
  | .readFailed fault => "read failed: " ++ fault.message
  | .writeFailed failure => "write failed: " ++ failure.text
  | .pingFailed outcome => "ping failed with " ++ outcome.code ++ ", reconnecting"

/-- What the engine notes about its own course. -/
inductive Note where
  | connecting (generation : Nat)
  | connected (generation : Nat)
  | dismissing (count : Nat)
  | unknownSync (sync msg : UInt32)
  | staleReport
  | shutDown
  | stopped
  deriving DecidableEq, Repr

/-- The wording of a note. -/
def Note.message : Note → String
  | .connecting generation => "connecting generation=" ++ toString generation
  | .connected generation => "connected generation=" ++ toString generation
  | .dismissing count => "dismissing pending requests count=" ++ toString count
  | .unknownSync sync msg =>
    "response for unknown sync sync=" ++ toString sync.toNat ++ " msg=" ++ toString msg.toNat
  | .staleReport => "ignoring stale transport event"
  | .shutDown => "shut down"
  | .stopped => "engine stopped"

/-- What the engine does. -/
inductive Effect where
  /-- Tell the caller with this ticket its outcome. -/
  | resolved (ticket : Nat) (outcome : Outcome)
  /-- Forget the caller with this ticket without an outcome. -/
  | abandoned (ticket : Nat)
  | warned (warning : Warning)
  | noted (note : Note)
  /-- A request has been entered into the table of pending requests. -/
  | registered (entry : Pending.Entry)
  /-- A frame has answered a pending request, which has left the table. -/
  | answered (entry : Pending.Entry) (packet : Wire.Packet)
  /-- The deadline of an id has come. -/
  | expired (sync : UInt32)
  /-- A buffer has joined the end of the queue. -/
  | enqueued (write : QueuedWrite)
  /-- Hand a buffer to the writer of a socket. -/
  | handed (socket : Nat) (write : QueuedWrite)
  /-- The writer is done with a buffer. -/
  | delivered (write : QueuedWrite)
  /-- A buffer that was cut off part-way is at the front of the queue again. -/
  | requeued (write : QueuedWrite)
  /-- Start a connect attempt. -/
  | dialed (generation : Nat)
  /-- Give up the attempt under way. -/
  | hungUp
  /-- Start to serve a socket. -/
  | attached (socket : Nat)
  /-- Close a socket. -/
  | closed (socket : Nat)
  deriving DecidableEq, Repr

end RequestMux.Client
