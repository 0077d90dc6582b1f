import RequestMux.Link.Reader
import RequestMux.Link.Writer

/-!
# Sockets

A socket joins the two tasks that serve it with what the peer has in store: the
pieces it has sent, and its answers to writes.  What the peer sends after it has
closed its side is lost.
-/

namespace RequestMux.Network

open Client (Report)
open Link (Act Reader Script Writer)
open Wire (Piece)

/-- An accepted socket. -/
structure Socket where
  number : Nat
  /-- The generation that is served by it. -/
  generation : Nat
  /-- Whether the client still has it. -/
  isOpen : Bool
  echo : Bool
  script : Script
  /-- What the peer has sent and the reader has not taken. -/
  pieces : List Piece
  /-- Whether the peer has closed its side. -/
  ended : Bool
  reader : Reader
  writer : Writer
  deriving DecidableEq, Repr

namespace Socket

/-- A socket that has just been accepted, with the payload limit of its reader. -/
def fresh (number generation : Nat) (limit : UInt32) (echo : Bool) (script : Script) : Socket where
  number := number
  generation := generation
  isOpen := true
  echo := echo
  script := script
  pieces := []
  ended := false
  reader := .start limit
  writer := .start

/-- The peer sends some pieces. -/
def arrive (socket : Socket) (pieces : List Piece) : Socket :=
  if socket.ended then socket else { socket with pieces := socket.pieces ++ pieces }

/-- The peer closes its side. -/
def finish (socket : Socket) : Socket := { socket with ended := true }

/-- More answers to writes. -/
def prepare (socket : Socket) (more : Script) : Socket :=
  { socket with
    script := ⟨socket.script.writes ++ more.writes, socket.script.flushes ++ more.flushes⟩ }

/-- Whether a call is being held back. -/
def isBlocked (socket : Socket) : Bool := socket.isOpen && socket.writer.isBlocked

/-- Let a call go that is held back. -/
def release (socket : Socket) : Socket := { socket with writer := socket.writer.release }

/-- Let the reader run. -/
def read (socket : Socket) : Socket × List Report :=
  let reading := socket.reader.run socket.ended socket.pieces
  ({ socket with reader := reading.reader, pieces := reading.rest }, reading.reports)

/-- What a run of the writer does to its socket. -/
structure Written where
  socket : Socket
  sent : Bytes
  report : Option Report
  /-- What the peer has sent back. -/
  echo : List Piece

/-- Let the writer run.  What a peer sends back arrives when the run is over. -/
def write (socket : Socket) : Written :=
  let writing := socket.writer.run socket.script
  let done := { socket with writer := writing.writer, script := writing.script }
  let echo := if socket.echo && !writing.sent.isEmpty then [.chunk writing.sent] else []
  ⟨done.arrive echo, writing.sent, writing.report, echo⟩

end Socket

end RequestMux.Network
