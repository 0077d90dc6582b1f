import RequestMux.Client.Report

/-!
# The writer of a socket

The writer offers the rest of a buffer to its socket until the socket has
accepted all of it, and then flushes.  A failure counts as part-way when the
socket accepted some bytes before, accepted none at all, or was interrupted; a
failed flush never does.  A socket may also hold a call back for a while.
-/

namespace RequestMux.Link

/-- How a socket answers one call. -/
inductive Act where
  /-- Accept so many bytes at most. -/
  | accept (most : Nat)
  /-- Accept everything. -/
  | acceptAll
  | fail (failure : IoFailure)
  /-- Hold the call back; when it is let go, it gets the next answer. -/
  | block
  deriving DecidableEq, Repr

/-- The answers a socket still has in store; with none left, calls succeed completely. -/
structure Script where
  writes : List Act
  flushes : List Act
  deriving DecidableEq, Repr

/-- How the writing of one buffer stands. -/
inductive Standing where
  | complete
  | failed (failure : IoFailure) (part : Bool)
  /-- A call is being held back. -/
  | blocked
  deriving DecidableEq, Repr

/-- A socket that accepts nothing, although it was offered something. -/
def acceptedNothing : IoFailure := ⟨"write returned 0", false⟩

/-- Offer the rest of a buffer of `size` bytes, of which `accepted` are with the socket.  Gives
the bytes accepted by the end, how the writing stands, and the answers left. -/
def offer (size accepted : Nat) (writes : List Act) : Nat × Standing × List Act :=
  if size ≤ accepted then (accepted, .complete, writes)
  else
    match writes with
    | [] => (size, .complete, [])
    | .acceptAll :: rest => (size, .complete, rest)
    | .accept most :: rest =>
      if most = 0 then (accepted, .failed acceptedNothing true, rest)
      else offer size (min size (accepted + most)) rest
    | .fail failure :: rest =>
      (accepted, .failed failure (decide (0 < accepted) || failure.interrupted), rest)
    | .block :: rest => (accepted, .blocked, rest)

/-- Flush. -/
def flush : List Act → Standing × List Act
  | [] => (.complete, [])
  | .fail failure :: rest => (.failed failure false, rest)
  | .block :: rest => (.blocked, rest)
  | _ :: rest => (.complete, rest)

/-- Write a buffer of `size` bytes, of which `accepted` are with the socket already. -/
def writeBuffer (size accepted : Nat) (script : Script) : Nat × Standing × Script :=
  match offer size accepted script.writes with
  | (accepted, .complete, writes) =>
    let (standing, flushes) := flush script.flushes
    (accepted, standing, ⟨writes, flushes⟩)
  | (accepted, standing, writes) => (accepted, standing, { script with writes })

/-- A buffer on which a call was held back. -/
structure Held where
  octets : Bytes
  /-- Bytes that are with the socket. -/
  accepted : Nat
  /-- Whether the call has been let go. -/
  released : Bool
  deriving DecidableEq, Repr

/-- A writer between two runs. -/
structure Writer where
  held : Option Held
  /-- Buffers handed over and not begun. -/
  waiting : List Bytes
  /-- Whether a failure has stopped the writer. -/
  halted : Bool
  deriving DecidableEq, Repr

/-- What a run of the writer gives. -/
structure Writing where
  /-- The bytes accepted in this run. -/
  sent : Bytes
  report : Option Client.Report
  writer : Writer
  script : Script

namespace Writer

/-- A writer without work. -/
def start : Writer := ⟨none, [], false⟩

/-- Hand over a buffer. -/
def hand (writer : Writer) (octets : Bytes) : Writer :=
  { writer with waiting := writer.waiting ++ [octets] }

/-- Whether a call is being held back. -/
def isBlocked (writer : Writer) : Bool := writer.held.any fun held => !held.released

/-- Let a call go that is held back. -/
def release (writer : Writer) : Writer :=
  { writer with held := writer.held.map fun held => { held with released := true } }

/-- Go on with a buffer of which some bytes are with the socket. -/
def goOn (octets : Bytes) (accepted : Nat) (waiting : List Bytes) (script : Script) : Writing :=
  let (total, standing, script) := writeBuffer octets.length accepted script
  let sent := (octets.take total).drop accepted
  match standing with
  | .complete => ⟨sent, some .written, ⟨none, waiting, false⟩, script⟩
  | .failed failure part =>
    ⟨sent, some (.writeFailed failure part), ⟨none, waiting, true⟩, script⟩
  | .blocked => ⟨sent, none, ⟨some ⟨octets, total, false⟩, waiting, false⟩, script⟩

/-- Write one buffer as far as it goes. -/
def run (writer : Writer) (script : Script) : Writing :=
  let idle : Writing := ⟨[], none, writer, script⟩
  if writer.halted || writer.isBlocked then idle
  else
    match writer.held, writer.waiting with
    | some held, waiting => goOn held.octets held.accepted waiting script
    | none, octets :: waiting => goOn octets 0 waiting script
    | none, [] => idle

end Writer

end RequestMux.Link
