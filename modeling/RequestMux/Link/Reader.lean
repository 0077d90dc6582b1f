import RequestMux.Client.Report
import RequestMux.Wire.Arrival

/-!
# The reader of a socket

The reader gives out every complete frame, then reads at least the shortfall of
the next one, and so on.  It stops at the first fault: a refused header, a failure
of the stream, or its end.  Between two runs it remembers how many bytes the read
under way still misses.
-/

namespace RequestMux.Link

open Wire (FrameBuffer Intake Packet Piece)

/-- A reader between two runs. -/
structure Reader where
  frames : FrameBuffer
  /-- Bytes that the read under way still misses. -/
  missing : Nat
  /-- Whether a fault has stopped the reader. -/
  halted : Bool
  deriving DecidableEq, Repr

/-- What a run of the reader gives. -/
structure Reading where
  frames : List Packet
  fault : Option ClientError
  reader : Reader
  /-- The pieces left on the stream. -/
  rest : List Piece

namespace Reader

/-- A reader at the start of a stream. -/
def start (limit : UInt32) : Reader := ⟨.empty limit, (FrameBuffer.empty limit).wanted, false⟩

/-- Go on reading; `ended` tells whether the stream ends behind the pieces. -/
def advance (ended : Bool) (frames : FrameBuffer) (missing : Nat) (pieces : List Piece) :
    Reading :=
  let intake := Intake.gather missing pieces
  let filled := frames.append intake.octets
  match _satisfied : intake.stop with
  | .failed failure => ⟨[], some (.io failure), ⟨filled, missing, true⟩, intake.rest⟩
  | .dry missing =>
    if ended then ⟨[], some .connectionClosed, ⟨filled, missing, true⟩, intake.rest⟩
    else ⟨[], none, ⟨filled, missing, false⟩, intake.rest⟩
  | .enough =>
    let drained := filled.drain
    match drained.fault with
    | some fault =>
      ⟨drained.frames, some fault, ⟨drained.buffer, missing, true⟩, intake.rest⟩
    | none =>
      let later := advance ended drained.buffer drained.buffer.wanted intake.rest
      { later with frames := drained.frames ++ later.frames }
  termination_by pieces.length
  decreasing_by exact Intake.length_rest_lt _satisfied

/-- Run a reader that has not stopped. -/
def run (ended : Bool) (reader : Reader) (pieces : List Piece) : Reading :=
  if reader.halted then ⟨[], none, reader, pieces⟩
  else advance ended reader.frames reader.missing pieces

end Reader

/-- The reports of a run, in order. -/
def Reading.reports (reading : Reading) : List Client.Report :=
  reading.frames.map .frame ++ reading.fault.toList.map .readFailed

end RequestMux.Link
