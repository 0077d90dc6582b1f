import RequestMux.Wire.Packet

/-!
# Frame buffers

A frame buffer gathers bytes as they arrive and gives out complete frames from
its front.  A header that announces more than the payload limit is refused as
soon as it is complete, and stays in the buffer.
-/

namespace RequestMux.Wire

/-- Bytes that arrived and were not yet given out. -/
structure FrameBuffer where
  held : Bytes
  /-- The largest payload accepted. -/
  limit : UInt32
  deriving DecidableEq, Repr

namespace FrameBuffer

/-- A buffer with nothing in it. -/
def empty (limit : UInt32) : FrameBuffer := ⟨[], limit⟩

/-- Add bytes at the end. -/
def append (buffer : FrameBuffer) (octets : Bytes) : FrameBuffer :=
  { buffer with held := buffer.held ++ octets }

/-- Forget everything that is held. -/
def clear (buffer : FrameBuffer) : FrameBuffer := { buffer with held := [] }

/-- The first complete frame and the buffer without it; nothing if more bytes are needed. -/
def next? (buffer : FrameBuffer) : Except ClientError (Option (Packet × FrameBuffer)) :=
  match Header.decode? buffer.held with
  | none => .ok none
  | some header =>
    match header.excess? buffer.limit with
    | some violation => .error (.protocol violation)
    | none =>
      let cut := buffer.held.splitAt header.frameSize
      if cut.1.length = header.frameSize then
        .ok (some (Packet.ofParts header cut.1, { buffer with held := cut.2 }))
      else .ok none

/-- A frame that is given out was at the front, complete. -/
theorem next?_eq_some {buffer rest : FrameBuffer} {packet : Packet}
    (given : buffer.next? = .ok (some (packet, rest))) :
    ∃ header, Header.decode? buffer.held = some header ∧ header.excess? buffer.limit = none ∧
      header.frameSize ≤ buffer.held.length ∧
      packet = Packet.ofParts header (buffer.held.take header.frameSize) ∧
      rest = { buffer with held := buffer.held.drop header.frameSize } := by
  unfold next? at given
  cases found : Header.decode? buffer.held with
  | none => simp [found] at given
  | some header =>
    cases excess : header.excess? buffer.limit with
    | some violation => simp [found, excess] at given
    | none =>
      simp only [found, excess, List.splitAt_eq] at given
      split at given
      · next full =>
        rw [List.length_take] at full
        simp only [Except.ok.injEq, Option.some.injEq, Prod.mk.injEq] at given
        obtain ⟨rfl, rfl⟩ := given
        exact ⟨header, rfl, excess, by omega, rfl, rfl⟩
      · simp at given

/-- Giving out a frame leaves fewer bytes. -/
theorem length_lt_of_next? {buffer rest : FrameBuffer} {packet : Packet}
    (given : buffer.next? = .ok (some (packet, rest))) :
    rest.held.length < buffer.held.length := by
  obtain ⟨header, -, -, full, -, rfl⟩ := next?_eq_some given
  simp only [List.length_drop, Header.frameSize, Header.size] at full ⊢
  omega

/-- What draining a buffer gives: the complete frames, and a fault if a header is refused. -/
structure Drained where
  frames : List Packet
  fault : Option ClientError
  buffer : FrameBuffer

/-- Give out frames until more bytes are needed or a header is refused. -/
def drain (buffer : FrameBuffer) : Drained :=
  match _given : buffer.next? with
  | .error fault => ⟨[], some fault, buffer⟩
  | .ok none => ⟨[], none, buffer⟩
  | .ok (some (packet, rest)) =>
    let later := drain rest
    { later with frames := packet :: later.frames }
  termination_by buffer.held.length
  decreasing_by exact length_lt_of_next? _given

/-- Add bytes and give out every complete frame; frames in front of a refused header are lost. -/
def push (buffer : FrameBuffer) (octets : Bytes) :
    Except ClientError (List Packet) × FrameBuffer :=
  let drained := (buffer.append octets).drain
  match drained.fault with
  | some fault => (.error fault, drained.buffer)
  | none => (.ok drained.frames, drained.buffer)

/-- Bytes missing to the end of the header, or of the frame once its header is complete. -/
def shortfall (buffer : FrameBuffer) : Nat :=
  match Header.decode? buffer.held with
  | some header => header.frameSize - buffer.held.length
  | none => Header.size - buffer.held.length

end FrameBuffer

end RequestMux.Wire
