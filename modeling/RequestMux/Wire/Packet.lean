import RequestMux.Wire.Header
import RequestMux.Wire.HexDump

/-!
# Packets

A packet owns one encoded frame, keeps its decoded header, and has a cursor from
which fields are read.  The default packet owns no buffer at all.
-/

namespace RequestMux.Wire

/-- One frame with a read cursor.  The cursor counts from the start of the buffer. -/
structure Packet where
  header : Header
  data : Bytes
  cursor : Nat
  deriving DecidableEq, Repr

namespace Packet

/-- The packet that owns no buffer. -/
def empty : Packet := ⟨.zero, [], 0⟩

instance : Inhabited Packet := ⟨empty⟩

/-- A packet over a complete frame with the given header; the cursor is at the payload. -/
def ofParts (header : Header) (frame : Bytes) : Packet := ⟨header, frame, Header.size⟩

/-- The packet of a frame, whose header must announce exactly the bytes that follow it. -/
def ofFrame (frame : Bytes) : Except ClientError Packet :=
  match Header.decode? frame with
  | none => .error (.protocol (.noHeader frame.length))
  | some header =>
    if header.frameSize = frame.length then .ok (ofParts header frame)
    else .error (.protocol (.lengthMismatch header.len.toNat (frame.length - Header.size)))

/-- The bytes after the header. -/
def payload (packet : Packet) : Bytes := packet.data.drop Header.size

/-- Whether the packet owns no buffer. -/
def isUninitialized (packet : Packet) : Bool := packet.data.isEmpty

/-- The cursor, counted from the first payload byte. -/
def offset (packet : Packet) : Nat := packet.cursor - Header.size

/-- Bytes from the cursor to the end. -/
def bytesLeft (packet : Packet) : Nat := packet.data.length - packet.cursor

/-- Back to the first payload byte, with the header read from the buffer again. -/
def reset (packet : Packet) : Packet :=
  { packet with
    header := (Header.decode? packet.data).getD packet.header
    cursor := Header.size }

/-- Put the cursor at a payload offset, but not past the end. -/
def seek (packet : Packet) (offset : Nat) : Packet :=
  { packet with cursor := min (Header.size + offset) packet.data.length }

/-- The next `count` bytes, and the packet after them. -/
def take (packet : Packet) (count : Nat) : Except ClientError (Bytes × Packet) :=
  if packet.bytesLeft < count then
    .error (.tupleMismatch (.short packet.offset count packet.bytesLeft))
  else
    .ok ((packet.data.drop packet.cursor).take count,
      { packet with cursor := packet.cursor + count })

/-- All bytes from the cursor on, and the packet at its end. -/
def takeRest (packet : Packet) : Bytes × Packet :=
  (packet.data.drop packet.cursor, { packet with cursor := packet.data.length })

/-- A description with a hex dump of the whole buffer. -/
def dump (packet : Packet) : String :=
  if packet.isUninitialized then "(Packet uninitialized)"
  else
    "IProto packet msg=" ++ toString packet.header.msg.toNat
      ++ " sync=" ++ toString packet.header.sync.toNat
      ++ " len=" ++ toString packet.header.len.toNat
      ++ " cur_ofs=" ++ toString packet.offset
      ++ " data:\n" ++ HexDump.dump packet.data

/-- A frame is accepted exactly when its header announces the bytes that follow it. -/
theorem ofFrame_eq_ok_iff {frame : Bytes} {packet : Packet} :
    ofFrame frame = .ok packet ↔
      ∃ header, Header.decode? frame = some header ∧ header.frameSize = frame.length ∧
        packet = ofParts header frame := by
  unfold ofFrame
  cases found : Header.decode? frame with
  | none => simp
  | some header =>
    by_cases fits : header.frameSize = frame.length
    · simp [fits, eq_comm]
    · simp [fits]

end Packet

end RequestMux.Wire
