import RequestMux.Field.BerSize
import RequestMux.Field.Value
import RequestMux.Wire.Packet

/-!
# Unpacking

Fields are read at the cursor of a packet.  A single field that fails leaves the
cursor behind whatever of it was read, such as a length; a whole list of fields
that fails puts the cursor back.
-/

namespace RequestMux.Field

open Wire (Packet)

/-- The outcome of reading at a cursor: a value or an error, and the packet afterwards. -/
abbrev Read (α : Type) := Except ClientError α × Packet

/-- A word of a fixed width. -/
def takeWord (packet : Packet) (width : Nat) : Read Nat :=
  match packet.take width with
  | .error fault => (.error fault, packet)
  | .ok (octets, packet) => (.ok (Bytes.toWord octets), packet)

/-- As many bytes as announced, or the given error if fewer are left. -/
def takeAnnounced (packet : Packet) (length : Nat) (fault : Mismatch) : Read Bytes :=
  if packet.bytesLeft < length then (.error (.tupleMismatch fault), packet)
  else
    match packet.take length with
    | .error fault => (.error fault, packet)
    | .ok (octets, packet) => (.ok octets, packet)

/-- Bytes behind a four-byte length. -/
def takePrefixed (packet : Packet) : Read Bytes :=
  match takeWord packet 4 with
  | (.error fault, packet) => (.error fault, packet)
  | (.ok length, packet) =>
    takeAnnounced packet length (.stringPastEnd packet.offset length)

/-- Bytes behind a variable-length size. -/
def takeSized (packet : Packet) : Read Bytes :=
  match BerSize.decode ((packet.payload.drop packet.offset).take
      (min packet.bytesLeft BerSize.maxLength)) with
  | .error fault => (.error fault, packet)
  | .ok (size, used) =>
    match packet.take used with
    | .error fault => (.error fault, packet)
    | .ok (_, packet) =>
      takeAnnounced packet size.toNat (.sizedStringPastEnd packet.offset size.toNat)

/-- The text that bytes spell. -/
def toText (octets : Bytes) : Except ClientError String :=
  match Utf8.decode octets with
  | .error defect => .error (.tupleInvalid (.notUtf8 defect))
  | .ok text => .ok text

/-- Change what was read and leave the packet as it is. -/
def Read.map {α β : Type} (read : Read α) (change : α → β) : Read β :=
  (read.1.map change, read.2)

/-- Refine what was read and leave the packet as it is. -/
def Read.refine {α β : Type} (read : Read α) (change : α → Except ClientError β) : Read β :=
  (read.1.bind change, read.2)

/-- One field at the cursor. -/
def takeField (packet : Packet) : Kind → Read Value
  | .u8 => Read.map (takeWord packet 1) fun word => .u8 (UInt8.ofNat word)
  | .u16 => Read.map (takeWord packet 2) fun word => .u16 (UInt16.ofNat word)
  | .u32 => Read.map (takeWord packet 4) fun word => .u32 (UInt32.ofNat word)
  | .u64 => Read.map (takeWord packet 8) fun word => .u64 (UInt64.ofNat word)
  | .text => Read.map (Read.refine (takePrefixed packet) toText) .text
  | .blob => Read.map (takePrefixed packet) .blob
  | .tail => (.ok (.tail packet.takeRest.1), packet.takeRest.2)
  | .sizedText => Read.map (Read.refine (takeSized packet) toText) .sizedText
  | .sizedBlob => Read.map (takeSized packet) .sizedBlob

/-- Fields in order, up to the first that fails. -/
def takeFields (packet : Packet) : List Kind → Read (List Value)
  | [] => (.ok [], packet)
  | kind :: kinds =>
    match takeField packet kind with
    | (.error fault, packet) => (.error fault, packet)
    | (.ok value, packet) => Read.map (takeFields packet kinds) (value :: ·)

/-- All the fields, or an error and the cursor where it was. -/
def unpack (packet : Packet) (kinds : List Kind) : Read (List Value) :=
  match takeFields packet kinds with
  | (.error fault, moved) => (.error fault, moved.seek packet.offset)
  | (.ok values, moved) => (.ok values, moved)

end RequestMux.Field
