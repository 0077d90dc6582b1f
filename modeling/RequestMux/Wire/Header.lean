import RequestMux.Bytes
import RequestMux.Error

/-!
# Frame headers

A frame starts with twelve bytes: the command, the payload length and the
correlation id, each a little-endian word of four bytes.
-/

namespace RequestMux.Wire

/-- The fixed part in front of every payload. -/
structure Header where
  /-- Command identifier. -/
  msg : UInt32
  /-- Payload length in bytes. -/
  len : UInt32
  /-- Correlation id. -/
  sync : UInt32
  deriving DecidableEq, Repr

namespace Header

/-- Bytes of an encoded header. -/
def size : Nat := 12

/-- The command reserved for liveness pings. -/
def pingMsg : UInt32 := 0xFF00

/-- The payload limit that applies unless another is set: one gibibyte. -/
def defaultLimit : UInt32 := 1073741824

/-- The all-zero header. -/
def zero : Header := ⟨0, 0, 0⟩

/-- The twelve bytes of a header. -/
def encode (header : Header) : Bytes :=
  Bytes.ofWord 4 header.msg.toNat ++ Bytes.ofWord 4 header.len.toNat
    ++ Bytes.ofWord 4 header.sync.toNat

/-- The header at the front of a byte string, if twelve bytes are there. -/
def decode? (octets : Bytes) : Option Header :=
  let front := octets.take size
  if front.length = size then
    some {
      msg := UInt32.ofNat (Bytes.toWord (front.take 4))
      len := UInt32.ofNat (Bytes.toWord ((front.drop 4).take 4))
      sync := UInt32.ofNat (Bytes.toWord (front.drop 8)) }
  else none

/-- Overwrite the front of a buffer; a buffer shorter than a header has no room. -/
def encodeInto? (header : Header) (buffer : Bytes) : Option Bytes :=
  if buffer.length < size then none else some (header.encode ++ buffer.drop size)

/-- Header and payload together. -/
def frameSize (header : Header) : Nat := size + header.len.toNat

/-- Whether the header announces a liveness ping. -/
def isPing (header : Header) : Bool := header.msg == pingMsg

/-- The violation of a payload limit, if the header announces more. -/
def excess? (header : Header) (limit : UInt32) : Option Violation :=
  if limit.toNat < header.len.toNat then
    some (.oversized header.len.toNat limit.toNat)
  else none

@[simp]
theorem length_encode (header : Header) : header.encode.length = size := by
  simp [encode, size]

end Header

end RequestMux.Wire
