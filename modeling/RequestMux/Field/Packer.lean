import RequestMux.Field.BerSize
import RequestMux.Field.Value
import RequestMux.SyncSource
import RequestMux.Wire.Packet

/-!
# Packing

A packer gathers the payload of an outbound packet; the header is written when
the payload is complete.  The lowest flag bit makes string and byte fields carry
a variable-length size in place of a four-byte length; other bits have no effect.
-/

namespace RequestMux.Field

/-- The flag for variable-length sizes. -/
def berPack : UInt32 := 1

/-- A packet under construction. -/
structure Packer where
  msg : UInt32
  sync : UInt32
  flags : UInt32
  payload : Bytes
  deriving DecidableEq, Repr

/-- Whether flags ask for variable-length sizes. -/
def sizesVary (flags : UInt32) : Bool := flags &&& berPack != 0

/-- Bytes behind a variable-length size. -/
def encodeSized (octets : Bytes) : Bytes :=
  BerSize.encode (UInt32.ofNat octets.length) ++ octets

/-- Bytes behind a length, whose form the flags choose. -/
def encodePrefixed (flags : UInt32) (octets : Bytes) : Bytes :=
  if sizesVary flags then encodeSized octets
  else Bytes.ofWord 4 octets.length ++ octets

/-- The bytes of a value under given flags. -/
def Value.encode (flags : UInt32) : Value → Bytes
  | .u8 value => Bytes.ofWord 1 value.toNat
  | .u16 value => Bytes.ofWord 2 value.toNat
  | .u32 value => Bytes.ofWord 4 value.toNat
  | .u64 value => Bytes.ofWord 8 value.toNat
  | .text value => encodePrefixed flags (Utf8.encode value)
  | .blob value => encodePrefixed flags value
  | .tail value => value
  | .sizedText value => encodeSized (Utf8.encode value)
  | .sizedBlob value => encodeSized value

namespace Packer

/-- An empty packet with a given correlation id. -/
def withSync (msg sync : UInt32) : Packer := ⟨msg, sync, 0, []⟩

/-- An empty packet whose correlation id comes from a source. -/
def withSource (msg : UInt32) (source : SyncSource) : Packer × SyncSource :=
  (withSync msg source.allocate.1, source.allocate.2)

/-- Replace the flags. -/
def setFlags (packer : Packer) (flags : UInt32) : Packer := { packer with flags }

/-- Append bytes as they are. -/
def putRaw (packer : Packer) (octets : Bytes) : Packer :=
  { packer with payload := packer.payload ++ octets }

/-- Append bytes behind a length. -/
def putPrefixed (packer : Packer) (octets : Bytes) : Packer :=
  packer.putRaw (encodePrefixed packer.flags octets)

/-- Append a variable-length size alone. -/
def putSize (packer : Packer) (size : UInt32) : Packer := packer.putRaw (BerSize.encode size)

/-- Append one value. -/
def put (packer : Packer) (value : Value) : Packer :=
  packer.putRaw (value.encode packer.flags)

/-- Append several values in order. -/
def putAll (packer : Packer) (values : List Value) : Packer := values.foldl put packer

/-- The header that the payload calls for. -/
def header (packer : Packer) : Wire.Header :=
  ⟨packer.msg, UInt32.ofNat packer.payload.length, packer.sync⟩

/-- The finished packet. -/
def finish (packer : Packer) : Wire.Packet :=
  Wire.Packet.ofParts packer.header (packer.header.encode ++ packer.payload)

/-- One call on a packer. -/
inductive Step where
  | flags (value : UInt32)
  | put (value : Value)
  | fields (values : List Value)
  | raw (octets : Bytes)
  | counted (octets : Bytes)
  | size (value : UInt32)
  deriving DecidableEq, Repr

/-- Make one call. -/
def apply (packer : Packer) : Step → Packer
  | .flags value => packer.setFlags value
  | .put value => packer.put value
  | .fields values => packer.putAll values
  | .raw octets => packer.putRaw octets
  | .counted octets => packer.putPrefixed octets
  | .size value => packer.putSize value

end Packer

/-- The packet of a list of values under given flags. -/
def pack (msg sync flags : UInt32) (values : List Value) : Wire.Packet :=
  (((Packer.withSync msg sync).setFlags flags).putAll values).finish

end RequestMux.Field
