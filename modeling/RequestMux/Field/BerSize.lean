import RequestMux.Error

/-!
# Variable-length sizes

A size is written as base-128 digits, most significant first.  Every octet but
the last has its high bit set.  A 32-bit size takes at most five octets, so no
more than five are looked at when one is read.
-/

namespace RequestMux.Field.BerSize

/-- Octets of the longest encoding of a 32-bit size. -/
def maxLength : Nat := 5

/-- Octets of the encoding of a size; each holds seven bits. -/
def encodedLength (size : UInt32) : Nat :=
  if size.toNat < 128 then 1
  else if size.toNat < 0x4000 then 2
  else if size.toNat < 0x200000 then 3
  else if size.toNat < 0x10000000 then 4
  else 5

/-- Put the last `count` base-128 digits of a number, each with its high bit set, in front of a
byte string. -/
def leading : Nat → Nat → Bytes → Bytes
  | 0, _, rest => rest
  | count + 1, value, rest =>
    leading count (value / 128) (UInt8.ofNat (value % 128 + 128) :: rest)

/-- The encoding of a size. -/
def encode (size : UInt32) : Bytes :=
  leading (encodedLength size - 1) (size.toNat / 128) [UInt8.ofNat (size.toNat % 128)]

@[simp]
theorem length_leading (count value : Nat) (rest : Bytes) :
    (leading count value rest).length = count + rest.length := by
  induction count generalizing value rest with
  | zero => simp [leading]
  | succ count ih =>
    simp only [leading, ih, List.length_cons]
    omega

/-- Read digits on from a value; `used` octets have been read, and `room` more may be. -/
def decodeFrom (room used value : Nat) (octets : Bytes) : Except ClientError (UInt32 × Nat) :=
  match room, octets with
  | 0, _ => .error (.tupleInvalid .sizeTooLong)
  | _, [] => .error (.tupleMismatch (.sizeCutOff used))
  | room + 1, octet :: rest =>
    if octet.toNat < 128 then
      let size := value * 128 + octet.toNat
      if size < UInt32.size then .ok (UInt32.ofNat size, used + 1)
      else .error (.tupleInvalid (.sizeTooLarge size))
    else decodeFrom room (used + 1) (value * 128 + (octet.toNat - 128)) rest

/-- The size at the front of a byte string, and the number of octets it takes. -/
def decode (octets : Bytes) : Except ClientError (UInt32 × Nat) :=
  decodeFrom maxLength 0 0 octets

end RequestMux.Field.BerSize
