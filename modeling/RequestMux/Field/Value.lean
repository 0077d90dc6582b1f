import RequestMux.Text.Utf8

/-!
# Field values and field kinds

A value is what a caller packs into a payload or reads off one.  A kind tells
the reader what to expect, since a payload carries no type information.
-/

namespace RequestMux.Field

/-- A value of a payload. -/
inductive Value where
  | u8 (value : UInt8)
  | u16 (value : UInt16)
  | u32 (value : UInt32)
  | u64 (value : UInt64)
  /-- Text behind a length. -/
  | text (value : String)
  /-- Bytes behind a length. -/
  | blob (value : Bytes)
  /-- Bytes without a length: the rest of the payload. -/
  | tail (value : Bytes)
  /-- Text behind a variable-length size. -/
  | sizedText (value : String)
  /-- Bytes behind a variable-length size. -/
  | sizedBlob (value : Bytes)
  deriving DecidableEq, Repr

/-- What to read at the cursor. -/
inductive Kind where
  | u8
  | u16
  | u32
  | u64
  | text
  | blob
  | tail
  | sizedText
  | sizedBlob
  deriving DecidableEq, Repr

/-- The kind that reads a value back when lengths are four-byte words. -/
def Value.kind : Value → Kind
  | .u8 _ => .u8
  | .u16 _ => .u16
  | .u32 _ => .u32
  | .u64 _ => .u64
  | .text _ => .text
  | .blob _ => .blob
  | .tail _ => .tail
  | .sizedText _ => .sizedText
  | .sizedBlob _ => .sizedBlob

/-- The kind that reads a value back when lengths are variable-length sizes. -/
def Value.sizedKind : Value → Kind
  | .text _ => .sizedText
  | .blob _ => .sizedBlob
  | value => value.kind

end RequestMux.Field
