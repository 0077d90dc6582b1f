import RequestMux.Text.Utf8

/-!
# Errors of the client

An error is one of six kinds.  The decode errors and protocol errors carry their
cause; all wording is in the `message` functions.
-/

namespace RequestMux

/-- A failed socket operation, with the wording of the system. -/
structure IoFailure where
  text : String
  /-- The operation was interrupted before it did anything. -/
  interrupted : Bool
  deriving DecidableEq, Repr

/-- Too few bytes are left for a field. -/
inductive Mismatch where
  /-- `needed` bytes were asked for at `offset`, and `left` are there. -/
  | short (offset needed left : Nat)
  /-- A string announces `length` bytes at `offset`, more than are left. -/
  | stringPastEnd (offset length : Nat)
  /-- The same for a string with a variable-length size. -/
  | sizedStringPastEnd (offset length : Nat)
  /-- A variable-length size has no final byte among the `available` ones. -/
  | sizeCutOff (available : Nat)
  /-- A cause stated by the caller. -/
  | stated (text : String)
  deriving DecidableEq, Repr

namespace Mismatch

/-- The wording of a mismatch. -/
def message : Mismatch → String
  | .short offset needed left =>
    "Tuple mismatch at offset " ++ toString offset ++ ": need " ++ toString needed
      ++ " bytes, " ++ toString left ++ " left"
  | .stringPastEnd offset length =>
    "Tuple mismatch inside string at offset " ++ toString offset ++ " len=" ++ toString length
  | .sizedStringPastEnd offset length =>
    "Tuple mismatch inside BER string at offset " ++ toString offset
      ++ " len=" ++ toString length
  | .sizeCutOff available => "BER size truncated after " ++ toString available ++ " bytes"
  | .stated text => text

end Mismatch

/-- Bytes are there but spell no value. -/
inductive Malformed where
  /-- The bytes of a string are not UTF-8. -/
  | notUtf8 (defect : Utf8.Defect)
  /-- A variable-length size does not end within the longest encoding. -/
  | sizeTooLong
  /-- A variable-length size exceeds 32 bits. -/
  | sizeTooLarge (value : Nat)
  /-- A cause stated by the caller. -/
  | stated (text : String)
  deriving DecidableEq, Repr

namespace Malformed

/-- The wording of a malformed field. -/
def message : Malformed → String
  | .notUtf8 defect => "String is not valid UTF-8: " ++ defect.message
  | .sizeTooLong => "BER size longer than 5 bytes"
  | .sizeTooLarge value => "BER size " ++ toString value ++ " overflows u32"
  | .stated text => text

end Malformed

/-- A frame breaks the protocol. -/
inductive Violation where
  /-- A frame of `available` bytes has no header. -/
  | noHeader (available : Nat)
  /-- The header announces `announced` payload bytes and `actual` follow. -/
  | lengthMismatch (announced actual : Nat)
  /-- The announced payload exceeds the limit. -/
  | oversized (announced limit : Nat)
  /-- A cause stated by the caller. -/
  | stated (text : String)
  deriving DecidableEq, Repr

namespace Violation

/-- The wording of a violation. -/
def message : Violation → String
  | .noHeader available => "Frame of " ++ toString available ++ " bytes has no header"
  | .lengthMismatch announced actual =>
    "Frame length mismatch: header says " ++ toString announced
      ++ " payload bytes, got " ++ toString actual
  | .oversized announced limit =>
    "Payload size " ++ toString announced ++ " exceeds maximum " ++ toString limit
  | .stated text => text

end Violation

/-- Everything that can go wrong for a caller of the client. -/
inductive ClientError where
  | io (failure : IoFailure)
  | tupleMismatch (cause : Mismatch)
  | tupleInvalid (cause : Malformed)
  | protocol (cause : Violation)
  | connectionClosed
  | shuttingDown
  deriving DecidableEq, Repr

namespace ClientError

/-- The wording of an error. -/
def message : ClientError → String
  | .io failure => "I/O error: " ++ failure.text
  | .tupleMismatch cause => "Tuple mismatch: " ++ cause.message
  | .tupleInvalid cause => "Tuple invalid: " ++ cause.message
  | .protocol cause => "Protocol error: " ++ cause.message
  | .connectionClosed => "Connection closed"
  | .shuttingDown => "Connection is shutting down"

/-- The errors that reading fields off a packet can raise. -/
def isDecodeError : ClientError → Bool
  | .tupleMismatch _ => true
  | .tupleInvalid _ => true
  | _ => false

end ClientError

end RequestMux
