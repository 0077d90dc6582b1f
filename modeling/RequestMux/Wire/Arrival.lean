import RequestMux.Wire.FrameBuffer

/-!
# Reading from a stream

Bytes arrive in pieces.  A read goes on, piece by piece, until the shortfall of
the frame buffer is met.  It may stop earlier, at the end of the stream, at a
failure, or because nothing more has arrived yet; what was taken by then stays in
the buffer.
-/

namespace RequestMux.Wire

/-- What one read call of a stream gives. -/
inductive Piece where
  /-- Some bytes. -/
  | chunk (octets : Bytes)
  /-- A failure; reading fails with it from there on. -/
  | fault (failure : IoFailure)
  deriving DecidableEq, Repr

namespace Piece

/-- Cut bytes into chunks of the given size, which is at least one. -/
def chunks (size : Nat) (octets : Bytes) : List Piece :=
  match octets with
  | [] => []
  | octet :: rest =>
    .chunk ((octet :: rest).take (size.pred + 1))
      :: chunks size ((octet :: rest).drop (size.pred + 1))
  termination_by octets.length
  decreasing_by
    simp only [List.length_drop, List.length_cons]
    omega

end Piece

/-- Why taking pieces stopped. -/
inductive Stop where
  /-- As much as was wanted has been taken. -/
  | enough
  /-- No piece is left, and so many bytes are still missing. -/
  | dry (missing : Nat)
  /-- The stream failed. -/
  | failed (failure : IoFailure)
  deriving DecidableEq, Repr

/-- The bytes taken off a stream, chunk by chunk, and the pieces left on it. -/
structure Intake where
  chunks : List Bytes
  stop : Stop
  rest : List Piece

namespace Intake

/-- Take pieces until `missing` bytes are there.  Empty chunks are passed over. -/
def gather (missing : Nat) : List Piece → Intake
  | [] => ⟨[], .dry missing, []⟩
  | .fault failure :: rest => ⟨[], .failed failure, .fault failure :: rest⟩
  | .chunk octets :: rest =>
    if octets.isEmpty then gather missing rest
    else if missing ≤ octets.length then ⟨[octets], .enough, rest⟩
    else
      let later := gather (missing - octets.length) rest
      { later with chunks := octets :: later.chunks }

/-- All bytes taken. -/
def octets (intake : Intake) : Bytes := intake.chunks.flatten

/-- A satisfied intake has used up at least one piece. -/
theorem length_rest_lt {missing : Nat} {pieces : List Piece}
    (satisfied : (gather missing pieces).stop = .enough) :
    (gather missing pieces).rest.length < pieces.length := by
  induction pieces generalizing missing with
  | nil => simp [gather] at satisfied
  | cons piece rest ih =>
    cases piece with
    | fault failure => simp [gather] at satisfied
    | chunk octets =>
      simp only [gather] at satisfied ⊢
      split at satisfied
      · next none_given =>
        simp only [none_given, if_true]
        have := ih satisfied
        simp only [List.length_cons]
        omega
      · next some_given =>
        split at satisfied
        · next reached => simp [some_given, reached]
        · next more =>
          simp only [some_given, more, if_false]
          have := ih satisfied
          simp only [List.length_cons]
          simp only [Bool.false_eq_true, if_false]
          omega

end Intake

namespace FrameBuffer

/-- Bytes the next read asks for: the shortfall, and at least one. -/
def wanted (buffer : FrameBuffer) : Nat := max buffer.shortfall 1

/-- Read from a stream that ends after its pieces, until the shortfall is met.
The answer is the number of bytes taken. -/
def readFrom (buffer : FrameBuffer) (pieces : List Piece) :
    Except ClientError Nat × FrameBuffer × List Piece :=
  let intake := Intake.gather buffer.wanted pieces
  let filled := buffer.append intake.octets
  match intake.stop with
  | .enough => (.ok intake.octets.length, filled, intake.rest)
  | .dry _ => (.error .connectionClosed, filled, intake.rest)
  | .failed failure => (.error (.io failure), filled, intake.rest)

end FrameBuffer

end RequestMux.Wire
