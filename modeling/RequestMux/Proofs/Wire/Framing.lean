import RequestMux.Proofs.Wire.Splitting
import RequestMux.Proofs.Wire.Words

/-!
# The frames of a stream

Some bytes fall into frames in one way only: whole frames, one behind the other, up to
a part of a frame or to a header that announces more than the limit.  A frame buffer
that holds the bytes gives out just these.
-/

namespace RequestMux.Wire

/-- The bytes are these frames, and behind them is a refused header or less than a frame. -/
inductive Framed (limit : UInt32) : Bytes → List Packet → Option Violation → Prop where
  /-- The bytes end within a header. -/
  | short {octets : Bytes} (few : octets.length < Header.size) : Framed limit octets [] none
  /-- The bytes end within a payload. -/
  | part {header : Header} {payload : Bytes} (fits : header.len ≤ limit)
      (less : payload.length < header.len.toNat) :
      Framed limit (header.encode ++ payload) [] none
  /-- A header announces too much. -/
  | refused {header : Header} (rest : Bytes) (excess : limit < header.len) :
      Framed limit (header.encode ++ rest) []
        (some (.oversized header.len.toNat limit.toNat))
  | frame {header : Header} {payload rest : Bytes} {frames : List Packet}
      {refusal : Option Violation} (fits : header.len ≤ limit)
      (whole : payload.length = header.len.toNat) (later : Framed limit rest frames refusal) :
      Framed limit (header.encode ++ payload ++ rest)
        (Packet.ofParts header (header.encode ++ payload) :: frames) refusal

namespace Framed

variable {limit : UInt32} {octets : Bytes} {frames : List Packet} {refusal : Option Violation}

/-- All bytes fall into frames. -/
theorem exists_framed (limit : UInt32) (octets : Bytes) :
    ∃ frames refusal, Framed limit octets frames refusal := by
  -- behind a whole frame there are fewer bytes
  induction length : octets.length using Nat.strongRecOn generalizing octets with
  | _ count ih =>
      cases found : Header.decode? octets with
      | none =>
          exact ⟨[], none, .short (Header.decode?_eq_none_iff.mp found)⟩
      | some header =>
          obtain ⟨rest, rfl⟩ := Header.eq_encode_of_decode? found
          by_cases fits : header.len ≤ limit
          · by_cases less : rest.length < header.len.toNat
            · exact ⟨[], none, .part fits less⟩
            · have shorter : (rest.drop header.len.toNat).length < count := by
                rw [← length, List.length_append, List.length_drop, Header.length_encode,
                  Header.size]
                omega
              obtain ⟨frames, refusal, later⟩ := ih _ shorter _ rfl
              have whole : (rest.take header.len.toNat).length = header.len.toNat :=
                List.length_take_of_le (Nat.le_of_not_lt less)
              have framed := Framed.frame fits whole later
              rw [List.append_assoc, List.take_append_drop] at framed
              exact ⟨_, refusal, framed⟩
          · exact ⟨[], _, .refused rest (UInt32.not_le.mp fits)⟩

theorem next?_frame {header : Header} {payload rest : Bytes} (fits : header.len ≤ limit)
    (whole : payload.length = header.len.toNat) :
    (FrameBuffer.mk (header.encode ++ payload ++ rest) limit).next? =
      .ok (some (Packet.ofParts header (header.encode ++ payload), ⟨rest, limit⟩)) := by
  have leads : Header.decode? (header.encode ++ payload ++ rest) = some header := by
    rw [List.append_assoc]
    exact Header.decode?_encode_append header _
  have admitted : header.excess? limit = none := if_neg (UInt32.not_lt.mpr fits)
  have size : header.frameSize = (header.encode ++ payload).length := by
    rw [List.length_append, Header.length_encode, whole]
    rfl
  simp only [FrameBuffer.next?, leads, admitted, List.splitAt_eq, size, List.take_left,
    List.drop_left, if_true]

theorem next?_refused {header : Header} (rest : Bytes) (excess : limit < header.len) :
    (FrameBuffer.mk (header.encode ++ rest) limit).next? =
      .error (.protocol (.oversized header.len.toNat limit.toNat)) := by
  have leads := Header.decode?_encode_append header rest
  have violation : header.excess? limit = some (.oversized header.len.toNat limit.toNat) :=
    if_pos excess
  simp only [FrameBuffer.next?, leads, violation]

theorem next?_part {header : Header} {payload : Bytes} (fits : header.len ≤ limit)
    (less : payload.length < header.len.toNat) :
    (FrameBuffer.mk (header.encode ++ payload) limit).next? = .ok none := by
  have leads := Header.decode?_encode_append header payload
  have admitted : header.excess? limit = none := if_neg (UInt32.not_lt.mpr fits)
  refine (FrameBuffer.next?_eq_dry_iff leads).mpr ⟨admitted, ?_⟩
  change (header.encode ++ payload).length < _
  rw [List.length_append, Header.length_encode, Header.frameSize]
  omega

theorem next?_short (few : octets.length < Header.size) :
    (FrameBuffer.mk octets limit).next? = .ok none := by
  have headless : Header.decode? octets = none := Header.decode?_eq_none_iff.mpr few
  simp only [FrameBuffer.next?, headless]

/-- A frame buffer gives out the frames of what it holds. -/
theorem drain_eq (framed : Framed limit octets frames refusal) :
    (FrameBuffer.mk octets limit).drain.frames = frames ∧
      (FrameBuffer.mk octets limit).drain.fault = refusal.map .protocol := by
  induction framed with
  | short few =>
      rw [FrameBuffer.drain_of_dry (next?_short few)]
      exact ⟨rfl, rfl⟩
  | part fits less =>
      rw [FrameBuffer.drain_of_dry (next?_part fits less)]
      exact ⟨rfl, rfl⟩
  | refused rest excess =>
      rw [FrameBuffer.drain_of_refused (next?_refused rest excess)]
      exact ⟨rfl, rfl⟩
  | frame fits whole later ih =>
      rw [FrameBuffer.drain_of_next? (next?_frame fits whole)]
      exact ⟨congrArg (_ :: ·) ih.1, ih.2⟩

/-- Bytes fall into frames in one way only. -/
theorem unique (framed : Framed limit octets frames refusal) {others : List Packet}
    {other : Option Violation} (again : Framed limit octets others other) :
    others = frames ∧ other = refusal := by
  obtain ⟨sameFrames, sameFault⟩ := framed.drain_eq
  obtain ⟨otherFrames, otherFault⟩ := again.drain_eq
  refine ⟨otherFrames.symm.trans sameFrames, ?_⟩
  have same := otherFault.symm.trans sameFault
  exact Option.map_injective (fun _ _ equal => ClientError.protocol.inj equal) same

end Framed

end RequestMux.Wire
