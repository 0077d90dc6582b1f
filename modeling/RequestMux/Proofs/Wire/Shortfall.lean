import RequestMux.Proofs.Link.Streaming

/-!
# What a frame buffer asks for and what a read gives it

The shortfall of a buffer is the least number of bytes that takes it further: with fewer no frame
can be given out, and with as many its header or its frame is complete.  A read takes chunks off
the stream as long as it has less than it wants, and puts all it took into the buffer, whether it
gets enough or not.
-/

namespace RequestMux.Wire

namespace FrameBuffer

/-- What the shortfall of a buffer says of bytes that may come. -/
structure IsShortOf (buffer : FrameBuffer) (octets : Bytes) : Prop where
  few : octets.length < buffer.shortfall →
    ∀ packet rest, (buffer.append octets).next? ≠ .ok (some (packet, rest))
  /-- Within a header more bytes are asked for. -/
  headless : Header.decode? buffer.held = none → octets.length < buffer.shortfall →
    (buffer.append octets).next? = .ok none
  header : Header.decode? buffer.held = none → octets.length = buffer.shortfall →
    (Header.decode? (buffer.append octets).held).isSome
  /-- The frame is complete; it is given out unless its header is refused. -/
  frame : ∀ header, Header.decode? buffer.held = some header → 0 < buffer.shortfall →
    octets.length = buffer.shortfall →
      (buffer.append octets).held.length = header.frameSize ∧
      (buffer.append octets).next? =
        (header.excess? buffer.limit).elim
          (.ok (some (Packet.ofParts header (buffer.append octets).held, buffer.clear)))
          (.error ∘ .protocol)

theorem length_append (buffer : FrameBuffer) (octets : Bytes) :
    (buffer.append octets).held.length = buffer.held.length + octets.length :=
  List.length_append

theorem shortfall_of_none {buffer : FrameBuffer} (absent : Header.decode? buffer.held = none) :
    buffer.shortfall = Header.size - buffer.held.length := by
  unfold shortfall
  rw [absent]

theorem shortfall_of_some {buffer : FrameBuffer} {header : Header}
    (leads : Header.decode? buffer.held = some header) :
    buffer.shortfall = header.frameSize - buffer.held.length := by
  unfold shortfall
  rw [leads]

/-- A buffer that begins with a header and has just the bytes of its frame. -/
theorem next?_of_whole {buffer : FrameBuffer} {header : Header}
    (leads : Header.decode? buffer.held = some header)
    (whole : buffer.held.length = header.frameSize) :
    buffer.next? = (header.excess? buffer.limit).elim
      (.ok (some (Packet.ofParts header buffer.held, buffer.clear))) (.error ∘ .protocol) := by
  unfold next?
  rw [leads]
  cases refused : header.excess? buffer.limit with
  | some violation => simp [refused]
  | none => simp [refused, ← whole, clear]

theorem isShortOf (buffer : FrameBuffer) (octets : Bytes) : buffer.IsShortOf octets := by
  have length := buffer.length_append octets
  cases leads : Header.decode? buffer.held with
  | none =>
      have short := shortfall_of_none leads
      have begun := Header.decode?_eq_none_iff.mp leads
      have headless : octets.length < buffer.shortfall →
          (buffer.append octets).next? = .ok none := by
        intro few
        have still : Header.decode? (buffer.append octets).held = none :=
          Header.decode?_eq_none_iff.mpr (by omega)
        simp only [next?, still]
      constructor
      case few =>
        intro few packet rest given
        cases (headless few).symm.trans given
      case headless => exact fun _ => headless
      case header =>
        intro _ enough
        rw [Option.isSome_iff_ne_none, ne_eq, Header.decode?_eq_none_iff]
        omega
      case frame =>
        intro header found
        cases leads.symm.trans found
  | some header =>
      have short := shortfall_of_some leads
      have still : Header.decode? (buffer.append octets).held = some header :=
        Header.decode?_append leads octets
      constructor
      case few =>
        intro few packet rest given
        obtain ⟨same, found, -, full, -, -⟩ := next?_eq_some given
        cases still.symm.trans found
        omega
      case headless =>
        intro absent
        cases leads.symm.trans absent
      case header =>
        intro absent
        cases leads.symm.trans absent
      case frame =>
        intro other found positive enough
        cases leads.symm.trans found
        have whole : (buffer.append octets).held.length = header.frameSize := by omega
        exact ⟨whole, next?_of_whole still whole⟩

end FrameBuffer

namespace Intake

/-- A read that is satisfied has as much as it wanted. -/
theorem le_length_gather {missing : Nat} {pieces : List Piece}
    (enough : (gather missing pieces).stop = .enough) :
    missing ≤ (gather missing pieces).octets.length := by
  induction pieces generalizing missing with
  | nil => cases enough
  | cons piece rest ih =>
      cases piece with
      | fault failure => cases enough
      | chunk octets =>
          unfold gather at enough ⊢
          split at enough
          · next nothing =>
              rw [if_pos nothing]
              exact ih enough
          · next something =>
              rw [if_neg something]
              split at enough
              · next met =>
                  rw [if_pos met]
                  simpa [Intake.octets] using met
              · next unmet =>
                  rw [if_neg unmet]
                  have := ih enough
                  simp only [Intake.octets, List.flatten_cons, List.length_append] at this ⊢
                  omega

end Intake

namespace FrameBuffer

/-- What a read has done with a stream of which it took some chunks. -/
structure HasRead (buffer : FrameBuffer) (pieces : List Piece) (chunks : List Bytes)
    (answer : Except ClientError Nat) (filled : FrameBuffer) (rest : List Piece) : Prop where
  /-- The chunks were the first on the stream; the pieces behind them were not touched. -/
  order : pieces = chunks.map .chunk ++ rest
  /-- Everything that was taken is in the buffer, whether the read succeeded or failed. -/
  kept : filled = buffer.append chunks.flatten
  /-- The stream was not called once enough was there. -/
  needed : AreNeeded (max buffer.shortfall 1) chunks
  met : ∀ count, answer = .ok count →
    count = chunks.flatten.length ∧ max buffer.shortfall 1 ≤ count
  success : (∃ count, answer = .ok count) ↔ max buffer.shortfall 1 ≤ (octetsIn pieces).length
  closed : answer = .error .connectionClosed ↔
    (octetsIn pieces).length < max buffer.shortfall 1 ∧ faultIn pieces = none
  failed : ∀ failure, answer = .error (.io failure) ↔
    (octetsIn pieces).length < max buffer.shortfall 1 ∧ faultIn pieces = some failure
  /-- Where the bytes of the stream do not suffice, all of them were taken. -/
  whole : (octetsIn pieces).length < max buffer.shortfall 1 → chunks.flatten = octetsIn pieces

theorem readFrom_of_short {buffer : FrameBuffer} {pieces : List Piece}
    (short : Intake.IsShort buffer.wanted pieces) :
    buffer.readFrom pieces =
      (.error ((faultIn pieces).elim .connectionClosed .io), buffer.append (octetsIn pieces),
        (Intake.gather buffer.wanted pieces).rest) := by
  obtain ⟨taken, stopped, -⟩ := Intake.gather_of_short short
  unfold readFrom
  dsimp only
  rw [stopped, taken]
  cases faultIn pieces <;> rfl

theorem readFrom_of_not_short {buffer : FrameBuffer} {pieces : List Piece}
    (enough : ¬Intake.IsShort buffer.wanted pieces) :
    buffer.readFrom pieces =
      (.ok (Intake.gather buffer.wanted pieces).octets.length,
        buffer.append (Intake.gather buffer.wanted pieces).octets,
        (Intake.gather buffer.wanted pieces).rest) := by
  unfold readFrom
  dsimp only
  rw [Intake.gather_of_not_short enough]

theorem isShort_wanted_iff {buffer : FrameBuffer} {pieces : List Piece} :
    Intake.IsShort buffer.wanted pieces ↔ (octetsIn pieces).length < buffer.wanted := by
  have positive : 0 < buffer.wanted := Nat.lt_of_lt_of_le Nat.one_pos (Nat.le_max_right _ _)
  unfold Intake.IsShort
  constructor
  · rintro (absent | few)
    · rw [absent]
      exact positive
    · exact few
  · exact .inr

theorem readFrom_hasRead (buffer : FrameBuffer) (pieces : List Piece) :
    ∃ chunks, buffer.HasRead pieces chunks (buffer.readFrom pieces).1
      (buffer.readFrom pieces).2.1 (buffer.readFrom pieces).2.2 := by
  have wanted : buffer.wanted = max buffer.shortfall 1 := rfl
  obtain ⟨chunks, order, taken, needed⟩ := Intake.gather_needed buffer.wanted pieces
  have same : max buffer.wanted 1 = max buffer.shortfall 1 := by omega
  rw [same] at needed
  refine ⟨chunks, ?_⟩
  by_cases short : Intake.IsShort buffer.wanted pieces
  · have few := isShort_wanted_iff.mp short
    have all : chunks.flatten = octetsIn pieces :=
      taken.symm.trans (Intake.gather_of_short short).1
    rw [readFrom_of_short short]
    rw [wanted] at few
    constructor
    case order => exact order
    case kept => rw [all]
    case needed => exact needed
    case met => simp
    case success =>
      constructor
      · rintro ⟨count, ⟨⟩⟩
      · exact fun enough => absurd few (Nat.not_lt.mpr enough)
    case closed => cases faultIn pieces <;> simp only [Option.elim] <;> simp [few]
    case failed => cases faultIn pieces <;> simp only [Option.elim] <;> simp [few]
    case whole => exact fun _ => all
  · have enough : buffer.wanted ≤ (octetsIn pieces).length :=
      Nat.le_of_not_lt (mt isShort_wanted_iff.mpr short)
    have met := Intake.le_length_gather (Intake.gather_of_not_short short)
    rw [readFrom_of_not_short short, taken]
    rw [taken] at met
    rw [wanted] at met enough
    have unclosed : ¬(octetsIn pieces).length < max buffer.shortfall 1 := Nat.not_lt.mpr enough
    constructor
    case order => exact order
    case kept => rfl
    case needed => exact needed
    case met =>
      rintro count ⟨⟩
      exact ⟨rfl, met⟩
    case success => exact ⟨fun _ => enough, fun _ => ⟨_, rfl⟩⟩
    case closed => simp only [unclosed, false_and, reduceCtorEq]
    case failed => simp only [unclosed, false_and, reduceCtorEq, implies_true]
    case whole => exact fun few => absurd few unclosed

/-- **Shortfall and reading are exact.**  Less than the shortfall never completes a frame, and as
much completes the header or the frame it is the shortfall of.  A read appends to the buffer just
what it took off the stream, whether it succeeds or fails; it takes nothing more once it has what
it wants, succeeds just where the stream has as much, and ends otherwise as the stream does. -/
theorem reads_are_exact (buffer : FrameBuffer) :
    (∀ octets, buffer.IsShortOf octets) ∧
      ∀ pieces, ∃ chunks, buffer.HasRead pieces chunks (buffer.readFrom pieces).1
        (buffer.readFrom pieces).2.1 (buffer.readFrom pieces).2.2 :=
  ⟨buffer.isShortOf, buffer.readFrom_hasRead⟩

end FrameBuffer

end RequestMux.Wire
