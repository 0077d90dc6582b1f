import RequestMux.Proofs.Field.Usage

/-!
# Reading again from the start

A reset puts a packet into the state in which it was built, whatever has been read off it and
wherever a failed read has left the cursor.  So whatever is read behind a reset is read as off the
packet of the frame.
-/

namespace RequestMux.Field

open Wire (Header Packet)

/-- A packet after calls in order. -/
def afterCalls (packet : Packet) : List Call → Packet
  | [] => packet
  | call :: calls => afterCalls (call.apply packet).2 calls

variable {packet : Packet}

theorem Arises.afterCalls (arises : Arises packet) (calls : List Call) :
    Arises (Field.afterCalls packet calls) := by
  induction calls generalizing packet with
  | nil => exact arises
  | cons call calls ih => exact ih (arises.call call)

/-- Calls move the cursor, and that is all. -/
theorem afterCalls_moves (arises : Arises packet) (calls : List Call) :
    Moves packet (afterCalls packet calls) := by
  induction calls generalizing packet with
  | nil => exact ⟨rfl, rfl, arises.isPlaced⟩
  | cons call calls ih =>
      have first := call.apply_moves arises.isIntact arises.isPlaced
      exact first.trans (ih (arises.call call))

theorem answers_append (packet : Packet) (calls more : List Call) :
    answers packet (calls ++ more) =
      answers packet calls ++ answers (afterCalls packet calls) more := by
  induction calls generalizing packet with
  | nil => rfl
  | cons call calls ih =>
      rw [List.cons_append, answers, ih]
      rfl

namespace IsIntact

theorem heads (intact : IsIntact packet) (owned : packet.data ≠ []) :
    Header.decode? packet.data = some packet.header := by
  cases intact with
  | owned heads counts => exact heads
  | bare unowned blank => exact absurd unowned owned

/-- The buffer is a frame as long as its payload can be counted, and then it is the frame of this
packet. -/
theorem ofFrame_eq_ok_iff (intact : IsIntact packet) (owned : packet.data ≠ []) {framed : Packet} :
    Packet.ofFrame packet.data = .ok framed ↔
      packet.payload.length < UInt32.size ∧ framed = .ofParts packet.header packet.data := by
  have heads := intact.heads owned
  have total : packet.payload.length + Header.size = packet.data.length := by
    rw [Packet.payload, List.length_drop]
    exact Nat.sub_add_cancel (length_of_decode? heads)
  have sized : packet.header.frameSize = packet.data.length ↔
      packet.payload.length < UInt32.size := by
    rw [← total, Header.frameSize, Nat.add_comm, Nat.add_right_cancel_iff, intact.counts owned]
    constructor
    · intro same
      rw [← same]
      exact UInt32.toNat_lt_size _
    · exact UInt32.toNat_ofNat_of_lt'
  rw [Packet.ofFrame_eq_ok_iff, heads]
  constructor
  · rintro ⟨header, same, fits, rfl⟩
    cases same
    exact ⟨sized.mp fits, rfl⟩
  · rintro ⟨short, rfl⟩
    exact ⟨packet.header, rfl, sized.mpr short, rfl⟩

end IsIntact

/-- **A reset replays.**  Whatever is called on a packet that owns a buffer, its buffer and its
header stay as they are, and the header is the one in the buffer.  A reset then leaves the packet in
the state in which it was built from both, with its whole payload ahead; this is the packet of the
frame that the buffer is, unless the payload is longer than a header can count and makes no frame.
All calls behind the reset are answered as on that packet. -/
theorem resets_replay (arises : Arises packet) (owned : packet.data ≠ []) (calls : List Call) :
    let fresh := Packet.ofParts packet.header packet.data
    let used := afterCalls packet calls
    (used.data = packet.data ∧ used.payload = packet.payload ∧ used.header = packet.header ∧
      Header.decode? used.data = some used.header) ∧
    used.reset = fresh ∧
    (fresh.offset = 0 ∧ fresh.bytesLeft = packet.payload.length) ∧
    (∀ framed, Packet.ofFrame packet.data = .ok framed ↔
      packet.payload.length < UInt32.size ∧ framed = fresh) ∧
    ∀ more, answers packet (calls ++ .reset :: more) =
      answers packet calls ++ (.done, fresh.view) :: answers fresh more := by
  intro fresh used
  have intact := arises.isIntact
  have moves := afterCalls_moves arises calls
  have intact' : IsIntact used := (arises.afterCalls calls).isIntact
  have owned' : used.data ≠ [] := moves.data ▸ owned
  have rewound : used.reset = fresh := by
    rw [intact'.reset_eq, moves.header, moves.data]
    rfl
  refine ⟨⟨moves.data, ?_, moves.header, intact'.heads owned'⟩, rewound, ⟨rfl, ?_⟩,
    fun framed => intact.ofFrame_eq_ok_iff owned, fun more => ?_⟩
  · rw [Packet.payload, moves.data]
    rfl
  · rw [Packet.payload, List.length_drop]
    rfl
  · rw [answers_append, ← rewound]
    rfl

/-- A text is asked for that is cut short, behind its length; a word, a byte and again too many are
read; then all is read anew. -/
theorem resets_replay_after_failures :
    let packet := pack 1 9 0 [.u16 7, .u32 5, .u8 3]
    let calls : List Call := [.field .text, .unpack [.u16, .u8], .reset, .field .u8, .unpack [.u64]]
    Arises packet ∧ packet.data ≠ [] ∧ (afterCalls packet calls).offset = 1 ∧
      Packet.ofFrame packet.data = .ok (afterCalls packet calls).reset ∧
      answers (afterCalls packet calls).reset [.unpack [.u16, .u32, .u8]] =
        answers packet [.unpack [.u16, .u32, .u8]] := by
  intro packet calls
  have arises : Arises packet := .packed _
  have owned : packet.data ≠ [] := by decide
  obtain ⟨-, rewound, -, framed, -⟩ := resets_replay arises owned calls
  exact ⟨arises, owned, by decide, (framed _).mpr ⟨by decide, rewound⟩, by rw [rewound]; rfl⟩

end RequestMux.Field
