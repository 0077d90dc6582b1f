import RequestMux.Proofs.Field.Reading

/-!
# Where a cursor may stand

The cursor of a packet with a buffer stands in the payload or at its end.  A packet without a
buffer has nothing to read, whether its cursor was reset or not.  In both cases what is left behind
the offset is what the reader has ahead, and a reader that takes no more than this leaves the cursor
in such a place again.
-/

namespace RequestMux.Wire.Packet

/-- The cursor stands where reading can go on. -/
inductive IsPlaced (packet : Packet) : Prop where
  | inside (inside : packet.IsInside)
  | bare (unowned : packet.data = []) (early : packet.cursor ≤ Header.size)

/-- What a packet shows of itself. -/
structure View where
  header : Header
  data : Bytes
  offset : Nat
  left : Nat
  deriving DecidableEq, Repr

/-- The header, the buffer, how far the packet is read, and how much of it is left. -/
def view (packet : Packet) : View :=
  ⟨packet.header, packet.data, packet.offset, packet.bytesLeft⟩

variable {packet other : Packet} {octets : Bytes} {count : Nat}

theorem ahead_past_eq (packet : Packet) (count : Nat) :
    (packet.past count).ahead = packet.ahead.drop count :=
  List.drop_drop.symm

theorem ahead_of_bare (unowned : packet.data = []) : packet.ahead = [] := by
  rw [ahead, unowned, List.drop_nil]

namespace IsPlaced

/-- What is left at an offset is what stands ahead. -/
theorem payload_drop (placed : packet.IsPlaced) :
    packet.payload.drop packet.offset = packet.ahead := by
  cases placed with
  | inside inside => exact payload_drop_offset inside
  | bare unowned early => rw [ahead_of_bare unowned, payload, unowned, List.drop_nil, List.drop_nil]

/-- What has been read and what is left make up the payload. -/
theorem offset_add_bytesLeft (placed : packet.IsPlaced) :
    packet.offset + packet.bytesLeft = packet.payload.length := by
  rw [offset, bytesLeft, payload, List.length_drop]
  cases placed with
  | inside inside =>
      have := inside.behindHeader
      have := inside.withinData
      omega
  | bare unowned early =>
      rw [unowned, List.length_nil]
      omega

theorem past (placed : packet.IsPlaced) (within : count ≤ packet.ahead.length) :
    (packet.past count).IsPlaced := by
  cases placed with
  | inside inside =>
      have reach : count ≤ packet.data.length - packet.cursor := by
        rwa [ahead, List.length_drop] at within
      refine .inside ⟨Nat.le_add_right_of_le inside.behindHeader, ?_⟩
      have := inside.withinData
      change packet.cursor + count ≤ packet.data.length
      omega
  | bare unowned early =>
      rw [ahead_of_bare unowned] at within
      obtain rfl := Nat.le_zero.mp within
      exact .bare unowned early

theorem offset_past (placed : packet.IsPlaced) (within : count ≤ packet.ahead.length) :
    (packet.past count).offset = packet.offset + count := by
  cases placed with
  | inside inside =>
      have := inside.behindHeader
      change packet.cursor + count - Header.size = packet.cursor - Header.size + count
      omega
  | bare unowned early =>
      rw [ahead_of_bare unowned] at within
      obtain rfl := Nat.le_zero.mp within
      rfl

theorem takeRest (placed : packet.IsPlaced) : packet.takeRest.2.IsPlaced := by
  cases placed with
  | inside inside =>
      exact .inside ⟨Nat.le_trans inside.behindHeader inside.withinData, Nat.le_refl _⟩
  | bare unowned early =>
      refine .bare unowned ?_
      change packet.data.length ≤ Header.size
      rw [unowned]
      exact Nat.zero_le _

theorem offset_takeRest (placed : packet.IsPlaced) :
    packet.takeRest.2.offset = packet.offset + packet.ahead.length := by
  have whole := placed.offset_add_bytesLeft
  rw [bytesLeft_eq, payload, List.length_drop] at whole
  exact whole.symm

/-- Seeking the offset where the cursor stands changes nothing to be seen. -/
theorem view_seek (placed : packet.IsPlaced) : (packet.seek packet.offset).view = packet.view := by
  cases placed with
  | inside inside =>
      have same : min (Header.size + packet.offset) packet.data.length = packet.cursor := by
        rw [offset, Nat.add_sub_cancel' inside.behindHeader]
        exact Nat.min_eq_left inside.withinData
      rw [seek, same]
  | bare unowned early =>
      have start : packet.offset = 0 := Nat.sub_eq_zero_of_le early
      have none : packet.bytesLeft = 0 := by rw [bytesLeft, unowned, List.length_nil, Nat.zero_sub]
      simp only [view, seek, offset, bytesLeft, unowned, List.length_nil, Nat.min_zero,
        Nat.zero_sub] at start none ⊢
      rw [start]

end IsPlaced

/-- Packets that show the same are the same, or have no buffer. -/
theorem eq_of_view (placed : packet.IsPlaced) (placed' : other.IsPlaced)
    (same : packet.view = other.view) :
    packet = other ∨ packet.data = [] ∧ other.data = [] ∧ packet.header = other.header := by
  have header : packet.header = other.header := congrArg View.header same
  have data : packet.data = other.data := congrArg View.data same
  have offset : packet.offset = other.offset := congrArg View.offset same
  cases placed with
  | bare unowned early => exact .inr ⟨unowned, data ▸ unowned, header⟩
  | inside inside =>
      cases placed' with
      | bare unowned early => exact .inr ⟨data.trans unowned, unowned, header⟩
      | inside inside' =>
          have cursor : packet.cursor = other.cursor := by
            have := inside.behindHeader
            have := inside'.behindHeader
            unfold Packet.offset at offset
            omega
          obtain ⟨_, _, _⟩ := packet
          obtain ⟨_, _, _⟩ := other
          cases header
          cases data
          cases cursor
          exact .inl rfl

end RequestMux.Wire.Packet
