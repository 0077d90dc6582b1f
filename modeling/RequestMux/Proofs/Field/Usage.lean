import RequestMux.Proofs.Field.RoundTrip
import RequestMux.Proofs.Field.Series

/-!
# Packets in use

A packet comes from a frame, from a packer, or owns no buffer; then fields are read off it, alone
or as lists, and it is reset, in any order.  None of this touches its header or its buffer, and the
cursor is always where reading can go on.
-/

namespace RequestMux.Field

open Wire (Header Packet)

/-- What a caller does with a packet. -/
inductive Call where
  | unpack (kinds : List Kind)
  /-- One field by itself; if it fails, the cursor stays where the reader stopped. -/
  | field (kind : Kind)
  | reset
  deriving DecidableEq, Repr

/-- What a call answers. -/
inductive Answer where
  | values (outcome : Except ClientError (List Value))
  | value (outcome : Except ClientError Value)
  | done

/-- The answer of a call, and the packet afterwards. -/
def Call.apply (packet : Packet) : Call → Answer × Packet
  | .unpack kinds => (.values (Field.unpack packet kinds).1, (Field.unpack packet kinds).2)
  | .field kind => (.value (takeField packet kind).1, (takeField packet kind).2)
  | .reset => (.done, packet.reset)

/-- The answers of calls in order, each with what the packet shows after it. -/
def answers (packet : Packet) : List Call → List (Answer × Packet.View)
  | [] => []
  | call :: calls =>
    ((call.apply packet).1, (call.apply packet).2.view) :: answers (call.apply packet).2 calls

/-- The packets that there are.  Where a packet is moved out, the one without a buffer is left. -/
inductive Arises : Packet → Prop where
  | frame {octets : Bytes} {packet : Packet} (built : Packet.ofFrame octets = .ok packet) :
      Arises packet
  | packed (packer : Packer) : Arises packer.finish
  | empty : Arises Packet.empty
  | call {packet : Packet} (arises : Arises packet) (call : Call) : Arises (call.apply packet).2

/-- The header is the one in the buffer and counts what follows it, as far as 32 bits go. -/
inductive IsIntact (packet : Packet) : Prop where
  | owned (heads : Header.decode? packet.data = some packet.header)
      (counts : packet.header.len = UInt32.ofNat packet.payload.length)
  | bare (unowned : packet.data = []) (blank : packet.header = Header.zero)

/-- Behind fields that are read there are octets that spell no value of the next kind. -/
inductive IsSpoiled (packet : Packet) (cause : Malformed) : List Kind → Prop where
  | intro {done later : List Kind} {kind : Kind} {values : List Value} {middle : Packet}
      {octets : Bytes} (reached : Reads packet done values middle)
      (leads : octets <+: middle.ahead) (spoiled : Spoils kind cause octets) :
      IsSpoiled packet cause (done ++ kind :: later)

/-- The same packet with its cursor elsewhere, but where reading can go on. -/
structure Moves (packet moved : Packet) : Prop where
  header : moved.header = packet.header
  data : moved.data = packet.data
  placed : moved.IsPlaced

variable {packet middle moved : Packet} {kind : Kind} {kinds : List Kind} {values : List Value}
  {fault : ClientError} {cause : Malformed} {octets : Bytes} {count : Nat}

theorem Moves.trans (first : Moves packet middle) (second : Moves middle moved) :
    Moves packet moved :=
  ⟨second.header.trans first.header, second.data.trans first.data, second.placed⟩

theorem moves_past (placed : packet.IsPlaced) (within : count ≤ packet.ahead.length) :
    Moves packet (packet.past count) :=
  ⟨rfl, rfl, placed.past within⟩

theorem takeField_moves (placed : packet.IsPlaced) (kind : Kind) :
    Moves packet (takeField packet kind).2 := by
  have finds := takeField_finds placed kind
  generalize takeField packet kind = read at finds
  cases finds with
  | value same spelled leads => exact moves_past placed leads.length_le
  | rest tail => exact ⟨rfl, rfl, placed.takeRest⟩
  | malformed spoiled leads within => exact moves_past placed within
  | short within => exact moves_past placed within

theorem moves_of_takeField {result : Except ClientError Value} (placed : packet.IsPlaced)
    (found : takeField packet kind = (result, moved)) : Moves packet moved := by
  have moves := takeField_moves placed kind
  rwa [found] at moves

theorem Reads.moves (reads : Reads packet kinds values moved) (placed : packet.IsPlaced) :
    Moves packet moved := by
  induction reads with
  | nil => exact ⟨rfl, rfl, placed⟩
  | cons first _ ih =>
      have step := moves_of_takeField placed first
      exact step.trans (ih step.placed)

theorem Fails.moves (fails : Fails packet kinds fault moved) (placed : packet.IsPlaced) :
    Moves packet moved := by
  induction fails with
  | here first => exact moves_of_takeField placed first
  | later first _ ih =>
      have step := moves_of_takeField placed first
      exact step.trans (ih step.placed)

/-- What makes a list of fields fail: there are too few octets, or octets that spell no value. -/
theorem Fails.grounds (fails : Fails packet kinds fault moved) (placed : packet.IsPlaced) :
    (∃ cause, fault = .tupleMismatch cause) ∨
      ∃ cause, fault = .tupleInvalid cause ∧ IsSpoiled packet cause kinds := by
  obtain ⟨done, kind, later, values, middle, rfl, reads, failing⟩ := fails_iff.mp fails
  have finds := takeField_finds (reads.moves placed).placed kind
  rw [failing] at finds
  cases finds with
  | malformed spoiled leads within => exact .inr ⟨_, rfl, .intro reads leads spoiled⟩
  | short within => exact .inl ⟨_, rfl⟩

/-- A list of fields is malformed exactly where octets spoil one of them. -/
theorem unpack_malformed_iff (placed : packet.IsPlaced) :
    (unpack packet kinds).1 = .error (.tupleInvalid cause) ↔ IsSpoiled packet cause kinds := by
  rw [unpack_fails_iff]
  constructor
  · rintro ⟨stopped, fails⟩
    obtain ⟨short, same⟩ | ⟨other, same, spoiled⟩ := fails.grounds placed
    · cases same
    · cases same
      exact spoiled
  · rintro ⟨reached, leads, spoiled⟩
    have failing := takeField_of_spoils (reached.moves placed).placed spoiled leads
    exact ⟨_, fails_iff.mpr ⟨_, _, _, _, _, rfl, reached, Prod.ext failing rfl⟩⟩

theorem seek_isPlaced (placed : packet.IsPlaced) (offset : Nat) :
    (packet.seek offset).IsPlaced := by
  cases placed with
  | inside inside =>
      have room := Nat.le_trans inside.behindHeader inside.withinData
      exact .inside ⟨Nat.le_min.mpr ⟨Nat.le_add_right _ _, room⟩, Nat.min_le_right _ _⟩
  | bare unowned early =>
      refine .bare unowned ?_
      change min _ packet.data.length ≤ _
      rw [unowned, List.length_nil, Nat.min_zero]
      exact Nat.zero_le _

theorem unpack_moves (placed : packet.IsPlaced) (kinds : List Kind) :
    Moves packet (unpack packet kinds).2 := by
  obtain ⟨values, moved, reads⟩ | ⟨fault, stopped, fails⟩ := reads_or_fails packet kinds
  · rw [reads.unpack_eq]
    exact reads.moves placed
  · have moves := fails.moves placed
    rw [fails.unpack_eq]
    exact ⟨moves.header, moves.data, seek_isPlaced moves.placed _⟩

theorem length_of_decode? {octets : Bytes} {header : Header}
    (found : Header.decode? octets = some header) : Header.size ≤ octets.length := by
  obtain ⟨rest, rfl⟩ := Header.eq_encode_of_decode? found
  rw [List.length_append, Header.length_encode]
  exact Nat.le_add_right _ _

theorem decode?_nil : Header.decode? [] = none := rfl

/-- Resetting an intact packet does no more than put the cursor back. -/
theorem IsIntact.reset_eq (intact : IsIntact packet) :
    packet.reset = { packet with cursor := Header.size } := by
  cases intact with
  | owned heads counts => rw [Packet.reset, heads, Option.getD_some]
  | bare unowned blank => rw [Packet.reset, unowned, decode?_nil, Option.getD_none]

theorem IsIntact.counts (intact : IsIntact packet) (owned : packet.data ≠ []) :
    packet.header.len = UInt32.ofNat packet.payload.length := by
  cases intact with
  | owned heads counts => exact counts
  | bare unowned blank => exact absurd unowned owned

theorem IsIntact.reset_moves (intact : IsIntact packet) : Moves packet packet.reset := by
  rw [intact.reset_eq]
  refine ⟨rfl, rfl, ?_⟩
  cases intact with
  | owned heads counts => exact .inside ⟨Nat.le_refl _, length_of_decode? heads⟩
  | bare unowned blank => exact .bare unowned (Nat.le_refl _)

theorem IsIntact.moves (intact : IsIntact packet) (moves : Moves packet moved) :
    IsIntact moved := by
  have payload : moved.payload = packet.payload := congrArg (List.drop Header.size) moves.data
  cases intact with
  | owned heads counts =>
      refine .owned ?_ ?_
      · rw [moves.data, moves.header, heads]
      · rw [moves.header, payload, counts]
  | bare unowned blank => exact .bare (moves.data.trans unowned) (moves.header.trans blank)

theorem Call.apply_moves (intact : IsIntact packet) (placed : packet.IsPlaced) (call : Call) :
    Moves packet (call.apply packet).2 := by
  cases call with
  | unpack kinds => exact unpack_moves placed kinds
  | field kind => exact takeField_moves placed kind
  | reset => exact intact.reset_moves

theorem ofParts_isPlaced {header : Header} (room : Header.size ≤ octets.length) :
    (Packet.ofParts header octets).IsPlaced :=
  .inside ⟨Nat.le_refl _, room⟩

namespace Arises

theorem sound (arises : Arises packet) : IsIntact packet ∧ packet.IsPlaced := by
  induction arises with
  | @frame octets packet built =>
      obtain ⟨header, heads, sized, rfl⟩ := Packet.ofFrame_eq_ok_iff.mp built
      have length : (octets.drop Header.size).length = header.len.toNat := by
        rw [List.length_drop, ← sized, Header.frameSize, Nat.add_sub_cancel_left]
      refine ⟨.owned heads ?_, ofParts_isPlaced (length_of_decode? heads)⟩
      change header.len = UInt32.ofNat (octets.drop Header.size).length
      rw [length, UInt32.ofNat_toNat]
  | packed packer =>
      have payload : packer.finish.payload = packer.payload :=
        List.drop_left' (Header.length_encode _)
      have heads : Header.decode? packer.finish.data = some packer.header :=
        Header.decode?_encode_append _ _
      refine ⟨.owned heads ?_, ofParts_isPlaced (length_of_decode? heads)⟩
      rw [payload]
      rfl
  | empty => exact ⟨.bare rfl rfl, .bare rfl (Nat.zero_le _)⟩
  | call arises call ih =>
      have moves := call.apply_moves ih.1 ih.2
      exact ⟨ih.1.moves moves, moves.placed⟩

theorem isIntact (arises : Arises packet) : IsIntact packet := arises.sound.1

theorem isPlaced (arises : Arises packet) : packet.IsPlaced := arises.sound.2

end Arises

end RequestMux.Field
