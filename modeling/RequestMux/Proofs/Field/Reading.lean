import RequestMux.Field.Packer
import RequestMux.Field.Unpack
import RequestMux.Proofs.Field.Digits
import RequestMux.Proofs.Text.Spelling
import RequestMux.Proofs.Wire.Words

/-!
# Fields read at a cursor

What a field reader finds depends only on the bytes from the cursor on.  Where the
encoding of a value stands there, the reader of its kind takes the value and leaves
the cursor behind the encoding.
-/

namespace RequestMux

namespace Wire.Packet

/-- The bytes from the cursor on. -/
def ahead (packet : Packet) : Bytes := packet.data.drop packet.cursor

/-- The packet with its cursor so many bytes further on. -/
def past (packet : Packet) (count : Nat) : Packet :=
  { packet with cursor := packet.cursor + count }

/-- The cursor stands in the payload, or at its end. -/
structure IsInside (packet : Packet) : Prop where
  behindHeader : Header.size ≤ packet.cursor
  withinData : packet.cursor ≤ packet.data.length

variable {packet : Packet} {octets rest : Bytes}

theorem bytesLeft_eq (packet : Packet) : packet.bytesLeft = packet.ahead.length :=
  List.length_drop.symm

theorem past_past (packet : Packet) (first second : Nat) :
    (packet.past first).past second = packet.past (first + second) :=
  congrArg (fun cursor => { packet with cursor }) (Nat.add_assoc _ _ _)

theorem ahead_past (stands : packet.ahead = octets ++ rest) :
    (packet.past octets.length).ahead = rest := by
  have further : (packet.past octets.length).ahead = packet.ahead.drop octets.length :=
    List.drop_drop.symm
  rw [further, stands, List.drop_left]

theorem IsInside.past (inside : packet.IsInside) (stands : packet.ahead = octets ++ rest) :
    (packet.past octets.length).IsInside := by
  have left : packet.data.length - packet.cursor = octets.length + rest.length := by
    rw [← List.length_append, ← stands, ahead, List.length_drop]
  refine ⟨Nat.le_add_right_of_le inside.behindHeader, ?_⟩
  change packet.cursor + octets.length ≤ packet.data.length
  have := inside.withinData
  omega

theorem take_eq (stands : packet.ahead = octets ++ rest) :
    packet.take octets.length = .ok (octets, packet.past octets.length) := by
  have enough : ¬packet.bytesLeft < octets.length := by
    rw [bytesLeft_eq, stands, List.length_append]
    omega
  have front : (packet.data.drop packet.cursor).take octets.length = octets := by
    rw [← ahead, stands, List.take_left]
  rw [take, if_neg enough, front]
  rfl

/-- All the bytes ahead are taken, up to the end. -/
theorem takeRest_eq (inside : packet.IsInside) :
    packet.takeRest = (packet.ahead, packet.past packet.ahead.length) := by
  have reached : packet.cursor + packet.ahead.length = packet.data.length := by
    rw [← bytesLeft_eq]
    exact Nat.add_sub_cancel' inside.withinData
  rw [past, reached]
  rfl

/-- What is left at an offset is what stands ahead. -/
theorem payload_drop_offset (inside : packet.IsInside) :
    packet.payload.drop packet.offset = packet.ahead := by
  have whole : Header.size + (packet.cursor - Header.size) = packet.cursor :=
    Nat.add_sub_cancel' inside.behindHeader
  rw [payload, offset, List.drop_drop, whole]
  rfl

end Wire.Packet

namespace Field

open Wire (Packet)

variable {packet : Packet} {octets rest : Bytes} {flags : UInt32}

theorem takeWord_eq {width word : Nat} (small : word < 256 ^ width)
    (stands : packet.ahead = Bytes.ofWord width word ++ rest) :
    takeWord packet width = (.ok word, packet.past width) := by
  have taken := Packet.take_eq stands
  rw [Bytes.length_ofWord] at taken
  simp only [takeWord, taken, Bytes.toWord_ofWord, Nat.mod_eq_of_lt small]

theorem takeAnnounced_eq (stands : packet.ahead = octets ++ rest) (fault : Mismatch) :
    takeAnnounced packet octets.length fault = (.ok octets, packet.past octets.length) := by
  have enough : ¬packet.bytesLeft < octets.length := by
    rw [Packet.bytesLeft_eq, stands, List.length_append]
    omega
  simp only [takeAnnounced, enough, if_false, Packet.take_eq stands]

theorem takePrefixed_eq (short : octets.length < UInt32.size)
    (stands : packet.ahead = Bytes.ofWord 4 octets.length ++ octets ++ rest) :
    takePrefixed packet =
      (.ok octets, packet.past (Bytes.ofWord 4 octets.length ++ octets).length) := by
  rw [List.append_assoc] at stands
  have behind : (packet.past 4).ahead = octets ++ rest := by
    have further := Packet.ahead_past stands
    rwa [Bytes.length_ofWord] at further
  simp only [takePrefixed, takeWord_eq short stands, takeAnnounced_eq behind, Packet.past_past,
    List.length_append, Bytes.length_ofWord]

/-- Content is read behind digits that spell its length. -/
theorem takeSized_of_digits {digits : Bytes}
    (reached : packet.payload.drop packet.offset = packet.ahead)
    (size : BerSize.Spells digits octets.length)
    (stands : packet.ahead = digits ++ octets ++ rest) :
    takeSized packet = (.ok octets, packet.past (digits ++ octets).length) := by
  rw [List.append_assoc] at stands
  have number : (UInt32.ofNat octets.length).toNat = octets.length :=
    UInt32.toNat_ofNat_of_lt' size.small
  have spelled : BerSize.Spells digits (UInt32.ofNat octets.length).toNat := by rwa [number]
  have read := BerSize.decode_spells spelled ⟨_, stands.symm⟩
  have announced := takeAnnounced_eq (Packet.ahead_past stands)
  simp only [takeSized, reached, Packet.bytesLeft_eq, BerSize.decode_take, read,
    Packet.take_eq stands, number, announced, Packet.past_past, List.length_append]

theorem takeSized_eq (inside : packet.IsInside) (short : octets.length < UInt32.size)
    (stands : packet.ahead = encodeSized octets ++ rest) :
    takeSized packet = (.ok octets, packet.past (encodeSized octets).length) := by
  have size := BerSize.encode_spells (UInt32.ofNat octets.length)
  rw [UInt32.toNat_ofNat_of_lt' short] at size
  exact takeSized_of_digits (Packet.payload_drop_offset inside) size stands

/-- A word read back is the word it was. -/
theorem map_takeWord_eq {width word : Nat} (small : word < 256 ^ width)
    (stands : packet.ahead = Bytes.ofWord width word ++ rest) (make : Nat → Value) :
    Read.map (takeWord packet width) make =
      (.ok (make word), packet.past (Bytes.ofWord width word).length) := by
  rw [takeWord_eq small stands, Bytes.length_ofWord]
  rfl

theorem map_octets_eq {read : Read Bytes} {moved : Packet} (found : read = (.ok octets, moved))
    (make : Bytes → Value) : Read.map read make = (.ok (make octets), moved) := by
  rw [found]
  rfl

/-- Octets of a text that were read spell the text. -/
theorem map_toText_eq {read : Read Bytes} {text : String} {moved : Packet}
    (found : read = (.ok (Utf8.encode text), moved)) (make : String → Value) :
    Read.map (Read.refine read toText) make = (.ok (make text), moved) := by
  have spelled : toText (Utf8.encode text) = .ok text := by rw [toText, Utf8.decode_encode]
  rw [found]
  exact congrArg (fun read => (Except.map make read, moved)) spelled

/-- The kind that reads a value back when it was packed under the given flags. -/
def Value.kindUnder (flags : UInt32) (value : Value) : Kind :=
  if sizesVary flags then value.sizedKind else value.kind

/-- The value that a reader finds: a variable-length size shows in its kind. -/
def Value.asRead (flags : UInt32) : Value → Value
  | .text value => if sizesVary flags then .sizedText value else .text value
  | .blob value => if sizesVary flags then .sizedBlob value else .blob value
  | value => value

/-- The content of a value is not longer than its encoding. -/
theorem length_le_encodePrefixed (flags : UInt32) (octets : Bytes) :
    octets.length ≤ (encodePrefixed flags octets).length := by
  unfold encodePrefixed encodeSized
  split
  all_goals
    rw [List.length_append]
    exact Nat.le_add_left _ _

theorem length_le_encodeSized (octets : Bytes) : octets.length ≤ (encodeSized octets).length := by
  rw [encodeSized, List.length_append]
  exact Nat.le_add_left _ _

theorem takeField_text (inside : packet.IsInside) (text : String)
    (short : (Utf8.encode text).length < UInt32.size)
    (stands : packet.ahead = encodePrefixed flags (Utf8.encode text) ++ rest) :
    takeField packet ((Value.text text).kindUnder flags) =
      (.ok ((Value.text text).asRead flags),
        packet.past (encodePrefixed flags (Utf8.encode text)).length) := by
  unfold encodePrefixed Value.kindUnder Value.asRead at *
  cases vary : sizesVary flags with
  | true =>
      rw [vary, if_pos rfl] at stands
      exact map_toText_eq (takeSized_eq inside short stands) .sizedText
  | false =>
      rw [vary, if_neg Bool.false_ne_true] at stands
      exact map_toText_eq (takePrefixed_eq short stands) .text

theorem takeField_blob (inside : packet.IsInside) (octets : Bytes)
    (short : octets.length < UInt32.size)
    (stands : packet.ahead = encodePrefixed flags octets ++ rest) :
    takeField packet ((Value.blob octets).kindUnder flags) =
      (.ok ((Value.blob octets).asRead flags),
        packet.past (encodePrefixed flags octets).length) := by
  unfold encodePrefixed Value.kindUnder Value.asRead at *
  cases vary : sizesVary flags with
  | true =>
      rw [vary, if_pos rfl] at stands
      exact map_octets_eq (takeSized_eq inside short stands) .sizedBlob
  | false =>
      rw [vary, if_neg Bool.false_ne_true] at stands
      exact map_octets_eq (takePrefixed_eq short stands) .blob

/-- A value is read back where its encoding stands; a tail only at the end. -/
theorem takeField_eq (inside : packet.IsInside) (value : Value)
    (short : (value.encode flags).length < UInt32.size)
    (last : value.kind = .tail → rest = [])
    (stands : packet.ahead = value.encode flags ++ rest) :
    takeField packet (value.kindUnder flags) =
      (.ok (value.asRead flags), packet.past (value.encode flags).length) := by
  have plain (same : value.sizedKind = value.kind) : value.kindUnder flags = value.kind := by
    rw [Value.kindUnder, same, ite_self]
  cases value with
  | u8 word =>
      have read := map_takeWord_eq word.toNat_lt stands fun word => .u8 (UInt8.ofNat word)
      rw [UInt8.ofNat_toNat] at read
      rw [plain rfl]
      exact read
  | u16 word =>
      have read := map_takeWord_eq word.toNat_lt stands fun word => .u16 (UInt16.ofNat word)
      rw [UInt16.ofNat_toNat] at read
      rw [plain rfl]
      exact read
  | u32 word =>
      have read := map_takeWord_eq word.toNat_lt stands fun word => .u32 (UInt32.ofNat word)
      rw [UInt32.ofNat_toNat] at read
      rw [plain rfl]
      exact read
  | u64 word =>
      have read := map_takeWord_eq word.toNat_lt stands fun word => .u64 (UInt64.ofNat word)
      rw [UInt64.ofNat_toNat] at read
      rw [plain rfl]
      exact read
  | text text =>
      have content := Nat.lt_of_le_of_lt (length_le_encodePrefixed flags _) short
      exact takeField_text inside text content stands
  | blob octets =>
      have content := Nat.lt_of_le_of_lt (length_le_encodePrefixed flags _) short
      exact takeField_blob inside octets content stands
  | tail octets =>
      have all : packet.ahead = octets := by
        rw [stands, last rfl, List.append_nil]
        rfl
      simp only [plain rfl, Value.kind, takeField, Packet.takeRest_eq inside, all, Value.asRead,
        Value.encode]
  | sizedText text =>
      have content := Nat.lt_of_le_of_lt (length_le_encodeSized _) short
      rw [plain rfl]
      exact map_toText_eq (takeSized_eq inside content stands) .sizedText
  | sizedBlob octets =>
      have content := Nat.lt_of_le_of_lt (length_le_encodeSized _) short
      rw [plain rfl]
      exact map_octets_eq (takeSized_eq inside content stands) .sizedBlob

/-- Values are read back in order where their encodings stand, up to the end. -/
theorem takeFields_eq (inside : packet.IsInside) (values : List Value)
    (tailLast : ∀ value ∈ values.dropLast, value.kind ≠ .tail)
    (short : packet.ahead.length < UInt32.size)
    (stands : packet.ahead = values.flatMap (Value.encode flags)) :
    takeFields packet (values.map (Value.kindUnder flags)) =
      (.ok (values.map (Value.asRead flags)), packet.past packet.ahead.length) := by
  induction values generalizing packet with
  | nil =>
      rw [stands]
      rfl
  | cons value values ih =>
      have first : packet.ahead = value.encode flags ++ values.flatMap (Value.encode flags) := by
        rw [stands, List.flatMap_cons]
      have last : value.kind = .tail → values.flatMap (Value.encode flags) = [] := by
        intro tail
        cases values with
        | nil => rfl
        | cons other others => exact absurd tail (tailLast value List.mem_cons_self)
      have whole : packet.ahead.length =
          (value.encode flags).length + (values.flatMap (Value.encode flags)).length := by
        rw [first, List.length_append]
      -- the other fields are read where the cursor stands behind the first
      have taken := takeField_eq inside value (by omega) last first
      have behind := Packet.ahead_past first
      have later := ih (inside.past first)
        (fun other member => tailLast other (by
          cases values with
          | nil => cases member
          | cons next others => exact List.mem_cons_of_mem _ member))
        (by rw [behind]; omega) behind
      simp only [List.map_cons, takeFields, taken, later, Packet.past_past, behind, ← whole]
      rfl

end Field

end RequestMux
