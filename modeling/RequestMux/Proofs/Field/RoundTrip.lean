import RequestMux.Proofs.Field.Reading
import RequestMux.Proofs.Wire.Pushing

/-!
# Packets packed, carried and unpacked

A packet goes over the wire in chunks that nobody chose.  What comes out of the
frame buffer at the other end is the packet that was packed, and its fields are the
values that were put in.
-/

namespace RequestMux.Field

open Wire (FrameBuffer Header Packet)

namespace Packer

theorem putAll_eq (packer : Packer) (values : List Value) :
    packer.putAll values = packer.putRaw (values.flatMap (Value.encode packer.flags)) := by
  induction values generalizing packer with
  | nil => simp only [putAll, putRaw, List.foldl_nil, List.flatMap_nil, List.append_nil]
  | cons value values ih =>
      have first : packer.putAll (value :: values) = (packer.put value).putAll values := rfl
      rw [first, ih, List.flatMap_cons]
      simp only [put, putRaw, List.append_assoc]

end Packer

/-- The bytes behind the header of a packet of values. -/
def payloadOf (flags : UInt32) (values : List Value) : Bytes :=
  values.flatMap (Value.encode flags)

variable {msg sync flags limit : UInt32} {values : List Value}

/-- The header of a packet of values. -/
def headerOf (msg sync flags : UInt32) (values : List Value) : Header :=
  ⟨msg, UInt32.ofNat (payloadOf flags values).length, sync⟩

theorem pack_eq (msg sync flags : UInt32) (values : List Value) :
    pack msg sync flags values =
      Packet.ofParts (headerOf msg sync flags values)
        ((headerOf msg sync flags values).encode ++ payloadOf flags values) := by
  rw [pack, Packer.putAll_eq]
  rfl

theorem payload_pack (msg sync flags : UInt32) (values : List Value) :
    (pack msg sync flags values).payload = payloadOf flags values := by
  rw [pack_eq]
  exact List.drop_left' (Header.length_encode _)

/-- A packet of values is read from the front of its payload. -/
theorem pack_isInside (msg sync flags : UInt32) (values : List Value) :
    (pack msg sync flags values).IsInside := by
  rw [pack_eq]
  refine ⟨Nat.le_refl _, ?_⟩
  change Header.size ≤ (_ ++ _ : Bytes).length
  rw [List.length_append, Header.length_encode]
  exact Nat.le_add_right _ _

theorem ahead_pack (msg sync flags : UInt32) (values : List Value) :
    (pack msg sync flags values).ahead = payloadOf flags values := by
  have whole : (pack msg sync flags values).ahead = (pack msg sync flags values).payload := by
    rw [pack_eq]
    rfl
  rw [whole, payload_pack]

/-- A packet of values is one whole frame. -/
theorem pack_isFrame (msg sync : UInt32)
    (short : (payloadOf flags values).length < UInt32.size) :
    Header.decode? (pack msg sync flags values).data = some (headerOf msg sync flags values) ∧
      (headerOf msg sync flags values).frameSize = (pack msg sync flags values).data.length := by
  rw [pack_eq]
  refine ⟨Header.decode?_encode_append _ _, ?_⟩
  simp only [Packet.ofParts, List.length_append, Header.length_encode, Header.frameSize, headerOf,
    UInt32.toNat_ofNat_of_lt' short]

/-- The fields of a packet are the values that were packed, and nothing follows them. -/
theorem unpack_pack (msg sync : UInt32) (tailLast : ∀ value ∈ values.dropLast, value.kind ≠ .tail)
    (short : (payloadOf flags values).length < UInt32.size) :
    (unpack (pack msg sync flags values) (values.map (Value.kindUnder flags))).1 =
        .ok (values.map (Value.asRead flags)) ∧
      (unpack (pack msg sync flags values) (values.map (Value.kindUnder flags))).2.bytesLeft =
        0 := by
  have stands := ahead_pack msg sync flags values
  have taken := takeFields_eq (pack_isInside msg sync flags values) values tailLast
    (stands ▸ short) stands
  have behind : ((pack msg sync flags values).past
      (pack msg sync flags values).ahead.length).ahead = [] :=
    Packet.ahead_past (List.append_nil _).symm
  simp only [unpack, taken, Packet.bytesLeft_eq, behind, List.length_nil, and_self]

/-- **A packet is read back whole.**  However the bytes of a packet of values are cut into
chunks, pushing them in order through a buffer that admits its payload gives this one packet,
with the last chunk that is not empty, and leaves nothing behind; reading it with the kinds of
the values gives the values again, up to its last byte.  Only the last value may be a tail. -/
theorem pack_comes_back (msg sync flags limit : UInt32) (values : List Value)
    (chunks : List Bytes) (tailLast : ∀ value ∈ values.dropLast, value.kind ≠ .tail)
    (fits : (pack msg sync flags values).payload.length ≤ limit.toNat)
    (cut : chunks.flatten = (pack msg sync flags values).data) :
    ∃ packet, (FrameBuffer.empty limit).GivesOnce chunks packet ∧
      packet.header.msg = msg ∧ packet.header.sync = sync ∧
      packet.data = (pack msg sync flags values).data ∧
      (unpack packet (values.map (Value.kindUnder flags))).1 =
        .ok (values.map (Value.asRead flags)) ∧
      (unpack packet (values.map (Value.kindUnder flags))).2.bytesLeft = 0 := by
  rw [payload_pack] at fits
  have short : (payloadOf flags values).length < UInt32.size :=
    Nat.lt_of_le_of_lt fits limit.toNat_lt
  obtain ⟨leads, sized⟩ := pack_isFrame msg sync short
  have admitted : (headerOf msg sync flags values).excess? limit = none := by
    have length : (headerOf msg sync flags values).len.toNat = (payloadOf flags values).length :=
      UInt32.toNat_ofNat_of_lt' short
    rw [Header.excess?, length, if_neg (Nat.not_lt.mpr fits)]
  have filled : chunks.flatten ≠ [] := by
    intro none
    have length : Header.size ≤ (pack msg sync flags values).data.length :=
      sized ▸ Nat.le_add_right _ _
    rw [← cut, none] at length
    cases length
  have same : Packet.ofParts (headerOf msg sync flags values) (pack msg sync flags values).data =
      pack msg sync flags values := by
    rw [pack_eq]
    rfl
  have whole : ([] : Bytes) ++ chunks.flatten = (pack msg sync flags values).data := cut
  have given := FrameBuffer.givesOnce_frame leads sized admitted whole filled
  rw [same] at given
  have leading : (pack msg sync flags values).header = headerOf msg sync flags values := by
    rw [pack_eq]
    rfl
  obtain ⟨read, spent⟩ := unpack_pack msg sync tailLast short
  exact ⟨_, given, congrArg Header.msg leading, congrArg Header.sync leading, rfl, read, spent⟩

theorem pack_comes_back_in_pieces :
    ∃ packet, (FrameBuffer.empty 64).GivesOnce
        [[], [7, 0, 0, 0, 8, 0, 0, 0, 9, 0, 0, 0], [5, 0], [2, 104], [105, 1, 2, 3], []] packet ∧
      packet.header.msg = 7 ∧ packet.header.sync = 9 ∧
      packet.data = (pack 7 9 1 [.u16 5, .text "hi", .tail [1, 2, 3]]).data ∧
      (unpack packet [.u16, .sizedText, .tail]).1 =
        .ok [.u16 5, .sizedText "hi", .tail [1, 2, 3]] ∧
      (unpack packet [.u16, .sizedText, .tail]).2.bytesLeft = 0 :=
  pack_comes_back 7 9 1 64 [.u16 5, .text "hi", .tail [1, 2, 3]]
    [[], [7, 0, 0, 0, 8, 0, 0, 0, 9, 0, 0, 0], [5, 0], [2, 104], [105, 1, 2, 3], []]
    (by decide) (by decide) (by decide)

end RequestMux.Field
