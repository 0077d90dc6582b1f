import RequestMux.Proofs.Field.Usage

/-!
# What was read is packed again

Values that were read off a packet are packed into the octets they were read from.  Only a
variable-length size may have been longer than it need be; packing gives it its shortest form.
-/

namespace RequestMux

/-- The payload from one offset up to another. -/
def Wire.Packet.between (packet : Wire.Packet) (start stop : Nat) : Bytes :=
  (packet.payload.drop start).take (stop - start)

namespace Field

open Wire (Packet)

/-- Two byte strings that spell the same values in the same octets, but for the variable-length
sizes: the second has each of them in its shortest form. -/
inductive Shortens : List Value → Bytes → Bytes → Prop where
  | nil : Shortens [] [] []
  | tail (octets : Bytes) : Shortens [.tail octets] octets octets
  | plain {value : Value} {values : List Value} {octets old new : Bytes}
      (unsized : ¬value.kind.IsSized) (spelled : Spells value octets)
      (later : Shortens values old new) :
      Shortens (value :: values) (octets ++ old) (octets ++ new)
  | sized {value : Value} {values : List Value} {digits shortest content old new : Bytes}
      (sized : value.kind.IsSized) (spelled : Spells value (digits ++ content))
      (size : BerSize.Spells digits content.length)
      (least : BerSize.IsShortest shortest content.length) (later : Shortens values old new) :
      Shortens (value :: values) (digits ++ content ++ old) (shortest ++ content ++ new)

/-- What may stand at the end of a list of fields: nothing, or a tail. -/
inductive Closes : List Value → Bytes → Prop where
  | none : Closes [] []
  | tail (octets : Bytes) : Closes [.tail octets] octets

variable {packet moved : Packet} {kinds : List Kind} {value : Value}
  {values closing : List Value} {octets old new back : Bytes}

namespace Shortens

theorem length_le (shortens : Shortens values old new) : new.length ≤ old.length := by
  induction shortens with
  | nil => exact Nat.le_refl _
  | tail => exact Nat.le_refl _
  | plain _ _ _ ih =>
      rw [List.length_append, List.length_append]
      exact Nat.add_le_add_left ih _
  | sized _ _ size least _ ih =>
      have shorter := least.least _ size
      simp only [List.length_append]
      omega

/-- Without variable-length sizes nothing is left to shorten. -/
theorem eq_of_unsized (shortens : Shortens values old new)
    (unsized : ∀ value ∈ values, ¬value.kind.IsSized) : new = old := by
  induction shortens with
  | nil => rfl
  | tail => rfl
  | plain _ _ _ ih => rw [ih (List.forall_mem_cons.mp unsized).2]
  | sized sized _ _ _ _ _ => exact absurd sized (List.forall_mem_cons.mp unsized).1

end Shortens

theorem not_sizesVary_zero : sizesVary 0 = false := rfl

theorem encodePrefixed_zero (content : Bytes) :
    encodePrefixed 0 content = Bytes.ofWord 4 content.length ++ content := by
  rw [encodePrefixed, not_sizesVary_zero, if_neg Bool.false_ne_true]

/-- Content behind a variable-length size is packed behind the shortest form of the size. -/
theorem IsSized.encode {content : Bytes} (sized : IsSized content octets) :
    ∃ digits, octets = digits ++ content ∧ BerSize.Spells digits content.length ∧
      BerSize.IsShortest (BerSize.encode (UInt32.ofNat content.length)) content.length := by
  obtain @⟨digits, size⟩ := sized
  have least := BerSize.encode_isShortest (UInt32.ofNat content.length)
  rw [UInt32.toNat_ofNat_of_lt' size.small] at least
  exact ⟨digits, rfl, size, least⟩

theorem isSized_encodeSized {content : Bytes} (sized : IsSized content octets) :
    IsSized content (encodeSized content) := by
  obtain ⟨digits, -, -, least⟩ := sized.encode
  exact ⟨least.spells⟩

/-- A value that was read is packed into octets that spell it. -/
theorem Spells.encode (spelled : Spells value octets) : Spells value (value.encode 0) := by
  cases spelled with
  | u8 word => exact .u8 word
  | u16 word => exact .u16 word
  | u32 word => exact .u32 word
  | u64 word => exact .u64 word
  | text counted =>
      obtain ⟨short⟩ := counted
      rw [Value.encode, encodePrefixed_zero]
      exact .text ⟨short⟩
  | blob counted =>
      obtain ⟨short⟩ := counted
      rw [Value.encode, encodePrefixed_zero]
      exact .blob ⟨short⟩
  | sizedText sized => exact .sizedText (isSized_encodeSized sized)
  | sizedBlob sized => exact .sizedBlob (isSized_encodeSized sized)

theorem Shortens.cons (spelled : Spells value octets) (later : Shortens values old new) :
    Shortens (value :: values) (octets ++ old) (value.encode 0 ++ new) := by
  cases spelled with
  | u8 word => exact .plain (by rintro ⟨⟩) (.u8 word) later
  | u16 word => exact .plain (by rintro ⟨⟩) (.u16 word) later
  | u32 word => exact .plain (by rintro ⟨⟩) (.u32 word) later
  | u64 word => exact .plain (by rintro ⟨⟩) (.u64 word) later
  | text counted =>
      obtain ⟨short⟩ := id counted
      rw [Value.encode, encodePrefixed_zero]
      exact .plain (by rintro ⟨⟩) (.text counted) later
  | blob counted =>
      obtain ⟨short⟩ := id counted
      rw [Value.encode, encodePrefixed_zero]
      exact .plain (by rintro ⟨⟩) (.blob counted) later
  | sizedText sized =>
      obtain ⟨digits, rfl, size, least⟩ := sized.encode
      exact .sized .text (.sizedText sized) size least later
  | sizedBlob sized =>
      obtain ⟨digits, rfl, size, least⟩ := sized.encode
      exact .sized .blob (.sizedBlob sized) size least later

theorem SpellsAll.encode (spelled : SpellsAll values octets) :
    SpellsAll values (payloadOf 0 values) := by
  induction spelled with
  | nil => exact .nil
  | cons first _ ih => exact .cons first.encode ih

theorem Closes.payload (closes : Closes closing back) : payloadOf 0 closing = back := by
  cases closes with
  | none => rfl
  | tail => exact List.append_nil back

theorem Closes.shortens (closes : Closes closing back) :
    Shortens closing back (payloadOf 0 closing) := by
  rw [closes.payload]
  cases closes with
  | none => exact .nil
  | tail => exact .tail back

theorem payloadOf_append (flags : UInt32) (front back : List Value) :
    payloadOf flags (front ++ back) = payloadOf flags front ++ payloadOf flags back :=
  List.flatMap_append

theorem SpellsAll.shortens (spelled : SpellsAll values octets) (closes : Closes closing back) :
    Shortens (values ++ closing) (octets ++ back) (payloadOf 0 (values ++ closing)) := by
  induction spelled with
  | nil => exact closes.shortens
  | cons first _ ih =>
      rw [List.append_assoc]
      exact .cons first ih

theorem noTail_or_tailLast (tailLast : ∀ kind ∈ kinds.dropLast, kind ≠ .tail) :
    Kind.tail ∉ kinds ∨ ∃ init, Kind.tail ∉ init ∧ kinds = init ++ [.tail] := by
  rcases List.eq_nil_or_concat kinds with rfl | ⟨init, last, rfl⟩
  · exact .inl List.not_mem_nil
  · rw [List.concat_eq_append, List.dropLast_concat] at tailLast
    have before : Kind.tail ∉ init := fun member => tailLast _ member rfl
    rw [List.concat_eq_append]
    by_cases tail : last = .tail
    · exact .inr ⟨init, before, by rw [tail]⟩
    · exact .inl fun member => (List.mem_append.mp member).elim before fun single =>
        tail (List.mem_singleton.mp single).symm

/-- The octets of a list of fields that may end in a tail. -/
theorem Reads.closes (reads : Reads packet kinds values moved) (placed : packet.IsPlaced)
    (tailLast : ∀ kind ∈ kinds.dropLast, kind ≠ .tail) :
    ∃ front closing octets back, values = front ++ closing ∧ SpellsAll front octets ∧
      Closes closing back ∧ values.map Value.kind = kinds ∧ octets ++ back <+: packet.ahead ∧
      moved.offset = packet.offset + (octets ++ back).length := by
  obtain noTail | ⟨init, noTail, rfl⟩ := noTail_or_tailLast tailLast
  · obtain ⟨octets, spelled, leads, listed, rfl⟩ := reads.spellsAll placed noTail
    refine ⟨values, [], octets, [], (List.append_nil _).symm, spelled, .none, listed, ?_, ?_⟩
    · rwa [List.append_nil]
    · rw [List.append_nil, placed.offset_past leads.length_le]
  · obtain ⟨front, closing, middle, reached, left, rfl⟩ := reads_append_iff.mp reads
    obtain ⟨octets, spelled, leads, listed, rfl⟩ := reached.spellsAll placed noTail
    obtain ⟨rest, stands⟩ := id leads
    have behind := Packet.ahead_past stands.symm
    -- the tail is all that the fields in front of it have left
    cases left with
    | cons first later =>
        cases first
        cases later
        refine ⟨front, [.tail rest], octets, rest, ?_, spelled, .tail rest, ?_, ?_, ?_⟩
        · rw [← behind]
          rfl
        · rw [List.map_append, listed]
          rfl
        · exact stands ▸ List.prefix_refl _
        · rw [(placed.past leads.length_le).offset_takeRest, placed.offset_past leads.length_le,
            behind, List.length_append, Nat.add_assoc]

/-- What stands at the end is read to the end. -/
theorem Closes.reads (closes : Closes closing packet.ahead) :
    ∃ moved, Reads packet (closing.map Value.kind) closing moved ∧ moved.bytesLeft = 0 := by
  generalize stands : packet.ahead = back at closes
  cases closes with
  | none => exact ⟨packet, .nil, by rw [Packet.bytesLeft_eq, stands]; rfl⟩
  | tail =>
      refine ⟨packet.takeRest.2, .cons ?_ .nil, Nat.sub_self _⟩
      rw [← stands]
      rfl

/-- **Packing undoes reading.**  Let fields, of which only the last may be a tail, be read of a
packet from one offset to another.  Packing their values gives the payload between the offsets, if
no field has a variable-length size; if some do, it gives the same octets with each such size in its
shortest form, and so never more of them.  Reading the new packet gives the values again, up to its
last byte. -/
theorem packing_undoes_reading (arises : Arises packet)
    (tailLast : ∀ kind ∈ kinds.dropLast, kind ≠ .tail)
    (read : unpack packet kinds = (.ok values, moved)) (msg sync : UInt32) :
    ((∀ kind ∈ kinds, ¬kind.IsSized) →
      (pack msg sync 0 values).payload = packet.between packet.offset moved.offset) ∧
    Shortens values (packet.between packet.offset moved.offset) (pack msg sync 0 values).payload ∧
    (pack msg sync 0 values).payload.length ≤ moved.offset - packet.offset ∧
    (unpack (pack msg sync 0 values) kinds).1 = .ok values ∧
    (unpack (pack msg sync 0 values) kinds).2.bytesLeft = 0 := by
  have placed := arises.isPlaced
  obtain ⟨front, closing, octets, back, rfl, spelled, closes, listed, leads, stopped⟩ :=
    (unpack_eq_ok_iff.mp read).closes placed tailLast
  have span : moved.offset - packet.offset = (octets ++ back).length := by
    rw [stopped, Nat.add_sub_cancel_left]
  have between : packet.between packet.offset moved.offset = octets ++ back := by
    rw [Packet.between, placed.payload_drop, span]
    exact (List.prefix_iff_eq_take.mp leads).symm
  have shortens := spelled.shortens closes
  have payload := payload_pack msg sync 0 (front ++ closing)
  -- the packed values are read where their new octets stand
  have inside := pack_isInside msg sync 0 (front ++ closing)
  have stands := ahead_pack msg sync 0 (front ++ closing)
  rw [payloadOf_append] at stands
  have again := spelled.encode.reads (.inside inside) ⟨_, stands.symm⟩
  have behind := Packet.ahead_past stands
  obtain ⟨final, rest, spent⟩ : ∃ final, Reads
      ((pack msg sync 0 (front ++ closing)).past (payloadOf 0 front).length)
      (closing.map Value.kind) closing final ∧ final.bytesLeft = 0 := by
    refine Closes.reads ?_
    rw [behind, closes.payload]
    exact closes
  have whole : Reads (pack msg sync 0 (front ++ closing)) kinds (front ++ closing) final := by
    rw [← listed, List.map_append]
    exact reads_append_iff.mpr ⟨front, closing, _, again, rest, rfl⟩
  rw [payload, between, span, whole.unpack_eq]
  refine ⟨fun unsized => ?_, shortens, shortens.length_le, rfl, spent⟩
  refine shortens.eq_of_unsized fun value member => unsized _ ?_
  rw [← listed]
  exact List.mem_map_of_mem member

/-- A size with a leading zero loses it when the text behind it is packed again; where the size is
read as part of a tail, it stays as it was. -/
theorem packing_undoes_reading_padded :
    let packet := pack 1 9 0 [.tail [7, 0x80, 2, 104, 105, 33]]
    let kinds := [Kind.u8, .sizedText, .tail]
    let values := [Value.u8 7, .sizedText "hi", .tail [33]]
    let plain := [Value.u8 7, .tail [0x80, 2, 104, 105, 33]]
    Arises packet ∧ (∀ kind ∈ kinds.dropLast, kind ≠ .tail) ∧
      unpack packet kinds = (.ok values, packet.past 6) ∧
      packet.between 0 6 = [7, 0x80, 2, 104, 105, 33] ∧
      (pack 2 5 0 values).payload = [7, 2, 104, 105, 33] ∧
      Shortens values (packet.between 0 6) (pack 2 5 0 values).payload ∧
      (unpack (pack 2 5 0 values) kinds).1 = .ok values ∧
      unpack packet [.u8, .tail] = (.ok plain, packet.past 6) ∧
      (pack 2 5 0 plain).payload = packet.between 0 6 := by
  intro packet kinds values plain
  have arises : Arises packet := .packed _
  have tailLast : ∀ kind ∈ kinds.dropLast, kind ≠ .tail := by decide
  have read : unpack packet kinds = (.ok values, packet.past 6) := rfl
  have readPlain : unpack packet [.u8, .tail] = (.ok plain, packet.past 6) := rfl
  have unsized : ∀ kind ∈ [Kind.u8, .tail], ¬kind.IsSized := by decide
  obtain ⟨-, shortens, -, again, -⟩ := packing_undoes_reading arises tailLast read 2 5
  obtain ⟨same, -⟩ := packing_undoes_reading arises (by decide) readPlain 2 5
  exact ⟨arises, tailLast, read, rfl, rfl, shortens, again, readPlain, same unsized⟩

end Field

end RequestMux
