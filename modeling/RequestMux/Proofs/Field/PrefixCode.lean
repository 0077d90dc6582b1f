import RequestMux.Proofs.Field.Usage

/-!
# Fields form a prefix code

Octets that are read as fields are read as the same fields whatever follows them, and no shorter
part of them is.  Octets that spell no fields spell none whatever follows them.  So a list of fields
that is cut short can only have too few octets.
-/

namespace RequestMux.Field

open Wire (Packet)

variable {packet other moved stopped : Packet} {kinds : List Kind} {values : List Value}
  {count : Nat} {cause : Malformed}

/-- What was read is read wherever its octets stand ahead. -/
theorem Reads.carry (reads : Reads packet kinds values moved) (placed : packet.IsPlaced)
    (noTail : Kind.tail ∉ kinds) :
    ∃ count, count ≤ packet.ahead.length ∧ moved = packet.past count ∧
      ∀ {other : Packet}, other.IsPlaced → packet.ahead.take count <+: other.ahead →
        Reads other kinds values (other.past count) := by
  obtain ⟨octets, spelled, leads, listed, rfl⟩ := reads.spellsAll placed noTail
  have front : packet.ahead.take octets.length = octets :=
    (List.prefix_iff_eq_take.mp leads).symm
  refine ⟨octets.length, leads.length_le, rfl, fun placed' leads' => ?_⟩
  rw [front] at leads'
  have again := spelled.reads placed' leads'
  rwa [listed] at again

/-- What is malformed is malformed wherever its octets stand ahead. -/
theorem IsSpoiled.carry (spoiled : IsSpoiled packet cause kinds) (placed : packet.IsPlaced)
    (placed' : other.IsPlaced) (noTail : Kind.tail ∉ kinds)
    (leads : packet.ahead <+: other.ahead) : IsSpoiled other cause kinds := by
  obtain ⟨reached, front, spoiled⟩ := spoiled
  obtain ⟨count, within, rfl, carried⟩ :=
    reached.carry placed fun member => noTail (List.mem_append_left _ member)
  have reached' := carried placed' ((List.take_prefix count packet.ahead).trans leads)
  -- the octets that spoil the field stand behind those of the fields in front of it
  have further : (packet.past count).ahead <+: (other.past count).ahead := by
    obtain ⟨rest, stands⟩ := leads
    rw [Packet.ahead_past_eq, Packet.ahead_past_eq, ← stands, List.drop_append_of_le_length within]
    exact List.prefix_append _ _
  exact .intro reached' (front.trans further) spoiled

/-- Fields that are read of some octets are not read of a shorter part of them. -/
theorem Reads.not_cut {shorter : List Value} (reads : Reads packet kinds values moved)
    (placed : packet.IsPlaced) (placed' : other.IsPlaced) (noTail : Kind.tail ∉ kinds)
    (consumed : moved = packet.past count) {cut : Nat} (less : cut < count)
    (stands : other.ahead = packet.ahead.take cut) :
    ¬Reads other kinds shorter stopped := by
  intro reads'
  obtain ⟨count', within, rfl, carried⟩ := reads'.carry placed' noTail
  have leads : other.ahead.take count' <+: packet.ahead := by
    rw [stands]
    exact (List.take_prefix _ _).trans (List.take_prefix _ _)
  have same := (carried placed leads).unpack_eq.symm.trans reads.unpack_eq
  have cursors : packet.cursor + count' = packet.cursor + count :=
    congrArg Packet.cursor ((Prod.mk.inj same).2.trans consumed)
  rw [stands, List.length_take] at within
  omega

/-- **Fields form a prefix code.**  Let fields, none of them a tail, be read of a packet, and let
`count` be the octets they take.  Wherever these octets stand ahead of another packet, the same
values are read of it and as much is taken; where only the first of them are left, there are too few
octets, and no other error arises.  Fields that are malformed are malformed in the same way on every
packet that goes on further. -/
theorem unpack_is_prefix_code (arises : Arises packet) (arises' : Arises other)
    (noTail : Kind.tail ∉ kinds) :
    (∀ values moved, unpack packet kinds = (.ok values, moved) →
      ∃ count, count ≤ packet.bytesLeft ∧ moved = packet.past count ∧
        (packet.ahead.take count <+: other.ahead →
          unpack other kinds = (.ok values, other.past count)) ∧
        ∀ cut < count, other.ahead = packet.ahead.take cut →
          ∃ cause, (unpack other kinds).1 = .error (.tupleMismatch cause)) ∧
    ∀ cause, (unpack packet kinds).1 = .error (.tupleInvalid cause) →
      packet.ahead <+: other.ahead → (unpack other kinds).1 = .error (.tupleInvalid cause) := by
  have placed := arises.isPlaced
  have placed' := arises'.isPlaced
  constructor
  · intro values moved read
    have reads := unpack_eq_ok_iff.mp read
    obtain ⟨count, within, consumed, carried⟩ := reads.carry placed noTail
    refine ⟨count, packet.bytesLeft_eq ▸ within, consumed, ?again, ?short⟩
    case again => exact fun leads => (carried placed' leads).unpack_eq
    case short =>
      intro cut less stands
      obtain ⟨values', moved', reads'⟩ | ⟨fault, stopped, fails⟩ := reads_or_fails other kinds
      · exact absurd reads' (reads.not_cut placed placed' noTail consumed less stands)
      · rw [unpack_fails_iff.mpr ⟨stopped, fails⟩]
        obtain ⟨cause, rfl⟩ | ⟨cause, rfl, spoiled⟩ := fails.grounds placed'
        · exact ⟨cause, rfl⟩
        · -- what is malformed here is malformed in the whole as well
          have leads : other.ahead <+: packet.ahead := stands ▸ List.take_prefix cut _
          have failed :=
            (unpack_malformed_iff placed).mpr (spoiled.carry placed' placed noTail leads)
          rw [read] at failed
          cases failed
  · intro cause failed leads
    have spoiled := (unpack_malformed_iff placed).mp failed
    exact (unpack_malformed_iff placed').mpr (spoiled.carry placed placed' noTail leads)

/-- Behind a size with a leading zero a text is read the same when other octets follow it, and not
at all when it is cut short. -/
theorem unpack_is_prefix_code_padded :
    let whole := pack 1 9 0 [.tail [7, 0x80, 2, 104, 105, 33]]
    let other := pack 2 5 0 [.tail [7, 0x80, 2, 104, 105, 1, 1]]
    let cut := pack 3 4 0 [.tail [7, 0x80, 2, 104]]
    let kinds := [Kind.u8, .sizedText]
    Arises whole ∧ Arises other ∧ Arises cut ∧ Kind.tail ∉ kinds ∧
      unpack whole kinds = (.ok [.u8 7, .sizedText "hi"], whole.past 5) ∧
      unpack other kinds = (.ok [.u8 7, .sizedText "hi"], other.past 5) ∧
      ∃ cause, (unpack cut kinds).1 = .error (.tupleMismatch cause) := by
  intro whole other cut kinds
  have arises : Arises whole := .packed _
  have arises' : Arises other := .packed _
  have arisesCut : Arises cut := .packed _
  have noTail : Kind.tail ∉ kinds := by decide
  have read : unpack whole kinds = (.ok [.u8 7, .sizedText "hi"], whole.past 5) := rfl
  obtain ⟨count, -, consumed, again, -⟩ :=
    (unpack_is_prefix_code arises arises' noTail).1 _ _ read
  obtain ⟨count', -, consumed', -, short⟩ :=
    (unpack_is_prefix_code arises arisesCut noTail).1 _ _ read
  obtain rfl : 5 = count := Nat.add_left_cancel (congrArg Packet.cursor consumed)
  obtain rfl : 5 = count' := Nat.add_left_cancel (congrArg Packet.cursor consumed')
  exact ⟨arises, arises', arisesCut, noTail, read, again ⟨[1, 1], rfl⟩, short 4 (by omega) rfl⟩

end RequestMux.Field
