import RequestMux.Proofs.Field.Grammar

/-!
# Fields in series

A list of fields is read one field after the other, up to the first that fails.  So reading two
lists in turn is reading both as one, and what is known of one field carries over to the fields in
front of it.
-/

namespace RequestMux.Field

open Wire (Packet)

/-- Fields are read in turn, and all of them succeed. -/
inductive Reads : Packet → List Kind → List Value → Packet → Prop where
  | nil {packet : Packet} : Reads packet [] [] packet
  | cons {packet middle moved : Packet} {kind : Kind} {kinds : List Kind} {value : Value}
      {values : List Value} (first : takeField packet kind = (.ok value, middle))
      (later : Reads middle kinds values moved) :
      Reads packet (kind :: kinds) (value :: values) moved

/-- The first field that fails, behind those that are read. -/
inductive Fails : Packet → List Kind → ClientError → Packet → Prop where
  | here {packet moved : Packet} {kind : Kind} {kinds : List Kind} {fault : ClientError}
      (first : takeField packet kind = (.error fault, moved)) :
      Fails packet (kind :: kinds) fault moved
  | later {packet middle moved : Packet} {kind : Kind} {kinds : List Kind} {value : Value}
      {fault : ClientError} (first : takeField packet kind = (.ok value, middle))
      (later : Fails middle kinds fault moved) : Fails packet (kind :: kinds) fault moved

/-- Octets that spell values one after the other. -/
inductive SpellsAll : List Value → Bytes → Prop where
  | nil : SpellsAll [] []
  | cons {value : Value} {values : List Value} {octets others : Bytes}
      (first : Spells value octets) (later : SpellsAll values others) :
      SpellsAll (value :: values) (octets ++ others)

variable {packet middle moved : Packet} {kind : Kind} {kinds more : List Kind} {value : Value}
  {values others : List Value} {octets : Bytes} {fault : ClientError} {cause : Malformed}

theorem Reads.takeFields_eq (reads : Reads packet kinds values moved) :
    takeFields packet kinds = (.ok values, moved) := by
  induction reads with
  | nil => rfl
  | cons first _ ih =>
      rw [takeFields, first]
      dsimp only
      rw [ih]
      rfl

theorem Fails.takeFields_eq (fails : Fails packet kinds fault moved) :
    takeFields packet kinds = (.error fault, moved) := by
  induction fails with
  | here first => rw [takeFields, first]
  | later first _ ih =>
      rw [takeFields, first]
      dsimp only
      rw [ih]
      rfl

/-- The fields are all read, or one of them is the first that fails. -/
theorem reads_or_fails (packet : Packet) (kinds : List Kind) :
    (∃ values moved, Reads packet kinds values moved) ∨
      ∃ fault moved, Fails packet kinds fault moved := by
  induction kinds generalizing packet with
  | nil => exact .inl ⟨[], packet, .nil⟩
  | cons kind kinds ih =>
      rcases first : takeField packet kind with ⟨fault | value, middle⟩
      · exact .inr ⟨fault, middle, .here first⟩
      · obtain ⟨values, moved, later⟩ | ⟨fault, moved, later⟩ := ih middle
        · exact .inl ⟨value :: values, moved, .cons first later⟩
        · exact .inr ⟨fault, moved, .later first later⟩

/-! ### Whole lists -/

theorem Reads.unpack_eq (reads : Reads packet kinds values moved) :
    unpack packet kinds = (.ok values, moved) := by
  rw [unpack, reads.takeFields_eq]

theorem Fails.unpack_eq (fails : Fails packet kinds fault moved) :
    unpack packet kinds = (.error fault, moved.seek packet.offset) := by
  rw [unpack, fails.takeFields_eq]

theorem unpack_eq_ok_iff :
    unpack packet kinds = (.ok values, moved) ↔ Reads packet kinds values moved := by
  constructor
  · intro read
    obtain ⟨found, final, reads⟩ | ⟨fault, final, fails⟩ := reads_or_fails packet kinds
    · rw [reads.unpack_eq] at read
      cases read
      exact reads
    · rw [fails.unpack_eq] at read
      cases read
  · exact Reads.unpack_eq

theorem unpack_eq_error_iff :
    unpack packet kinds = (.error fault, moved) ↔
      ∃ stopped, Fails packet kinds fault stopped ∧ moved = stopped.seek packet.offset := by
  constructor
  · intro read
    obtain ⟨found, final, reads⟩ | ⟨other, final, fails⟩ := reads_or_fails packet kinds
    · rw [reads.unpack_eq] at read
      cases read
    · rw [fails.unpack_eq] at read
      cases read
      exact ⟨final, fails, rfl⟩
  · rintro ⟨stopped, fails, rfl⟩
    exact fails.unpack_eq

theorem unpack_fails_iff :
    (unpack packet kinds).1 = .error fault ↔ ∃ stopped, Fails packet kinds fault stopped := by
  constructor
  · intro failed
    obtain ⟨stopped, fails, -⟩ := unpack_eq_error_iff.mp
      (Prod.ext failed rfl : unpack packet kinds = (.error fault, _))
    exact ⟨stopped, fails⟩
  · rintro ⟨stopped, fails⟩
    exact congrArg Prod.fst fails.unpack_eq

/-- Reading two lists as one is reading one after the other. -/
theorem reads_append_iff :
    Reads packet (kinds ++ more) values moved ↔
      ∃ front back middle, Reads packet kinds front middle ∧ Reads middle more back moved ∧
        values = front ++ back := by
  constructor
  · intro reads
    induction kinds generalizing packet values with
    | nil => exact ⟨[], values, packet, .nil, reads, rfl⟩
    | cons kind kinds ih =>
        cases reads with
        | cons first later =>
            obtain ⟨front, back, middle, reached, left, rfl⟩ := ih later
            exact ⟨_ :: front, back, middle, .cons first reached, left, rfl⟩
  · rintro ⟨front, back, middle, reached, left, rfl⟩
    induction reached with
    | nil => exact left
    | cons first _ ih => exact .cons first (ih left)

/-- Reading stops at a field that fails, behind the fields in front of it. -/
theorem fails_iff :
    Fails packet kinds fault moved ↔
      ∃ done kind later values middle, kinds = done ++ kind :: later ∧
        Reads packet done values middle ∧ takeField middle kind = (.error fault, moved) := by
  constructor
  · intro fails
    induction fails with
    | here first => exact ⟨[], _, _, [], _, rfl, .nil, first⟩
    | later first _ ih =>
        obtain ⟨done, kind, later, values, middle, rfl, reached, failing⟩ := ih
        exact ⟨_ :: done, kind, later, _ :: values, middle, rfl, .cons first reached, failing⟩
  · rintro ⟨done, kind, later, values, middle, rfl, reached, failing⟩
    induction reached with
    | nil => exact .here failing
    | cons first _ ih => exact .later first (ih failing)

/-! ### The octets of a series -/

/-- Values are read in turn where octets that spell them stand ahead. -/
theorem SpellsAll.reads (spelled : SpellsAll values octets) (placed : packet.IsPlaced)
    (leads : octets <+: packet.ahead) :
    Reads packet (values.map Value.kind) values (packet.past octets.length) := by
  induction spelled generalizing packet with
  | nil => exact .nil
  | @cons value values octets others first later ih =>
      obtain ⟨rest, stands⟩ := leads
      rw [List.append_assoc] at stands
      have front : octets <+: packet.ahead := ⟨others ++ rest, stands⟩
      have behind : others <+: (packet.past octets.length).ahead :=
        ⟨rest, (Packet.ahead_past stands.symm).symm⟩
      rw [List.length_append, ← Packet.past_past]
      exact .cons (takeField_of_spells placed first front)
        (ih (placed.past front.length_le) behind)

/-- The octets of fields that were read spell their values. -/
theorem Reads.spellsAll (reads : Reads packet kinds values moved) (placed : packet.IsPlaced)
    (noTail : Kind.tail ∉ kinds) :
    ∃ octets, SpellsAll values octets ∧ octets <+: packet.ahead ∧
      values.map Value.kind = kinds ∧ moved = packet.past octets.length := by
  induction reads with
  | nil => exact ⟨[], .nil, List.nil_prefix, rfl, rfl⟩
  | @cons packet middle moved kind kinds value values first _ ih =>
      have finds := takeField_finds placed kind
      rw [first] at finds
      cases finds with
      | rest tail => exact absurd (List.mem_cons_self (a := kind) (l := kinds)) (tail ▸ noTail)
      | @value value octets same spelled leads =>
          obtain ⟨behind, others, further, listed, rfl⟩ :=
            ih (placed.past leads.length_le) fun member => noTail (List.mem_cons_of_mem _ member)
          refine ⟨octets ++ behind, .cons spelled others, append_isPrefix leads further, ?_, ?_⟩
          · rw [List.map_cons, same, listed]
          · rw [Packet.past_past, List.length_append]

end RequestMux.Field
