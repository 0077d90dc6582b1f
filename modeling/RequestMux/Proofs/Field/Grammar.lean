import RequestMux.Proofs.Field.Placement
import RequestMux.Proofs.Text.Recovery

/-!
# The grammar of fields

Which octets spell a value, and which can spell none however they go on, is said here without the
reader.  The reader of a kind takes exactly the octets of a value, refuses octets that spell none,
and finds all else too short.  Both answers rest on octets that are there, so what follows them does
not matter.
-/

namespace RequestMux.Field

open Wire (Packet)

/-- Content behind its length in four octets. -/
inductive IsCounted (content : Bytes) : Bytes → Prop where
  | intro (short : content.length < UInt32.size) :
      IsCounted content (Bytes.ofWord 4 content.length ++ content)

/-- Content behind its length in digits. -/
inductive IsSized (content : Bytes) : Bytes → Prop where
  | intro {digits : Bytes} (size : BerSize.Spells digits content.length) :
      IsSized content (digits ++ content)

/-- Octets that spell a value and show where it ends. -/
inductive Spells : Value → Bytes → Prop where
  | u8 (word : UInt8) : Spells (.u8 word) (Bytes.ofWord 1 word.toNat)
  | u16 (word : UInt16) : Spells (.u16 word) (Bytes.ofWord 2 word.toNat)
  | u32 (word : UInt32) : Spells (.u32 word) (Bytes.ofWord 4 word.toNat)
  | u64 (word : UInt64) : Spells (.u64 word) (Bytes.ofWord 8 word.toNat)
  | text {text : String} {octets : Bytes} (counted : IsCounted (Utf8.encode text) octets) :
      Spells (.text text) octets
  | blob {content octets : Bytes} (counted : IsCounted content octets) :
      Spells (.blob content) octets
  | sizedText {text : String} {octets : Bytes} (sized : IsSized (Utf8.encode text) octets) :
      Spells (.sizedText text) octets
  | sizedBlob {content octets : Bytes} (sized : IsSized content octets) :
      Spells (.sizedBlob content) octets

/-- The kinds whose length is a variable-length size. -/
inductive Kind.IsSized : Kind → Prop where
  | text : Kind.IsSized .sizedText
  | blob : Kind.IsSized .sizedBlob

instance (kind : Kind) : Decidable kind.IsSized :=
  match kind with
  | .sizedText => isTrue .text
  | .sizedBlob => isTrue .blob
  | .u8 | .u16 | .u32 | .u64 | .text | .blob | .tail => isFalse (by rintro ⟨⟩)

/-- Octets that spell no value of a kind, however they go on: the content of a text is there and is
not UTF-8, or a size has too many digits or is too large. -/
inductive Spoils : Kind → Malformed → Bytes → Prop where
  | text {content octets : Bytes} {defect : Utf8.Defect} (counted : IsCounted content octets)
      (unspelled : ∀ text, Utf8.encode text ≠ content)
      (refused : Utf8.decode content = .error defect) : Spoils .text (.notUtf8 defect) octets
  | sizedText {content octets : Bytes} {defect : Utf8.Defect}
      (sized : Field.IsSized content octets) (unspelled : ∀ text, Utf8.encode text ≠ content)
      (refused : Utf8.decode content = .error defect) : Spoils .sizedText (.notUtf8 defect) octets
  | size {kind : Kind} {cause : Malformed} {digits : Bytes} (sized : kind.IsSized)
      (overrun : BerSize.Overruns digits cause) : Spoils kind cause digits

/-- What reading content between two marks of its length comes to. -/
inductive Takes (packet : Packet) (Marks : Bytes → Bytes → Prop)
    (Refuses : Malformed → Bytes → Prop) : Read Bytes → Prop where
  | content {content octets : Bytes} (marked : Marks content octets)
      (leads : octets <+: packet.ahead) :
      Takes packet Marks Refuses (.ok content, packet.past octets.length)
  | malformed {cause : Malformed} {octets : Bytes} (refused : Refuses cause octets)
      (leads : octets <+: packet.ahead) :
      Takes packet Marks Refuses (.error (.tupleInvalid cause), packet)
  | short {cause : Mismatch} {count : Nat} (within : count ≤ packet.ahead.length) :
      Takes packet Marks Refuses (.error (.tupleMismatch cause), packet.past count)

/-- What reading one field comes to: its octets stand ahead, octets that spoil it do, or there are
too few.  A failure leaves the cursor somewhere in what was ahead. -/
inductive Finds (packet : Packet) (kind : Kind) : Read Value → Prop where
  | value {value : Value} {octets : Bytes} (same : value.kind = kind)
      (spelled : Spells value octets) (leads : octets <+: packet.ahead) :
      Finds packet kind (.ok value, packet.past octets.length)
  | rest (tail : kind = .tail) : Finds packet kind (.ok (.tail packet.ahead), packet.takeRest.2)
  | malformed {cause : Malformed} {octets : Bytes} {count : Nat}
      (spoiled : Spoils kind cause octets) (leads : octets <+: packet.ahead)
      (within : count ≤ packet.ahead.length) :
      Finds packet kind (.error (.tupleInvalid cause), packet.past count)
  | short {cause : Mismatch} {count : Nat} (within : count ≤ packet.ahead.length) :
      Finds packet kind (.error (.tupleMismatch cause), packet.past count)

variable {packet moved : Packet} {value : Value} {kind : Kind} {content octets : Bytes}
  {count width length : Nat} {cause : Malformed}

/-! ### What is there is read -/

theorem takePrefixed_of_counted (counted : IsCounted content octets)
    (leads : octets <+: packet.ahead) :
    takePrefixed packet = (.ok content, packet.past octets.length) := by
  obtain ⟨rest, stands⟩ := leads
  obtain ⟨short⟩ := counted
  exact takePrefixed_eq short stands.symm

theorem takeSized_of_sized (placed : packet.IsPlaced) (sized : IsSized content octets)
    (leads : octets <+: packet.ahead) :
    takeSized packet = (.ok content, packet.past octets.length) := by
  obtain ⟨rest, stands⟩ := leads
  obtain ⟨size⟩ := sized
  exact takeSized_of_digits placed.payload_drop size stands.symm

theorem takeSized_of_overruns (placed : packet.IsPlaced)
    (overrun : BerSize.Overruns octets cause) (leads : octets <+: packet.ahead) :
    takeSized packet = (.error (.tupleInvalid cause), packet) := by
  simp only [takeSized, placed.payload_drop, Packet.bytesLeft_eq, BerSize.decode_take,
    BerSize.decode_overruns overrun leads]

/-- A value is read where octets that spell it stand ahead. -/
theorem takeField_of_spells (placed : packet.IsPlaced) (spelled : Spells value octets)
    (leads : octets <+: packet.ahead) :
    takeField packet value.kind = (.ok value, packet.past octets.length) := by
  cases spelled with
  | u8 word =>
      obtain ⟨rest, stands⟩ := leads
      have read := map_takeWord_eq word.toNat_lt stands.symm fun word => .u8 (UInt8.ofNat word)
      rwa [UInt8.ofNat_toNat] at read
  | u16 word =>
      obtain ⟨rest, stands⟩ := leads
      have read := map_takeWord_eq word.toNat_lt stands.symm fun word => .u16 (UInt16.ofNat word)
      rwa [UInt16.ofNat_toNat] at read
  | u32 word =>
      obtain ⟨rest, stands⟩ := leads
      have read := map_takeWord_eq word.toNat_lt stands.symm fun word => .u32 (UInt32.ofNat word)
      rwa [UInt32.ofNat_toNat] at read
  | u64 word =>
      obtain ⟨rest, stands⟩ := leads
      have read := map_takeWord_eq word.toNat_lt stands.symm fun word => .u64 (UInt64.ofNat word)
      rwa [UInt64.ofNat_toNat] at read
  | text counted => exact map_toText_eq (takePrefixed_of_counted counted leads) .text
  | blob counted => exact map_octets_eq (takePrefixed_of_counted counted leads) .blob
  | sizedText sized => exact map_toText_eq (takeSized_of_sized placed sized leads) .sizedText
  | sizedBlob sized => exact map_octets_eq (takeSized_of_sized placed sized leads) .sizedBlob

theorem map_toText_of_defect {read : Read Bytes} {defect : Utf8.Defect}
    (found : read = (.ok content, moved)) (refused : Utf8.decode content = .error defect)
    (make : String → Value) :
    Read.map (Read.refine read toText) make =
      (.error (.tupleInvalid (.notUtf8 defect)), moved) := by
  have unspelled : toText content = .error (.tupleInvalid (.notUtf8 defect)) := by
    rw [toText, refused]
  rw [found]
  exact congrArg (fun read => (Except.map make read, moved)) unspelled

/-- Octets that spoil a field make it malformed. -/
theorem takeField_of_spoils (placed : packet.IsPlaced) (spoiled : Spoils kind cause octets)
    (leads : octets <+: packet.ahead) :
    (takeField packet kind).1 = .error (.tupleInvalid cause) := by
  cases spoiled with
  | text counted unspelled refused =>
      have read := map_toText_of_defect (takePrefixed_of_counted counted leads) refused .text
      exact congrArg Prod.fst read
  | sizedText sized unspelled refused =>
      have read := map_toText_of_defect (takeSized_of_sized placed sized leads) refused .sizedText
      exact congrArg Prod.fst read
  | size sized overrun =>
      have read := takeSized_of_overruns placed overrun leads
      cases sized with
      | text => rw [takeField, read]; rfl
      | blob => rw [takeField, read]; rfl

/-! ### What is read is there -/

theorem takeWord_cases (packet : Packet) (width : Nat) :
    (∃ word, word < 256 ^ width ∧ Bytes.ofWord width word <+: packet.ahead ∧
      takeWord packet width = (.ok word, packet.past width)) ∨
    (∃ fault, takeWord packet width = (.error (.tupleMismatch fault), packet)) := by
  by_cases few : packet.bytesLeft < width
  · refine .inr ⟨.short packet.offset width packet.bytesLeft, ?_⟩
    simp only [takeWord, Packet.take, few, if_true]
  · have reach : width ≤ packet.ahead.length := by
      rw [← Packet.bytesLeft_eq]
      exact Nat.le_of_not_lt few
    have exact : (packet.ahead.take width).length = width := List.length_take_of_le reach
    have small := Bytes.toWord_lt (packet.ahead.take width)
    have spelled := Bytes.ofWord_toWord (packet.ahead.take width)
    rw [exact] at small spelled
    have leads : Bytes.ofWord width (Bytes.toWord (packet.ahead.take width)) <+: packet.ahead :=
      spelled.symm ▸ List.take_prefix width packet.ahead
    obtain ⟨rest, stands⟩ := id leads
    exact .inl ⟨_, small, leads, takeWord_eq small stands.symm⟩

theorem takeAnnounced_cases (packet : Packet) (length : Nat) (fault : Mismatch) :
    (∃ octets, octets <+: packet.ahead ∧ octets.length = length ∧
      takeAnnounced packet length fault = (.ok octets, packet.past length)) ∨
    takeAnnounced packet length fault = (.error (.tupleMismatch fault), packet) := by
  by_cases few : packet.bytesLeft < length
  · exact .inr (by simp only [takeAnnounced, few, if_true])
  · have reach : length ≤ packet.ahead.length := by
      rw [← Packet.bytesLeft_eq]
      exact Nat.le_of_not_lt few
    have exact : (packet.ahead.take length).length = length := List.length_take_of_le reach
    have found := takeAnnounced_eq (List.take_append_drop length packet.ahead).symm fault
    rw [exact] at found
    exact .inl ⟨_, List.take_prefix length packet.ahead, exact, found⟩

/-- What stands ahead of a packet, and then ahead of it further on, stands ahead together. -/
theorem append_isPrefix {front back : Bytes} (leads : front <+: packet.ahead)
    (behind : back <+: (packet.past front.length).ahead) : front ++ back <+: packet.ahead := by
  obtain ⟨rest, stands⟩ := leads
  rw [Packet.ahead_past stands.symm] at behind
  rw [← stands]
  exact (List.prefix_append_right_inj front).mpr behind

theorem takePrefixed_takes (packet : Packet) :
    Takes packet IsCounted (fun _ _ => False) (takePrefixed packet) := by
  obtain ⟨length, small, leads, word⟩ | ⟨fault, word⟩ := takeWord_cases packet 4
  · have four : (Bytes.ofWord 4 length).length = 4 := Bytes.length_ofWord 4 length
    rw [takePrefixed, word]
    dsimp only
    obtain ⟨content, behind, rfl, found⟩ | found :=
      takeAnnounced_cases (packet.past 4) length (.stringPastEnd (packet.past 4).offset length)
    · have whole := append_isPrefix leads (four.symm ▸ behind)
      have total : (Bytes.ofWord 4 content.length ++ content).length = 4 + content.length := by
        rw [List.length_append, four]
      rw [found, Packet.past_past, ← total]
      exact .content ⟨small⟩ whole
    · rw [found]
      exact .short (four ▸ leads.length_le)
  · rw [takePrefixed, word]
    exact .short (Nat.zero_le _)

theorem takeSized_takes (placed : packet.IsPlaced) :
    Takes packet IsSized (fun cause digits => BerSize.Overruns digits cause)
      (takeSized packet) := by
  obtain ⟨digits, size, leads, spelled, read⟩ | ⟨digits, cause, leads, overrun, -⟩ |
    ⟨-, -, read⟩ := BerSize.decode_cases packet.ahead
  · obtain ⟨rest, stands⟩ := id leads
    simp only [takeSized, placed.payload_drop, Packet.bytesLeft_eq, BerSize.decode_take, read,
      Packet.take_eq stands.symm]
    obtain ⟨content, behind, length, found⟩ | found :=
      takeAnnounced_cases (packet.past digits.length) size.toNat
        (.sizedStringPastEnd (packet.past digits.length).offset size.toNat)
    · have whole := append_isPrefix leads behind
      have total : (digits ++ content).length = digits.length + size.toNat := by
        rw [List.length_append, length]
      rw [found, Packet.past_past, ← total]
      exact .content ⟨length.symm ▸ spelled⟩ whole
    · rw [found]
      exact .short leads.length_le
  · rw [takeSized_of_overruns placed overrun leads]
    exact .malformed overrun leads
  · simp only [takeSized, placed.payload_drop, Packet.bytesLeft_eq, BerSize.decode_take, read]
    exact .short (Nat.zero_le _)

theorem finds_word {make : Nat → Value}
    (spells : ∀ word, word < 256 ^ width → Spells (make word) (Bytes.ofWord width word))
    (same : ∀ word, (make word).kind = kind) :
    Finds packet kind (Read.map (takeWord packet width) make) := by
  obtain ⟨word, small, leads, found⟩ | ⟨fault, found⟩ := takeWord_cases packet width
  · have read := Finds.value (same word) (spells word small) leads
    rw [Bytes.length_ofWord] at read
    rw [found]
    exact read
  · rw [found]
    exact .short (Nat.zero_le _)

theorem finds_blob {read : Read Bytes} {Marks : Bytes → Bytes → Prop}
    {Refuses : Malformed → Bytes → Prop} {make : Bytes → Value}
    (takes : Takes packet Marks Refuses read)
    (spells : ∀ content octets, Marks content octets → Spells (make content) octets)
    (spoils : ∀ cause octets, Refuses cause octets → Spoils kind cause octets)
    (same : ∀ content, (make content).kind = kind) :
    Finds packet kind (Read.map read make) := by
  cases takes with
  | content marked leads => exact .value (same _) (spells _ _ marked) leads
  | malformed refused leads => exact .malformed (spoils _ _ refused) leads (Nat.zero_le _)
  | short within => exact .short within

theorem finds_text {read : Read Bytes} {Marks : Bytes → Bytes → Prop}
    {Refuses : Malformed → Bytes → Prop} {make : String → Value}
    (takes : Takes packet Marks Refuses read)
    (spells : ∀ text octets, Marks (Utf8.encode text) octets → Spells (make text) octets)
    (spoils : ∀ cause octets, Refuses cause octets → Spoils kind cause octets)
    (garbles : ∀ content octets defect, Marks content octets →
      (∀ text, Utf8.encode text ≠ content) → Utf8.decode content = .error defect →
      Spoils kind (.notUtf8 defect) octets)
    (same : ∀ text, (make text).kind = kind) :
    Finds packet kind (Read.map (Read.refine read toText) make) := by
  cases takes with
  | @content content octets marked leads =>
      cases spelled : Utf8.decode content with
      | ok text =>
          obtain rfl := Utf8.decode_eq_ok_iff.mp spelled
          rw [map_toText_eq rfl]
          exact .value (same text) (spells _ _ marked) leads
      | error defect =>
          rw [map_toText_of_defect rfl spelled]
          exact .malformed
            (garbles _ _ _ marked (Utf8.encode_ne_of_defect spelled) spelled) leads
            leads.length_le
  | malformed refused leads => exact .malformed (spoils _ _ refused) leads (Nat.zero_le _)
  | short within => exact .short within

/-- Reading a field comes to nothing else. -/
theorem takeField_finds (placed : packet.IsPlaced) (kind : Kind) :
    Finds packet kind (takeField packet kind) := by
  cases kind with
  | u8 =>
      refine finds_word (fun word small => ?_) fun _ => rfl
      have spelled := Spells.u8 (UInt8.ofNat word)
      rwa [UInt8.toNat_ofNat_of_lt' small] at spelled
  | u16 =>
      refine finds_word (fun word small => ?_) fun _ => rfl
      have spelled := Spells.u16 (UInt16.ofNat word)
      rwa [UInt16.toNat_ofNat_of_lt' small] at spelled
  | u32 =>
      refine finds_word (fun word small => ?_) fun _ => rfl
      have spelled := Spells.u32 (UInt32.ofNat word)
      rwa [UInt32.toNat_ofNat_of_lt' small] at spelled
  | u64 =>
      refine finds_word (fun word small => ?_) fun _ => rfl
      have spelled := Spells.u64 (UInt64.ofNat word)
      rwa [UInt64.toNat_ofNat_of_lt' small] at spelled
  | text =>
      exact finds_text (takePrefixed_takes packet) (fun _ _ => .text) (fun _ _ => False.elim)
        (fun _ _ _ => .text) fun _ => rfl
  | blob =>
      exact finds_blob (takePrefixed_takes packet) (fun _ _ => .blob) (fun _ _ => False.elim)
        fun _ => rfl
  | tail => exact .rest rfl
  | sizedText =>
      exact finds_text (takeSized_takes placed) (fun _ _ => .sizedText)
        (fun _ _ => .size .text) (fun _ _ _ => .sizedText) fun _ => rfl
  | sizedBlob =>
      exact finds_blob (takeSized_takes placed) (fun _ _ => .sizedBlob)
        (fun _ _ => .size .blob) fun _ => rfl

/-- A field is malformed exactly where octets stand ahead that spell no value of its kind. -/
theorem takeField_malformed_iff (placed : packet.IsPlaced) :
    (takeField packet kind).1 = .error (.tupleInvalid cause) ↔
      ∃ octets, octets <+: packet.ahead ∧ Spoils kind cause octets := by
  constructor
  · intro failed
    have finds := takeField_finds placed kind
    generalize takeField packet kind = read at finds failed
    cases finds with
    | value => cases failed
    | rest => cases failed
    | malformed spoiled leads within =>
        cases failed
        exact ⟨_, leads, spoiled⟩
    | short => cases failed
  · rintro ⟨octets, leads, spoiled⟩
    exact takeField_of_spoils placed spoiled leads

end RequestMux.Field
