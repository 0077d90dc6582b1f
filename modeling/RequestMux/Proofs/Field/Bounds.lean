import RequestMux.Proofs.Field.Usage

/-!
# Reading stays within the buffer

Reading again, this time with every slice checked: a range that does not lie in its byte string ends
the reading.  On packets in use this never happens, so the readers find the same with the check as
without it, call after call.
-/

namespace RequestMux

/-- The octets from `start` up to `stop`, if the range lies in the byte string. -/
def Bytes.slice? (octets : Bytes) (start stop : Nat) : Option Bytes :=
  if start ≤ stop ∧ stop ≤ octets.length then some ((octets.drop start).take (stop - start))
  else none

namespace Wire.Packet

/-- `take` with its slice checked. -/
def take? (packet : Packet) (count : Nat) : Option (Except ClientError (Bytes × Packet)) :=
  if packet.bytesLeft < count then
    some (.error (.tupleMismatch (.short packet.offset count packet.bytesLeft)))
  else
    (Bytes.slice? packet.data packet.cursor (packet.cursor + count)).map fun octets =>
      .ok (octets, packet.past count)

/-- `takeRest` with its slice checked; a cursor past the end counts as the end. -/
def takeRest? (packet : Packet) : Option (Bytes × Packet) :=
  (Bytes.slice? packet.data (min packet.cursor packet.data.length) packet.data.length).map
    fun octets => (octets, { packet with cursor := packet.data.length })

end Wire.Packet

namespace Field

open Wire (Packet)

/-- A word, copied from as many octets as it is wide. -/
def takeWord? (packet : Packet) (width : Nat) : Option (Read Nat) :=
  match packet.take? width with
  | none => none
  | some (.error fault) => some (.error fault, packet)
  | some (.ok (octets, packet)) =>
    if octets.length = width then some (.ok (Bytes.toWord octets), packet) else none

def takeAnnounced? (packet : Packet) (length : Nat) (fault : Mismatch) : Option (Read Bytes) :=
  if packet.bytesLeft < length then some (.error (.tupleMismatch fault), packet)
  else
    match packet.take? length with
    | none => none
    | some (.error fault) => some (.error fault, packet)
    | some (.ok (octets, packet)) => some (.ok octets, packet)

def takePrefixed? (packet : Packet) : Option (Read Bytes) :=
  match takeWord? packet 4 with
  | none => none
  | some (.error fault, packet) => some (.error fault, packet)
  | some (.ok length, packet) =>
    takeAnnounced? packet length (.stringPastEnd packet.offset length)

/-- The size is read in a window of the payload, which is a slice too. -/
def takeSized? (packet : Packet) : Option (Read Bytes) :=
  (Bytes.slice? packet.payload packet.offset
      (packet.offset + min packet.bytesLeft BerSize.maxLength)).bind fun window =>
    match BerSize.decode window with
    | .error fault => some (.error fault, packet)
    | .ok (size, used) =>
      match packet.take? used with
      | none => none
      | some (.error fault) => some (.error fault, packet)
      | some (.ok (_, packet)) =>
        takeAnnounced? packet size.toNat (.sizedStringPastEnd packet.offset size.toNat)

def takeField? (packet : Packet) : Kind → Option (Read Value)
  | .u8 => (takeWord? packet 1).map (Read.map · fun word => .u8 (UInt8.ofNat word))
  | .u16 => (takeWord? packet 2).map (Read.map · fun word => .u16 (UInt16.ofNat word))
  | .u32 => (takeWord? packet 4).map (Read.map · fun word => .u32 (UInt32.ofNat word))
  | .u64 => (takeWord? packet 8).map (Read.map · fun word => .u64 (UInt64.ofNat word))
  | .text => (takePrefixed? packet).map fun read => (read.refine toText).map .text
  | .blob => (takePrefixed? packet).map (Read.map · .blob)
  | .tail => packet.takeRest?.map fun rest => (.ok (.tail rest.1), rest.2)
  | .sizedText => (takeSized? packet).map fun read => (read.refine toText).map .sizedText
  | .sizedBlob => (takeSized? packet).map (Read.map · .sizedBlob)

def takeFields? (packet : Packet) : List Kind → Option (Read (List Value))
  | [] => some (.ok [], packet)
  | kind :: kinds =>
    match takeField? packet kind with
    | none => none
    | some (.error fault, packet) => some (.error fault, packet)
    | some (.ok value, packet) => (takeFields? packet kinds).map (Read.map · (value :: ·))

def unpack? (packet : Packet) (kinds : List Kind) : Option (Read (List Value)) :=
  match takeFields? packet kinds with
  | none => none
  | some (.error fault, moved) => some (.error fault, moved.seek packet.offset)
  | some (.ok values, moved) => some (.ok values, moved)

/-- A call with every slice checked. -/
def Call.checked? (packet : Packet) : Call → Option (Answer × Packet)
  | .unpack kinds => (unpack? packet kinds).map fun read => (.values read.1, read.2)
  | .field kind => (takeField? packet kind).map fun read => (.value read.1, read.2)
  | .reset => some (.done, packet.reset)

/-- Calls in order with every slice checked. -/
def answers? (packet : Packet) : List Call → Option (List (Answer × Packet.View))
  | [] => some []
  | call :: calls =>
    match call.checked? packet with
    | none => none
    | some (answer, packet) => (answers? packet calls).map ((answer, packet.view) :: ·)

/-- The error in an answer. -/
def Answer.fault? : Answer → Option ClientError
  | .values (.error fault) => some fault
  | .value (.error fault) => some fault
  | _ => none

/-- The kinds that a call reads. -/
def Call.kinds : Call → List Kind
  | .unpack kinds => kinds
  | .field kind => [kind]
  | .reset => []

/-- What every packet in use can be relied on for. -/
structure ReadsSafely (packet : Packet) : Prop where
  /-- Whatever is called in turn, no slice leaves its range. -/
  bounded : ∀ calls, answers? packet calls = some (answers packet calls)
  /-- A call that fails found its fields cut short or malformed. -/
  faults : ∀ (call : Call) (fault : ClientError), (call.apply packet).1.fault? = some fault →
    (∃ cause, fault = .tupleMismatch cause) ∨ ∃ cause, fault = .tupleInvalid cause
  /-- It finds them malformed exactly where octets are there that spoil one of them. -/
  malformed : ∀ (call : Call) (cause : Malformed),
    (call.apply packet).1.fault? = some (.tupleInvalid cause) ↔ IsSpoiled packet cause call.kinds
  /-- What was read and what is left make up the payload. -/
  whole : packet.data ≠ [] → packet.offset + packet.bytesLeft = packet.payload.length
  /-- The header counts the payload, as far as 32 bits go. -/
  counted : packet.data ≠ [] → packet.header.len = UInt32.ofNat packet.payload.length

variable {packet moved : Packet} {kind : Kind} {octets : Bytes} {fault : ClientError}
  {count width : Nat}

/-! ### No slice leaves its range -/

theorem slice?_eq {start : Nat} (within : start + count ≤ octets.length) :
    Bytes.slice? octets start (start + count) = some ((octets.drop start).take count) := by
  rw [Bytes.slice?, if_pos ⟨Nat.le_add_right _ _, within⟩, Nat.add_sub_cancel_left]

/-- Nothing at all is a slice too, so the cursor must not be past the end then. -/
theorem take?_eq (reached : 0 < count ∨ packet.cursor ≤ packet.data.length) :
    packet.take? count = some (packet.take count) := by
  unfold Packet.take? Packet.take
  by_cases few : packet.bytesLeft < count
  · rw [if_pos few, if_pos few]
  · have within : packet.cursor + count ≤ packet.data.length := by
      unfold Packet.bytesLeft at few
      omega
    rw [if_neg few, if_neg few, slice?_eq within]
    rfl

theorem takeRest?_eq (packet : Packet) : packet.takeRest? = some packet.takeRest := by
  have whole : min packet.cursor packet.data.length +
      (packet.data.length - min packet.cursor packet.data.length) = packet.data.length :=
    Nat.add_sub_cancel' (Nat.min_le_right _ _)
  have slice := slice?_eq (Nat.le_of_eq whole)
  have rest : (packet.data.drop (min packet.cursor packet.data.length)).take
      (packet.data.length - min packet.cursor packet.data.length) =
        packet.data.drop packet.cursor := by
    obtain reached | beyond := Nat.le_total packet.cursor packet.data.length
    · rw [Nat.min_eq_left reached]
      exact List.take_of_length_le (Nat.le_of_eq List.length_drop)
    · rw [Nat.min_eq_right beyond, Nat.sub_self, List.take_zero, List.drop_eq_nil_of_le beyond]
  rw [whole, rest] at slice
  rw [Packet.takeRest?, slice]
  rfl

theorem take_sound (taken : packet.take count = .ok (octets, moved)) :
    octets.length = count ∧ count ≤ packet.ahead.length ∧ moved = packet.past count := by
  unfold Packet.take at taken
  split at taken
  · cases taken
  · next enough =>
      have reach : count ≤ packet.ahead.length := by
        rw [← Packet.bytesLeft_eq]
        exact Nat.le_of_not_lt enough
      cases taken
      exact ⟨List.length_take_of_le reach, reach, rfl⟩

/-- Behind something that was there, the cursor is not past the end. -/
theorem cursor_past_le (positive : 0 < count) (reach : count ≤ packet.ahead.length) :
    (packet.past count).cursor ≤ (packet.past count).data.length := by
  rw [Packet.ahead, List.length_drop] at reach
  change packet.cursor + count ≤ packet.data.length
  omega

theorem takeWord?_eq (packet : Packet) (positive : 0 < width) :
    takeWord? packet width = some (takeWord packet width) := by
  rw [takeWord?, take?_eq (.inl positive), takeWord]
  cases taken : packet.take width with
  | error fault => rfl
  | ok result =>
      obtain ⟨octets, moved⟩ := result
      obtain ⟨exact, -, -⟩ := take_sound taken
      simp only [exact, if_true]

theorem takeAnnounced?_eq (reached : packet.cursor ≤ packet.data.length) (length : Nat)
    (fault : Mismatch) :
    takeAnnounced? packet length fault = some (takeAnnounced packet length fault) := by
  unfold takeAnnounced? takeAnnounced
  split
  · rfl
  · rw [take?_eq (.inr reached)]
    cases packet.take length <;> rfl

theorem takePrefixed?_eq (packet : Packet) :
    takePrefixed? packet = some (takePrefixed packet) := by
  rw [takePrefixed?, takeWord?_eq packet (Nat.succ_pos 3), takePrefixed]
  obtain ⟨length, -, leads, word⟩ | ⟨fault, word⟩ := takeWord_cases packet 4
  · have reach : 4 ≤ packet.ahead.length := by
      have := leads.length_le
      rwa [Bytes.length_ofWord] at this
    rw [word]
    exact takeAnnounced?_eq (cursor_past_le (Nat.succ_pos 3) reach) _ _
  · rw [word]

/-- The window lies in the payload, and every size in it takes an octet at least. -/
theorem takeSized?_eq (placed : packet.IsPlaced) :
    takeSized? packet = some (takeSized packet) := by
  have within : packet.offset + min packet.bytesLeft BerSize.maxLength ≤ packet.payload.length := by
    rw [← placed.offset_add_bytesLeft]
    exact Nat.add_le_add_left (Nat.min_le_left _ _) _
  rw [takeSized?, slice?_eq within, Option.bind_some, takeSized]
  cases read : BerSize.decode _ with
  | error fault => rfl
  | ok result =>
      obtain ⟨size, used⟩ := result
      obtain ⟨digits, -, spelled, rfl⟩ := BerSize.decode_eq_ok_iff.mp read
      have positive := spelled.ends.length_pos
      dsimp only
      rw [take?_eq (.inl positive)]
      cases taken : packet.take digits.length with
      | error fault => rfl
      | ok result =>
          obtain ⟨octets, moved⟩ := result
          obtain ⟨-, reach, rfl⟩ := take_sound taken
          exact takeAnnounced?_eq (cursor_past_le positive reach) _ _

theorem takeField?_eq (placed : packet.IsPlaced) (kind : Kind) :
    takeField? packet kind = some (takeField packet kind) := by
  cases kind with
  | u8 | u16 | u32 | u64 => rw [takeField?, takeWord?_eq packet (Nat.succ_pos _)]; rfl
  | text | blob => rw [takeField?, takePrefixed?_eq]; rfl
  | tail => rw [takeField?, takeRest?_eq]; rfl
  | sizedText | sizedBlob => rw [takeField?, takeSized?_eq placed]; rfl

theorem takeFields?_eq (placed : packet.IsPlaced) (kinds : List Kind) :
    takeFields? packet kinds = some (takeFields packet kinds) := by
  induction kinds generalizing packet with
  | nil => rfl
  | cons kind kinds ih =>
      rw [takeFields?, takeField?_eq placed, takeFields]
      cases found : takeField packet kind with
      | mk result middle =>
          have next := (moves_of_takeField placed found).placed
          cases result with
          | error fault => rfl
          | ok value => simp only [ih next, Option.map_some]

theorem unpack?_eq (placed : packet.IsPlaced) (kinds : List Kind) :
    unpack? packet kinds = some (unpack packet kinds) := by
  rw [unpack?, takeFields?_eq placed, unpack]
  cases takeFields packet kinds with
  | mk result moved => cases result <;> rfl

theorem Call.checked?_eq (placed : packet.IsPlaced) (call : Call) :
    call.checked? packet = some (call.apply packet) := by
  cases call with
  | unpack kinds => rw [Call.checked?, unpack?_eq placed]; rfl
  | field kind => rw [Call.checked?, takeField?_eq placed]; rfl
  | reset => rfl

/-- Whatever is called in turn, every packet on the way is one in use. -/
theorem answers?_eq (arises : Arises packet) (calls : List Call) :
    answers? packet calls = some (answers packet calls) := by
  induction calls generalizing packet with
  | nil => rfl
  | cons call calls ih =>
      simp only [answers?, call.checked?_eq arises.isPlaced, ih (arises.call call), Option.map_some,
        answers]

/-! ### Why a call fails -/

theorem Answer.fault?_values {outcome : Except ClientError (List Value)} :
    (Answer.values outcome).fault? = some fault ↔ outcome = .error fault := by
  cases outcome <;> simp [Answer.fault?]

theorem Answer.fault?_value {outcome : Except ClientError Value} :
    (Answer.value outcome).fault? = some fault ↔ outcome = .error fault := by
  cases outcome <;> simp [Answer.fault?]

theorem fails_singleton_iff :
    (∃ stopped, Fails packet [kind] fault stopped) ↔
      (takeField packet kind).1 = .error fault := by
  constructor
  · rintro ⟨stopped, fails⟩
    cases fails with
    | here first => exact congrArg Prod.fst first
    | later first later => cases later
  · exact fun failed => ⟨_, .here (Prod.ext failed rfl)⟩

/-- A call fails where one of its fields does, and with the error of this field. -/
theorem Call.fault?_iff (call : Call) :
    (call.apply packet).1.fault? = some fault ↔
      ∃ stopped, Fails packet call.kinds fault stopped := by
  cases call with
  | unpack kinds => exact Answer.fault?_values.trans unpack_fails_iff
  | field kind => exact Answer.fault?_value.trans fails_singleton_iff.symm
  | reset =>
      constructor
      · rintro ⟨⟩
      · rintro ⟨stopped, ⟨⟩⟩

theorem Call.faults (placed : packet.IsPlaced) (call : Call)
    (failed : (call.apply packet).1.fault? = some fault) :
    (∃ cause, fault = .tupleMismatch cause) ∨ ∃ cause, fault = .tupleInvalid cause := by
  obtain ⟨stopped, fails⟩ := call.fault?_iff.mp failed
  obtain short | ⟨cause, same, -⟩ := fails.grounds placed
  · exact .inl short
  · exact .inr ⟨cause, same⟩

/-- **Reading stays within the buffer.**  Take any packet: one built of a frame or packed, the
default one, or what calls have left of these.  Whatever is called on it in turn, no slice leaves its
range.  A call that fails found its fields cut short or malformed, and malformed exactly where a size
has too many digits or is too large, or the content of a text is all there and is not UTF-8.  If the
packet has a buffer, its offset and the number of bytes left add up to the payload. -/
theorem reads_stay_within_buffer (arises : Arises packet) : ReadsSafely packet where
  bounded := answers?_eq arises
  faults call _ := call.faults arises.isPlaced
  malformed call _ :=
    call.fault?_iff.trans (unpack_fails_iff.symm.trans (unpack_malformed_iff arises.isPlaced))
  whole _ := arises.isPlaced.offset_add_bytesLeft
  counted owned := arises.isIntact.counts owned

/-- A text that is not UTF-8 leaves the cursor behind it, and resetting the default packet puts the
cursor behind its end; reading on is safe all the same. -/
theorem reads_stay_within_buffer_after_failure :
    let garbled := pack 1 9 0 [.tail [2, 0, 0, 0, 0xFF, 0xFE, 5]]
    let left := ((Call.field .text).apply garbled).2
    (∃ defect, ((Call.field .text).apply garbled).1.fault? =
        some (.tupleInvalid (.notUtf8 defect))) ∧
      left.offset = 6 ∧ Arises left ∧ ReadsSafely left ∧
      Arises Packet.empty.reset ∧ ReadsSafely Packet.empty.reset := by
  intro garbled left
  have arises : Arises left := .call (.packed _) (.field .text)
  have arises' : Arises Packet.empty.reset := .call .empty .reset
  exact ⟨⟨_, rfl⟩, rfl, arises, reads_stay_within_buffer arises, arises',
    reads_stay_within_buffer arises'⟩

end Field

end RequestMux
