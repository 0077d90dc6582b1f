import RequestMux.Proofs.Field.Usage

/-!
# Lists of fields are read as a whole

A list of fields is read whole or not at all: after a failure the packet shows what it showed
before, and answers every later call as if the failed one had not been made.  Two lists are read in
turn exactly when they are read as one.
-/

namespace RequestMux.Field

open Wire (Packet)

/-- Packets that show the same and can both be read on. -/
structure AreAlike (packet other : Packet) : Prop where
  shown : packet.view = other.view
  placed : packet.IsPlaced
  placed' : other.IsPlaced

variable {packet other moved stopped : Packet} {kind : Kind} {kinds : List Kind}
  {values : List Value} {fault : ClientError}

/-! ### Packets without a buffer -/

theorem view_of_bare (placed : packet.IsPlaced) (unowned : packet.data = []) :
    packet.view = ⟨packet.header, [], 0, 0⟩ := by
  have whole := placed.offset_add_bytesLeft
  rw [Packet.payload, unowned, List.drop_nil, List.length_nil] at whole
  obtain ⟨offset, left⟩ := Nat.add_eq_zero_iff.mp whole
  rw [Packet.view, unowned, offset, left]

theorem takeWord_bare (placed : packet.IsPlaced) (unowned : packet.data = []) {width : Nat}
    (positive : 0 < width) :
    takeWord packet width = (.error (.tupleMismatch (.short 0 width 0)), packet) := by
  have shown := view_of_bare placed unowned
  have offset : packet.offset = 0 := congrArg Packet.View.offset shown
  have left : packet.bytesLeft = 0 := congrArg Packet.View.left shown
  simp only [takeWord, Packet.take, offset, left, positive, if_true]

theorem takePrefixed_bare (placed : packet.IsPlaced) (unowned : packet.data = []) :
    takePrefixed packet = (.error (.tupleMismatch (.short 0 4 0)), packet) := by
  rw [takePrefixed, takeWord_bare placed unowned (Nat.succ_pos 3)]

theorem takeSized_bare (placed : packet.IsPlaced) (unowned : packet.data = []) :
    takeSized packet = (.error (.tupleMismatch (.sizeCutOff 0)), packet) := by
  have nothing : BerSize.decode [] = .error (.tupleMismatch (.sizeCutOff 0)) := rfl
  simp only [takeSized, placed.payload_drop, Packet.ahead_of_bare unowned, List.take_nil, nothing]

/-- Without a buffer every field is read as off the default packet. -/
theorem takeField_bare (placed : packet.IsPlaced) (unowned : packet.data = [])
    (placed' : other.IsPlaced) (unowned' : other.data = []) (kind : Kind) :
    (takeField packet kind).1 = (takeField other kind).1 := by
  cases kind with
  | u8 | u16 | u32 | u64 =>
      rw [takeField, takeField, takeWord_bare placed unowned (Nat.succ_pos _),
        takeWord_bare placed' unowned' (Nat.succ_pos _)]
      rfl
  | text | blob =>
      rw [takeField, takeField, takePrefixed_bare placed unowned,
        takePrefixed_bare placed' unowned']
      rfl
  | tail =>
      rw [takeField, takeField, Packet.takeRest, Packet.takeRest, unowned, unowned', List.drop_nil,
        List.drop_nil]
  | sizedText | sizedBlob =>
      rw [takeField, takeField, takeSized_bare placed unowned, takeSized_bare placed' unowned']
      rfl

/-! ### Packets that are alike -/

namespace AreAlike

/-- Packets that are alike are the same, or have no buffer. -/
theorem eq_or_bare (alike : AreAlike packet other) :
    packet = other ∨ packet.data = [] ∧ other.data = [] ∧ packet.header = other.header :=
  Packet.eq_of_view alike.placed alike.placed' alike.shown

theorem of_bare {moved' : Packet} (moves : Moves packet moved) (moves' : Moves other moved')
    (unowned : packet.data = []) (unowned' : other.data = [])
    (header : packet.header = other.header) : AreAlike moved moved' := by
  refine ⟨?_, moves.placed, moves'.placed⟩
  rw [view_of_bare moves.placed (moves.data.trans unowned),
    view_of_bare moves'.placed (moves'.data.trans unowned'), moves.header, moves'.header, header]

theorem takeField {result : Except ClientError Value} (alike : AreAlike packet other)
    (found : Field.takeField packet kind = (result, moved)) :
    ∃ moved', Field.takeField other kind = (result, moved') ∧ AreAlike moved moved' := by
  have moves := moves_of_takeField alike.placed found
  have moves' := takeField_moves alike.placed' kind
  obtain rfl | ⟨unowned, unowned', header⟩ := alike.eq_or_bare
  · exact ⟨moved, found, rfl, moves.placed, moves.placed⟩
  · have same := takeField_bare alike.placed unowned alike.placed' unowned' kind
    rw [found] at same
    exact ⟨(Field.takeField other kind).2, Prod.ext same.symm rfl,
      of_bare moves moves' unowned unowned' header⟩

theorem reads (alike : AreAlike packet other) (reads : Reads packet kinds values moved) :
    ∃ moved', Reads other kinds values moved' ∧ AreAlike moved moved' := by
  induction reads generalizing other with
  | nil => exact ⟨other, .nil, alike⟩
  | cons first _ ih =>
      obtain ⟨middle', first', next⟩ := alike.takeField first
      obtain ⟨moved', reads', alike'⟩ := ih next
      exact ⟨moved', .cons first' reads', alike'⟩

theorem fails (alike : AreAlike packet other) (fails : Fails packet kinds fault stopped) :
    ∃ stopped', Fails other kinds fault stopped' ∧ AreAlike stopped stopped' := by
  induction fails generalizing other with
  | here first =>
      obtain ⟨stopped', first', next⟩ := alike.takeField first
      exact ⟨stopped', .here first', next⟩
  | later first _ ih =>
      obtain ⟨middle', first', next⟩ := alike.takeField first
      obtain ⟨stopped', fails', alike'⟩ := ih next
      exact ⟨stopped', .later first' fails', alike'⟩

end AreAlike

/-- A list that fails leaves to be seen what was there before. -/
theorem Fails.view_seek (fails : Fails packet kinds fault stopped) (placed : packet.IsPlaced) :
    (stopped.seek packet.offset).view = packet.view := by
  have moves := fails.moves placed
  have same : stopped.seek packet.offset = packet.seek packet.offset := by
    rw [Packet.seek, Packet.seek, moves.header, moves.data]
  rw [same, placed.view_seek]

namespace AreAlike

theorem unpack (alike : AreAlike packet other) (kinds : List Kind) :
    (Field.unpack packet kinds).1 = (Field.unpack other kinds).1 ∧
      AreAlike (Field.unpack packet kinds).2 (Field.unpack other kinds).2 := by
  obtain ⟨values, moved, reads⟩ | ⟨fault, stopped, fails⟩ := reads_or_fails packet kinds
  · obtain ⟨moved', reads', alike'⟩ := alike.reads reads
    rw [reads.unpack_eq, reads'.unpack_eq]
    exact ⟨rfl, alike'⟩
  · obtain ⟨stopped', fails', alike'⟩ := alike.fails fails
    have shown := (fails.view_seek alike.placed).trans
      (alike.shown.trans (fails'.view_seek alike.placed').symm)
    rw [fails.unpack_eq, fails'.unpack_eq]
    exact ⟨rfl, shown, seek_isPlaced alike'.placed _, seek_isPlaced alike'.placed' _⟩

theorem reset (alike : AreAlike packet other) (intact : IsIntact packet)
    (intact' : IsIntact other) : AreAlike packet.reset other.reset := by
  obtain rfl | ⟨unowned, unowned', header⟩ := alike.eq_or_bare
  · exact ⟨rfl, intact.reset_moves.placed, intact.reset_moves.placed⟩
  · exact of_bare intact.reset_moves intact'.reset_moves unowned unowned' header

theorem apply (alike : AreAlike packet other) (intact : IsIntact packet)
    (intact' : IsIntact other) (call : Call) :
    (call.apply packet).1 = (call.apply other).1 ∧
      AreAlike (call.apply packet).2 (call.apply other).2 := by
  cases call with
  | unpack kinds =>
      obtain ⟨same, next⟩ := alike.unpack kinds
      exact ⟨congrArg Answer.values same, next⟩
  | field kind =>
      obtain ⟨moved', found, next⟩ := alike.takeField (Eq.refl (Field.takeField packet kind))
      rw [Call.apply, Call.apply, found]
      exact ⟨rfl, next⟩
  | reset => exact ⟨rfl, alike.reset intact intact'⟩

/-- Packets that are alike answer alike, whatever is asked of them. -/
theorem answers_eq (alike : AreAlike packet other) (intact : IsIntact packet)
    (intact' : IsIntact other) (calls : List Call) :
    answers packet calls = answers other calls := by
  induction calls generalizing packet other with
  | nil => rfl
  | cons call calls ih =>
      obtain ⟨same, next⟩ := alike.apply intact intact' call
      have moves := call.apply_moves intact alike.placed
      have moves' := call.apply_moves intact' alike.placed'
      rw [answers, answers, same, next.shown, ih next (intact.moves moves) (intact'.moves moves')]

end AreAlike

/-- **Reading a list of fields is atomic and compositional.**  A list that fails leaves the header,
the buffer, the offset and the number of bytes left as they were, and every later call is answered
as if the failed one had not been made.  Two lists are read as one exactly when the second is read
where the first has ended, with the values of both and the packet that the second leaves.  A list
fails exactly when, behind fields that are read, there is one that fails by itself, and with its
error. -/
theorem unpack_is_atomic (arises : Arises packet) :
    (∀ kinds fault moved, unpack packet kinds = (.error fault, moved) →
      moved.view = packet.view ∧ ∀ calls, answers moved calls = answers packet calls) ∧
    (∀ first second values moved,
      unpack packet (first ++ second) = (.ok values, moved) ↔
        ∃ front back middle, unpack packet first = (.ok front, middle) ∧
          unpack middle second = (.ok back, moved) ∧ values = front ++ back) ∧
    ∀ kinds fault, (unpack packet kinds).1 = .error fault ↔
      ∃ done kind later values middle, kinds = done ++ kind :: later ∧
        unpack packet done = (.ok values, middle) ∧ (takeField middle kind).1 = .error fault := by
  have placed := arises.isPlaced
  have intact := arises.isIntact
  refine ⟨?atomic, ?compositional, ?first⟩
  case atomic =>
    intro kinds fault moved failed
    obtain ⟨stopped, fails, rfl⟩ := unpack_eq_error_iff.mp failed
    have shown := fails.view_seek placed
    have moves := unpack_moves placed kinds
    rw [failed] at moves
    have alike : AreAlike (stopped.seek packet.offset) packet := ⟨shown, moves.placed, placed⟩
    exact ⟨shown, alike.answers_eq (intact.moves moves) intact⟩
  case compositional =>
    intro first second values moved
    simp only [unpack_eq_ok_iff, reads_append_iff]
  case first =>
    intro kinds fault
    simp only [unpack_fails_iff, fails_iff, unpack_eq_ok_iff]
    constructor
    · rintro ⟨stopped, done, kind, later, values, middle, listed, reached, failing⟩
      exact ⟨done, kind, later, values, middle, listed, reached, congrArg Prod.fst failing⟩
    · rintro ⟨done, kind, later, values, middle, listed, reached, failing⟩
      exact ⟨_, done, kind, later, values, middle, listed, reached, Prod.ext failing rfl⟩

/-- Once reset, the default packet has its cursor behind its end; a failure puts it back. -/
theorem unpack_is_atomic_without_buffer :
    Arises Packet.empty.reset ∧
      ∃ fault moved, unpack Packet.empty.reset [.tail, .u8] = (.error fault, moved) ∧
        moved ≠ Packet.empty.reset ∧ moved.view = Packet.empty.reset.view ∧
        ∀ calls, answers moved calls = answers Packet.empty.reset calls := by
  have arises : Arises Packet.empty.reset := .call .empty .reset
  obtain ⟨shown, answered⟩ := (unpack_is_atomic arises).1 [.tail, .u8] _ _ rfl
  exact ⟨arises, _, _, rfl, by decide, shown, answered⟩

end RequestMux.Field
