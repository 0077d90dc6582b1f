import RequestMux.Proofs.Field.Atomicity

/-!
# How far the cursor goes

A cursor stays within the buffer of its packet, whatever is called.  Without a buffer there is one
way past the end: a reset puts the cursor behind a header that is not there, and there it stays
until a list of fields or a tail is read, or the packet is moved out.  Nothing that is read off the
packet tells where it is.

Deeds are done in one place.  A packet that is moved out is in its new place what it was in the old
one, so what is done with it there counts as done in the old one without the move.
-/

namespace RequestMux.Field

open Wire (Header Packet)

/-- What is done in a place that holds a packet. -/
inductive Deed where
  | call (call : Call)
  /-- The packet goes elsewhere, and the one without a buffer is left. -/
  | moveOut
  deriving DecidableEq, Repr

/-- The packet that is in its place afterwards. -/
def Deed.leave (packet : Packet) : Deed → Packet
  | .call made => (made.apply packet).2
  | .moveOut => .empty

/-- The packet that is in its place after deeds in order. -/
def afterDeeds (packet : Packet) (deeds : List Deed) : Packet := deeds.foldl Deed.leave packet

/-- Packets as they are built. -/
inductive IsFresh : Packet → Prop where
  | frame {octets : Bytes} {packet : Packet} (built : Packet.ofFrame octets = .ok packet) :
      IsFresh packet
  | packed (packer : Packer) : IsFresh packer.finish
  | empty : IsFresh Packet.empty

/-- Whether a deed leaves a packet without a buffer as it is.  A field by itself does, since no
field can be read but a tail. -/
def Deed.isIdle : Deed → Bool
  | .call (.unpack kinds) => kinds.isEmpty
  | .call (.field kind) => kind != .tail
  | .call .reset => false
  | .moveOut => false

/-- Behind the last reset there are only deeds that leave a packet without a buffer as it is. -/
def EndsAtReset (deeds : List Deed) : Prop :=
  ∃ before later, deeds = before ++ .call .reset :: later ∧ ∀ deed ∈ later, deed.isIdle

/-- The packets that deeds can leave: one whose cursor is inside its buffer, or one of two that have
no buffer. -/
inductive Stands (deeds : List Deed) : Packet → Prop where
  | inside {packet : Packet} (inside : packet.IsInside) : Stands deeds packet
  | atStart (settled : ¬EndsAtReset deeds) : Stands deeds Packet.empty
  | astray (ends : EndsAtReset deeds) : Stands deeds Packet.empty.reset

variable {packet moved : Packet} {kind : Kind} {kinds : List Kind} {values : List Value}
  {deeds : List Deed} {deed : Deed}

/-! ### The last reset -/

theorem not_endsAtReset_nil : ¬EndsAtReset [] := by
  rintro ⟨before, later, listed, -⟩
  exact absurd listed (List.append_ne_nil_of_right_ne_nil _ (List.cons_ne_nil _ _)).symm

theorem endsAtReset_append_iff :
    EndsAtReset (deeds ++ [deed]) ↔ deed = .call .reset ∨ deed.isIdle ∧ EndsAtReset deeds := by
  constructor
  · rintro ⟨before, later, listed, idle⟩
    obtain rfl | ⟨middle, last, rfl⟩ := List.eq_nil_or_concat later
    · obtain ⟨-, same⟩ := List.append_inj' listed rfl
      exact .inl (List.singleton_inj.mp same)
    · rw [List.concat_eq_append] at listed idle
      have regrouped : deeds ++ [deed] = (before ++ .call .reset :: middle) ++ [last] := by
        rw [listed, List.append_assoc, List.cons_append]
      obtain ⟨rfl, same⟩ := List.append_inj' regrouped rfl
      obtain rfl := List.singleton_inj.mp same
      exact .inr ⟨idle _ (List.mem_append_right _ (List.mem_singleton_self _)),
        before, middle, rfl, fun other member => idle other (List.mem_append_left _ member)⟩
  · rintro (rfl | ⟨idle, before, later, rfl, others⟩)
    · exact ⟨deeds, [], rfl, fun other member => absurd member List.not_mem_nil⟩
    · refine ⟨before, later ++ [deed], by rw [List.append_assoc, List.cons_append], ?_⟩
      intro other member
      obtain earlier | last := List.mem_append.mp member
      · exact others other earlier
      · rwa [List.mem_singleton.mp last]

theorem endsAtReset_append_of_idle (idle : deed.isIdle) :
    EndsAtReset (deeds ++ [deed]) ↔ EndsAtReset deeds := by
  rw [endsAtReset_append_iff]
  constructor
  · rintro (rfl | ⟨-, ends⟩)
    · cases idle
    · exact ends
  · exact fun ends => .inr ⟨idle, ends⟩

theorem not_endsAtReset_append (busy : ¬deed.isIdle) (further : deed ≠ .call .reset) :
    ¬EndsAtReset (deeds ++ [deed]) := by
  rw [endsAtReset_append_iff]
  rintro (same | ⟨idle, -⟩)
  · exact further same
  · exact busy idle

/-! ### Calls on a packet without a buffer -/

/-- A tail is read and leaves the cursor at the end; no other field is there. -/
theorem takeField_bare_cases (placed : packet.IsPlaced) (unowned : packet.data = [])
    (kind : Kind) :
    (kind = .tail ∧ (takeField packet kind).2 = { packet with cursor := 0 }) ∨
      (kind ≠ .tail ∧ ∃ fault, takeField packet kind = (.error fault, packet)) := by
  cases kind with
  | u8 | u16 | u32 | u64 =>
      rw [takeField, takeWord_bare placed unowned (Nat.succ_pos _)]
      exact .inr ⟨by decide, _, rfl⟩
  | text | blob =>
      rw [takeField, takePrefixed_bare placed unowned]
      exact .inr ⟨by decide, _, rfl⟩
  | tail =>
      rw [takeField, Packet.takeRest, unowned]
      exact .inl ⟨rfl, rfl⟩
  | sizedText | sizedBlob =>
      rw [takeField, takeSized_bare placed unowned]
      exact .inr ⟨by decide, _, rfl⟩

/-- Fields that are read off it are tails. -/
theorem Reads.cursor_of_bare (reads : Reads packet kinds values moved) (placed : packet.IsPlaced)
    (unowned : packet.data = []) : kinds = [] ∨ moved.cursor = 0 := by
  induction reads with
  | nil => exact .inl rfl
  | @cons packet middle moved kind kinds value values first later ih =>
      have moves := moves_of_takeField placed first
      obtain ⟨-, left⟩ | ⟨-, fault, failed⟩ := takeField_bare_cases placed unowned kind
      · rw [first] at left
        obtain rfl | ended := ih moves.placed (moves.data.trans unowned)
        · cases later
          exact .inr (congrArg Packet.cursor left)
        · exact .inr ended
      · rw [first] at failed
        cases failed

/-- A list of fields leaves the cursor at the end, whether it is read or not. -/
theorem unpack_bare (placed : packet.IsPlaced) (unowned : packet.data = [])
    (asked : kinds ≠ []) : (unpack packet kinds).2 = { packet with cursor := 0 } := by
  obtain ⟨values, moved, reads⟩ | ⟨fault, stopped, fails⟩ := reads_or_fails packet kinds
  · have moves := reads.moves placed
    have ended := (reads.cursor_of_bare placed unowned).resolve_left asked
    rw [reads.unpack_eq, ← moves.header, ← moves.data, ← ended]
  · -- the cursor is put back to the start of the payload, but no further than the end
    have moves := fails.moves placed
    rw [fails.unpack_eq, Packet.seek, moves.data, moves.header, unowned, List.length_nil,
      Nat.min_zero]

/-- A call that is neither a reset nor idle takes the cursor to the end. -/
theorem Call.apply_bare_cases (placed : packet.IsPlaced) (unowned : packet.data = [])
    (made : Call) :
    made = .reset ∨
      ((Deed.call made).isIdle ∧ (made.apply packet).2 = packet) ∨
        (¬(Deed.call made).isIdle ∧ made ≠ .reset ∧
          (made.apply packet).2 = { packet with cursor := 0 }) := by
  cases made with
  | unpack kinds =>
      by_cases asked : kinds = []
      · obtain rfl := asked
        exact .inr (.inl ⟨rfl, rfl⟩)
      · have ended := unpack_bare placed unowned asked
        exact .inr (.inr ⟨asked ∘ List.isEmpty_iff.mp, by simp, ended⟩)
  | field kind =>
      obtain ⟨rfl, left⟩ | ⟨notTail, fault, failed⟩ := takeField_bare_cases placed unowned kind
      · exact .inr (.inr ⟨by decide, by simp, left⟩)
      · exact .inr (.inl ⟨bne_iff_ne.mpr notTail, congrArg Prod.snd failed⟩)
  | reset => exact .inl rfl

/-! ### What deeds leave -/

theorem Arises.leave (arises : Arises packet) (deed : Deed) : Arises (deed.leave packet) := by
  cases deed with
  | call made => exact arises.call made
  | moveOut => exact .empty

/-- The buffer stays until it is moved out. -/
theorem data_afterDeeds (arises : Arises packet) (deeds : List Deed) :
    (afterDeeds packet deeds).data = if .moveOut ∈ deeds then [] else packet.data := by
  induction deeds generalizing packet with
  | nil => rfl
  | cons deed deeds ih =>
      refine (ih (arises.leave deed)).trans ?_
      cases deed with
      | call made =>
          have moves := made.apply_moves arises.isIntact arises.isPlaced
          simp [Deed.leave, moves.data]
      | moveOut => simp [Deed.leave, Packet.empty]

theorem data_afterDeeds_ne_nil_iff (arises : Arises packet) :
    (afterDeeds packet deeds).data ≠ [] ↔ packet.data ≠ [] ∧ .moveOut ∉ deeds := by
  rw [data_afterDeeds arises]
  split <;> simp [*]

namespace IsFresh

theorem arises (fresh : IsFresh packet) : Arises packet := by
  cases fresh with
  | frame built => exact .frame built
  | packed packer => exact .packed packer
  | empty => exact .empty

theorem stands (fresh : IsFresh packet) : Stands [] packet := by
  cases fresh with
  | frame built =>
      obtain ⟨header, heads, -, rfl⟩ := Packet.ofFrame_eq_ok_iff.mp built
      exact .inside ⟨Nat.le_refl _, length_of_decode? heads⟩
  | packed packer =>
      refine .inside ⟨Nat.le_refl _, ?_⟩
      exact length_of_decode? (Header.decode?_encode_append packer.header packer.payload)
  | empty => exact .atStart not_endsAtReset_nil

end IsFresh

theorem data_ne_nil_of_isInside (inside : packet.IsInside) : packet.data ≠ [] := by
  intro unowned
  have room := Nat.le_trans inside.behindHeader inside.withinData
  rw [unowned] at room
  exact absurd room (by decide)

theorem isInside_of_moves (moves : Moves packet moved) (inside : packet.IsInside) :
    moved.IsInside := by
  cases moves.placed with
  | inside inside => exact inside
  | bare unowned early =>
      exact absurd (moves.data.symm.trans unowned) (data_ne_nil_of_isInside inside)

namespace Stands

/-- What one deed leaves: without a buffer the cursor goes past the end with a reset, and back with
anything else that is not idle. -/
theorem leave (stands : Stands deeds packet) (arises : Arises packet) (deed : Deed) :
    Stands (deeds ++ [deed]) (deed.leave packet) := by
  cases deed with
  | moveOut => exact .atStart (not_endsAtReset_append (by decide) (by decide))
  | call made =>
      change Stands _ (made.apply packet).2
      have placed := arises.isPlaced
      cases stands with
      | inside inside =>
          exact .inside (isInside_of_moves (made.apply_moves arises.isIntact placed) inside)
      | atStart settled =>
          obtain rfl | ⟨idle, same⟩ | ⟨busy, further, ended⟩ := made.apply_bare_cases placed rfl
          · exact .astray (endsAtReset_append_iff.mpr (.inl rfl))
          · rw [same]
            exact .atStart (settled ∘ (endsAtReset_append_of_idle idle).mp)
          · rw [ended]
            exact .atStart (not_endsAtReset_append busy (further ∘ Deed.call.inj))
      | astray ends =>
          obtain rfl | ⟨idle, same⟩ | ⟨busy, further, ended⟩ := made.apply_bare_cases placed rfl
          · exact .astray (endsAtReset_append_iff.mpr (.inl rfl))
          · rw [same]
            exact .astray ((endsAtReset_append_of_idle idle).mpr ends)
          · rw [ended]
            exact .atStart (not_endsAtReset_append busy (further ∘ Deed.call.inj))

theorem afterDeeds {before : List Deed} (stands : Stands before packet) (arises : Arises packet)
    (deeds : List Deed) : Stands (before ++ deeds) (Field.afterDeeds packet deeds) := by
  induction deeds generalizing before packet with
  | nil =>
      rw [List.append_nil]
      exact stands
  | cons deed deeds ih =>
      have next := ih (stands.leave arises deed) (arises.leave deed)
      rwa [List.append_assoc] at next

theorem isInside (stands : Stands deeds packet) (owned : packet.data ≠ []) : packet.IsInside := by
  cases stands with
  | inside inside => exact inside
  | atStart settled => exact absurd rfl owned
  | astray ends => exact absurd rfl owned

theorem eq_of_past (stands : Stands deeds packet) (past : packet.data.length < packet.cursor) :
    packet = Packet.empty.reset := by
  cases stands with
  | inside inside => exact absurd inside.withinData (Nat.not_le_of_lt past)
  | atStart settled => exact absurd past (Nat.lt_irrefl 0)
  | astray ends => rfl

theorem cursor_le_iff (stands : Stands deeds packet) :
    packet.cursor ≤ packet.data.length ↔ packet.data ≠ [] ∨ ¬EndsAtReset deeds := by
  cases stands with
  | inside inside => exact iff_of_true inside.withinData (.inl (data_ne_nil_of_isInside inside))
  | atStart settled => exact iff_of_true (Nat.le_refl 0) (.inr settled)
  | astray ends =>
      refine iff_of_false (by decide) ?_
      rintro (owned | settled)
      · exact owned rfl
      · exact settled ends

end Stands

/-- Nothing that is read off the default packet tells whether it was reset. -/
theorem answers_reset_empty (calls : List Call) :
    answers Packet.empty.reset calls = answers Packet.empty calls := by
  have arises : Arises Packet.empty.reset := .call .empty .reset
  have alike : AreAlike Packet.empty.reset Packet.empty :=
    ⟨rfl, arises.isPlaced, Arises.empty.isPlaced⟩
  exact alike.answers_eq arises.isIntact Arises.empty.isIntact calls

/-- **When the cursor stays within the buffer.**  Take a packet as it is built, and whatever is done
in its place.  The cursor of the packet that is there afterwards is within its buffer, except where
there is none, because there never was one or it was moved out, and behind the last reset no list
of fields and no tail was read.  With a buffer the cursor is in the payload or at its end.  Past the
end there is only the default packet, reset, and it answers every call as if its cursor were at the
start. -/
theorem cursor_stays_within_buffer (fresh : IsFresh packet) (deeds : List Deed) :
    let held := afterDeeds packet deeds
    (held.cursor ≤ held.data.length ↔
      (packet.data ≠ [] ∧ .moveOut ∉ deeds) ∨ ¬EndsAtReset deeds) ∧
    (held.data ≠ [] → Header.size ≤ held.cursor ∧ held.cursor ≤ held.data.length) ∧
    (held.data.length < held.cursor → held = Packet.empty.reset ∧
      ∀ calls, answers held calls = answers Packet.empty calls) := by
  intro held
  have stands : Stands deeds held := fresh.stands.afterDeeds fresh.arises deeds
  have owned : held.data ≠ [] ↔ packet.data ≠ [] ∧ .moveOut ∉ deeds :=
    data_afterDeeds_ne_nil_iff fresh.arises
  refine ⟨?_, fun owned => ?_, fun past => ?_⟩
  · rw [← owned]
    exact stands.cursor_le_iff
  · have inside := stands.isInside owned
    exact ⟨inside.behindHeader, inside.withinData⟩
  · have same := stands.eq_of_past past
    exact ⟨same, fun calls => by rw [same, answers_reset_empty]⟩

/-- What a move leaves is reset, a word is not found in it, then a tail and another word are asked
for: this has taken the cursor back. -/
theorem cursor_stays_within_buffer_once_read_on :
    let packet := pack 1 3 0 [.u16 7, .u32 5]
    let deeds : List Deed := [.call (.field .u16), .moveOut, .call .reset, .call (.field .u16),
      .call (.unpack [.tail, .u16])]
    IsFresh packet ∧ (afterDeeds packet deeds).cursor ≤ (afterDeeds packet deeds).data.length := by
  intro packet deeds
  have fresh : IsFresh packet := .packed _
  have settled : ¬EndsAtReset (deeds.dropLast ++ [.call (.unpack [.tail, .u16])]) :=
    not_endsAtReset_append (by decide) (by decide)
  exact ⟨fresh, (cursor_stays_within_buffer fresh deeds).1.mpr (.inr settled)⟩

/-- The default packet, reset, has its cursor behind a header that it does not have, where seeking
the first octet of the payload stays within the buffer. -/
theorem reset_takes_cursor_past_end :
    let held := afterDeeds Packet.empty [.call .reset]
    let sought := Packet.empty.seek 0
    IsFresh Packet.empty ∧ held.data.length = 0 ∧ held.cursor = 12 ∧
      ¬held.cursor ≤ held.data.length ∧ sought.cursor ≤ sought.data.length :=
  ⟨.empty, rfl, rfl, by decide, by decide⟩

end RequestMux.Field
