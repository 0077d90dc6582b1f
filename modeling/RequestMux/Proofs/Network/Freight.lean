import RequestMux.Proofs.Link.Writing
import RequestMux.Proofs.Network.Wired

/-!
# What is on the sockets

A socket accepts the buffers that it is handed, one behind the other, and may stop anywhere.
As the engine hands over one at a time, the one that is in flight is the last that its socket
was handed, and a buffer that comes back was not accepted as a whole.
-/

namespace RequestMux.Network

open Client (Effect Engine Onset QueuedWrite Report Stimulus Tick Time attachedIn handedTo)
open Link (Writer)

/-- The bytes of some buffers, one behind the other. -/
def octetsOf (writes : List QueuedWrite) : Bytes := writes.flatMap QueuedWrite.octets

theorem octetsOf_concat (writes : List QueuedWrite) (last : QueuedWrite) :
    octetsOf (writes ++ [last]) = octetsOf writes ++ last.octets := by
  simp [octetsOf]

/-- The buffers that so many bytes cover as a whole. -/
def covered (count : Nat) : List QueuedWrite → List QueuedWrite
  | [] => []
  | write :: rest =>
      if write.octets.length ≤ count then write :: covered (count - write.octets.length) rest
      else []

theorem covered_isPrefix (count : Nat) (writes : List QueuedWrite) :
    covered count writes <+: writes := by
  induction writes generalizing count with
  | nil => exact List.nil_prefix
  | cons write rest ih =>
      unfold covered
      split
      · exact (List.prefix_cons_inj write).mpr (ih _)
      · exact List.nil_prefix

theorem length_octetsOf_covered (count : Nat) (writes : List QueuedWrite) :
    (octetsOf (covered count writes)).length ≤ count := by
  induction writes generalizing count with
  | nil => exact Nat.zero_le _
  | cons write rest ih =>
      unfold covered
      split
      · next fits =>
          have later := ih (count - write.octets.length)
          rw [octetsOf, List.flatMap_cons, List.length_append]
          change write.octets.length + (octetsOf _).length ≤ count
          omega
      · exact Nat.zero_le _

/-- The front of some buffers is whole buffers and a part of the next one. -/
theorem covered_split {sent : Bytes} {writes : List QueuedWrite} (front : sent <+: octetsOf writes) :
    ∃ cut rest, covered sent.length writes ++ rest = writes ∧
      sent = octetsOf (covered sent.length writes) ++ cut ∧
      (cut = [] ∨ ∃ next more, rest = next :: more ∧ cut <+: next.octets ∧
        cut.length < next.octets.length) := by
  induction writes generalizing sent with
  | nil => exact ⟨[], [], rfl, List.prefix_nil.mp front, .inl rfl⟩
  | cons write rest ih =>
      have first : write.octets <+: octetsOf (write :: rest) := List.prefix_append _ _
      unfold covered
      split
      · next fits =>
          obtain ⟨later, rfl⟩ := List.prefix_of_prefix_length_le first front fits
          have left : (write.octets ++ later).length - write.octets.length = later.length := by
            rw [List.length_append, Nat.add_sub_cancel_left]
          obtain ⟨cut, behind, whole, parts, next⟩ :=
            ih ((List.prefix_append_right_inj write.octets).mp front)
          refine ⟨cut, behind, ?_, ?_, next⟩
          · rw [left]
            exact congrArg (write :: ·) whole
          · rw [left]
            change _ = (write.octets ++ octetsOf (covered later.length rest)) ++ cut
            rw [List.append_assoc, ← parts]
      · next short =>
          have less : sent.length < write.octets.length := Nat.lt_of_not_le short
          have cut := List.prefix_of_prefix_length_le front first (Nat.le_of_lt less)
          exact ⟨sent, write :: rest, rfl, rfl, .inr ⟨write, rest, rfl, cut, less⟩⟩

theorem mem_covered_concat {count : Nat} {writes : List QueuedWrite} {last write : QueuedWrite}
    (member : write ∈ covered count (writes ++ [last])) :
    write = last ∨ write ∈ covered count writes := by
  induction writes generalizing count with
  | nil => exact .inl (List.mem_singleton.mp ((covered_isPrefix count [last]).subset member))
  | cons first rest ih =>
      rw [List.cons_append, covered] at member
      rw [covered]
      split at member
      · next fits =>
          rw [if_pos fits]
          rcases List.mem_cons.mp member with same | later
          · exact .inr (same ▸ List.mem_cons_self)
          · exact (ih later).imp_right (List.mem_cons_of_mem first)
      · cases member

/-- Bytes that do not cover everything do not cover the last buffer. -/
theorem last_not_mem_covered {count : Nat} {writes : List QueuedWrite} {last : QueuedWrite}
    (distinct : (writes ++ [last]).Nodup) (less : count < (octetsOf (writes ++ [last])).length) :
    last ∉ covered count (writes ++ [last]) := by
  intro member
  rcases List.prefix_concat_iff.mp (covered_isPrefix count (writes ++ [last])) with whole | early
  · have bound := length_octetsOf_covered count (writes ++ [last])
    rw [whole] at bound
    exact absurd bound (Nat.not_le_of_lt less)
  · exact (List.nodup_append.mp distinct).2.2 last (early.subset member) last List.mem_cons_self rfl

def Sight.sentOn (number : Nat) : Sight → Bytes
  | .sent other octets => if other = number then octets else []
  | _ => []

/-- The bytes that a socket accepted. -/
def sentOn (number : Nat) (record : List Sight) : Bytes := record.flatMap (Sight.sentOn number)

@[simp]
theorem sentOn_append (number : Nat) (record more : List Sight) :
    sentOn number (record ++ more) = sentOn number record ++ sentOn number more :=
  List.flatMap_append

/-- The buffers that a socket accepted as a whole. -/
def completedOn (number : Nat) (record : List Sight) : List QueuedWrite :=
  covered (sentOn number record).length (handedTo number (effectsIn record))

/-- The sights of a run of a writer show what it put on its socket. -/
theorem sentOn_sights (number : Nat) (written : Socket.Written) :
    sentOn number (written.sights number) = written.sent := by
  have echoed : sentOn number
      (if written.echo.isEmpty then [] else [.arrived number written.echo]) = [] := by
    split <;> rfl
  unfold Socket.Written.sights
  rw [sentOn_append, echoed, List.append_nil]
  split
  · next none => exact (List.isEmpty_iff.mp none).symm
  · simp [sentOn, Sight.sentOn]

theorem sentOn_sights_other {number other : Nat} (differs : other ≠ number)
    (written : Socket.Written) : sentOn number (written.sights other) = [] := by
  unfold Socket.Written.sights
  split <;> split <;> simp [sentOn, Sight.sentOn, differs]

theorem sentOn_performAll (number : Nat) (now : Time) (effects : List Effect) (scene : Scene) :
    sentOn number (scene.performAll now effects).record = sentOn number scene.record := by
  induction effects generalizing scene with
  | nil => rfl
  | cons effect rest ih =>
      have performed : sentOn number (scene.perform now effect).record = sentOn number scene.record := by
        have noted : sentOn number (scene.note [.engine now effect]).record =
            sentOn number scene.record := by
          change sentOn number (scene.record ++ _) = _
          rw [sentOn_append]
          exact List.append_nil _
        cases effect with
        | closed socket =>
            change sentOn number ((scene.note [.engine now (.closed socket)]).record ++ _) = _
            rw [sentOn_append, noted]
            exact List.append_nil _
        | _ => exact noted
      exact (ih (scene.perform now effect)).trans performed

/-- A writer that put some bytes on its socket, of the buffers it was handed. -/
structure IsFed (handed : List QueuedWrite) (sent : Bytes) (writer : Writer) : Prop where
  front : sent <+: octetsOf handed
  rest : writer.halted = false → octetsOf handed = sent ++ writer.outstanding
  fit : writer.IsFit
  load : writer.load ≤ handed.length

namespace IsFed

variable {handed : List QueuedWrite} {sent : Bytes} {writer : Writer}

theorem start : IsFed [] [] .start :=
  ⟨List.nil_prefix, fun _ => rfl, nofun, Nat.le_refl _⟩

theorem hand (fed : IsFed handed sent writer) (write : QueuedWrite) :
    IsFed (handed ++ [write]) sent (writer.hand write.octets) := by
  constructor
  case front =>
    rw [octetsOf_concat]
    exact fed.front.trans (List.prefix_append _ _)
  case rest =>
    intro going
    rw [octetsOf_concat, Writer.outstanding_hand, fed.rest going, List.append_assoc]
  case fit => exact fed.fit
  case load =>
    rw [Writer.load_hand, List.length_append]
    exact Nat.add_le_add_right fed.load 1

theorem like {other : Writer} (fed : IsFed handed sent writer) (like : Writer.IsLike writer other) :
    IsFed handed sent other := by
  constructor
  case front => exact fed.front
  case rest =>
    intro going
    rw [like.outstanding]
    exact fed.rest (like.halted.symm.trans going)
  case fit => exact like.fit fed.fit
  case load =>
    rw [like.load]
    exact fed.load

theorem run (fed : IsFed handed sent writer) (script : Link.Script) :
    IsFed handed (sent ++ (writer.run script).sent) (writer.run script).writer := by
  cases halted : writer.halted with
  | true =>
      rw [Writer.run_of_halted halted, List.append_nil]
      exact fed
  | false =>
      have ran := Writer.run_isRunOf fed.fit script
      have whole := fed.rest halted
      constructor
      case front =>
        rw [whole]
        exact (List.prefix_append_right_inj sent).mpr ran.sent
      case rest =>
        intro going
        rw [whole, ran.rest going, List.append_assoc]
      case fit => exact ran.fit
      case load => exact Nat.le_trans (Nat.le_of_add_right_le (Nat.le_of_eq ran.load)) fed.load

end IsFed

end RequestMux.Network
