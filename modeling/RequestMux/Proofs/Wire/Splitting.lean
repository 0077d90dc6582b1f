import RequestMux.Wire.FrameBuffer

/-!
# How a stream falls into frames

The frames of a stream follow each other without a gap from its first byte on.  What has
been cut off does not depend on what is still to come, so that a buffer gives out the same
frames however the bytes reach it.
-/

namespace RequestMux.Wire

theorem Header.decode?_append {octets : Bytes} {header : Header}
    (found : decode? octets = some header) (more : Bytes) :
    decode? (octets ++ more) = some header := by
  unfold decode? at found ⊢
  dsimp only at found ⊢
  split at found
  · next full =>
      have enough : size ≤ octets.length := by
        rw [List.length_take] at full
        omega
      have front : (octets ++ more).take size = octets.take size :=
        List.take_append_of_le_length enough
      rw [front, if_pos full]
      exact found
  · cases found

theorem Header.decode?_eq_none_iff {octets : Bytes} :
    decode? octets = none ↔ octets.length < size := by
  unfold decode?
  dsimp only
  rw [List.length_take]
  split
  · next full => exact ⟨nofun, fun few => by omega⟩
  · next few => exact ⟨fun _ => by omega, fun _ => rfl⟩

namespace FrameBuffer

variable {buffer rest : FrameBuffer} {packet : Packet}

theorem next?_append (given : buffer.next? = .ok (some (packet, rest))) (more : Bytes) :
    (buffer.append more).next? = .ok (some (packet, rest.append more)) := by
  obtain ⟨header, found, fits, full, rfl, rfl⟩ := next?_eq_some given
  have here : Header.decode? (buffer.held ++ more) = some header := Header.decode?_append found more
  have front : (buffer.held ++ more).take header.frameSize = buffer.held.take header.frameSize :=
    List.take_append_of_le_length full
  have back : (buffer.held ++ more).drop header.frameSize =
      buffer.held.drop header.frameSize ++ more :=
    List.drop_append_of_le_length full
  have length : (buffer.held.take header.frameSize).length = header.frameSize :=
    List.length_take_of_le full
  simp only [next?, append, here, fits, List.splitAt_eq, front, back, length, if_true]

/-- Behind a header nothing is given out just if it is admitted and its frame is not complete. -/
theorem next?_eq_dry_iff {header : Header} (leads : Header.decode? buffer.held = some header) :
    buffer.next? = .ok none ↔
      header.excess? buffer.limit = none ∧ buffer.held.length < header.frameSize := by
  unfold next?
  rw [leads]
  dsimp only
  cases header.excess? buffer.limit with
  | some violation => exact ⟨nofun, nofun⟩
  | none =>
      dsimp only
      rw [List.splitAt_eq, List.length_take]
      split
      · next full => exact ⟨nofun, fun dry => absurd dry.2 (by omega)⟩
      · next few => exact ⟨fun _ => ⟨rfl, by omega⟩, fun _ => rfl⟩

theorem next?_cut (given : buffer.next? = .ok (some (packet, rest))) :
    packet.data ++ rest.held = buffer.held ∧ Packet.ofFrame packet.data = .ok packet ∧
      rest.limit = buffer.limit := by
  obtain ⟨header, found, -, full, rfl, rfl⟩ := next?_eq_some given
  refine ⟨List.take_append_drop _ _, ?_, rfl⟩
  have length : (buffer.held.take header.frameSize).length = header.frameSize :=
    List.length_take_of_le full
  have atLeast : Header.size ≤ header.frameSize := Nat.le_add_right _ _
  have front : Header.decode? (buffer.held.take header.frameSize) = some header := by
    unfold Header.decode? at found ⊢
    rw [List.take_take, Nat.min_eq_left atLeast]
    exact found
  exact Packet.ofFrame_eq_ok_iff.mpr ⟨header, front, length.symm, rfl⟩

theorem drain_eq_next? (buffer : FrameBuffer) :
    buffer.drain = match buffer.next? with
      | .error fault => ⟨[], some fault, buffer⟩
      | .ok none => ⟨[], none, buffer⟩
      | .ok (some (packet, rest)) =>
        { rest.drain with frames := packet :: rest.drain.frames } := by
  rw [drain]
  split
  · next refused => rw [refused]
  · next dry => rw [dry]
  · next given => rw [given]

theorem drain_of_next? (given : buffer.next? = .ok (some (packet, rest))) :
    buffer.drain = { rest.drain with frames := packet :: rest.drain.frames } := by
  rw [drain_eq_next?, given]

theorem drain_of_dry (dry : buffer.next? = .ok none) : buffer.drain = ⟨[], none, buffer⟩ := by
  rw [drain_eq_next?, dry]

theorem drain_of_refused {fault : ClientError} (refused : buffer.next? = .error fault) :
    buffer.drain = ⟨[], some fault, buffer⟩ := by
  rw [drain_eq_next?, refused]

theorem drain_empty (limit : UInt32) : (empty limit).drain = ⟨[], none, empty limit⟩ :=
  drain_of_dry rfl

/-- Without a frame at the front nothing is given out. -/
theorem drain_of_not (none : ∀ packet rest, buffer.next? ≠ .ok (some (packet, rest))) :
    buffer.drain.frames = [] ∧ buffer.drain.buffer = buffer := by
  rw [drain_eq_next?]
  split
  · exact ⟨rfl, rfl⟩
  · exact ⟨rfl, rfl⟩
  · next found => exact absurd found (none _ _)

/-- What is proved of a buffer from what is left behind its first frame holds of every
buffer. -/
theorem induct {motive : FrameBuffer → Prop} (buffer : FrameBuffer)
    (stop : ∀ buffer : FrameBuffer, (∀ packet rest, buffer.next? ≠ .ok (some (packet, rest))) →
      motive buffer)
    (next : ∀ (buffer : FrameBuffer) packet rest, buffer.next? = .ok (some (packet, rest)) →
      motive rest → motive buffer) : motive buffer := by
  induction length : buffer.held.length using Nat.strongRecOn generalizing buffer with
  | _ count ih =>
      by_cases given : ∃ packet rest, buffer.next? = .ok (some (packet, rest))
      · obtain ⟨packet, rest, given⟩ := given
        refine next buffer packet rest given (ih rest.held.length ?_ rest rfl)
        exact length ▸ length_lt_of_next? given
      · exact stop buffer fun packet rest found => given ⟨packet, rest, found⟩

/-- The frames of a buffer are what it held, up to what it still holds. -/
theorem drain_whole (buffer : FrameBuffer) :
    buffer.drain.frames.flatMap Packet.data ++ buffer.drain.buffer.held = buffer.held ∧
      buffer.drain.buffer.limit = buffer.limit ∧
      ∀ packet ∈ buffer.drain.frames, Packet.ofFrame packet.data = .ok packet := by
  induction buffer using induct with
  | stop buffer none =>
      obtain ⟨frames, same⟩ := drain_of_not none
      rw [frames, same]
      exact ⟨rfl, rfl, List.forall_mem_nil _⟩
  | next buffer packet rest given ih =>
      obtain ⟨whole, limit, proper⟩ := ih
      obtain ⟨cut, frame, same⟩ := next?_cut given
      rw [drain_of_next? given]
      refine ⟨?_, limit.trans same, ?_⟩
      · rw [List.flatMap_cons, List.append_assoc, whole, cut]
      · intro other member
        rcases List.mem_cons.mp member with rfl | later
        · exact frame
        · exact proper other later

/-- What comes later is cut behind what is left. -/
theorem drain_append_eq (buffer : FrameBuffer) (future : Bytes) :
    (buffer.append future).drain =
      { (buffer.drain.buffer.append future).drain with
        frames := buffer.drain.frames ++ (buffer.drain.buffer.append future).drain.frames } := by
  induction buffer using induct with
  | stop buffer none =>
      obtain ⟨frames, same⟩ := drain_of_not none
      rw [frames, same]
      rfl
  | next buffer packet rest given ih =>
      rw [drain_of_next? given, drain_of_next? (next?_append given future), ih]
      rfl

theorem drain_append (buffer : FrameBuffer) (future : Bytes) :
    (buffer.append future).drain.frames =
      buffer.drain.frames ++ (buffer.drain.buffer.append future).drain.frames :=
  congrArg Drained.frames (drain_append_eq buffer future)

/-- A header that is refused stays in front, and nothing behind it is looked at. -/
theorem next?_append_of_refused {fault : ClientError} (refused : buffer.next? = .error fault)
    (more : Bytes) : (buffer.append more).next? = .error fault := by
  unfold next? at refused ⊢
  cases found : Header.decode? buffer.held with
  | none =>
      rw [found] at refused
      cases refused
  | some header =>
      have here : Header.decode? (buffer.append more).held = some header :=
        Header.decode?_append found more
      rw [found] at refused
      rw [here]
      dsimp only at refused ⊢
      have same : (buffer.append more).limit = buffer.limit := rfl
      rw [same]
      cases excess : header.excess? buffer.limit with
      | some violation =>
          rw [excess] at refused
          exact refused
      | none =>
          rw [excess] at refused
          dsimp only at refused
          split at refused <;> cases refused

/-- What stays in a drained buffer is too short for a frame, or begins with a header that is
refused. -/
theorem next?_drain (buffer : FrameBuffer) :
    buffer.drain.buffer.next? = buffer.drain.fault.elim (.ok none) .error := by
  induction buffer using induct with
  | stop buffer none =>
      cases front : buffer.next? with
      | error fault =>
          rw [drain_of_refused front]
          exact front
      | ok given =>
          cases given with
          | none =>
              rw [drain_of_dry front]
              exact front
          | some given => exact absurd front (none given.1 given.2)
  | next buffer packet rest given ih =>
      rw [drain_of_next? given]
      exact ih

/-- Once a header is refused, later bytes change nothing. -/
theorem drain_append_of_fault {fault : ClientError} (refused : buffer.drain.fault = some fault)
    (future : Bytes) :
    (buffer.append future).drain.frames = buffer.drain.frames ∧
      (buffer.append future).drain.fault = some fault := by
  have front : buffer.drain.buffer.next? = .error fault := by rw [next?_drain, refused]; rfl
  rw [drain_append_eq, drain_of_refused (next?_append_of_refused front future)]
  exact ⟨List.append_nil _, rfl⟩

end FrameBuffer

/-- The frames at the front of some bytes, up to a header that announces too much. -/
def framesIn (limit : UInt32) (octets : Bytes) : List Packet :=
  (FrameBuffer.mk octets limit).drain.frames

/-- Frames that a buffer gave out are the first of the whole stream. -/
theorem framesIn_append (buffer : FrameBuffer) (future : Bytes) :
    framesIn buffer.limit (buffer.held ++ future) =
      buffer.drain.frames ++ framesIn buffer.limit (buffer.drain.buffer.held ++ future) := by
  have limit : buffer.drain.buffer.limit = buffer.limit := buffer.drain_whole.2.1
  have rest : buffer.drain.buffer.append future =
      ⟨buffer.drain.buffer.held ++ future, buffer.limit⟩ := congrArg (FrameBuffer.mk _) limit
  unfold framesIn
  rw [← rest]
  exact buffer.drain_append future

/-- The frames of a stream are its bytes, from the first on and without a gap, and each is one
whole frame. -/
theorem framesIn_whole (limit : UInt32) (octets : Bytes) :
    (framesIn limit octets).flatMap Packet.data <+: octets ∧
      ∀ packet ∈ framesIn limit octets, Packet.ofFrame packet.data = .ok packet := by
  obtain ⟨whole, -, proper⟩ := (FrameBuffer.mk octets limit).drain_whole
  exact ⟨⟨_, whole⟩, proper⟩

end RequestMux.Wire
