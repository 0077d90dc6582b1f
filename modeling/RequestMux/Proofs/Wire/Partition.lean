import RequestMux.Proofs.Wire.Feeding

/-!
# A stream that is fed in any way

However a stream is cut, and whether it is pushed or read, a frame buffer gives out the frames
into which the stream falls, and holds the rest.  A header that announces too much is refused as
soon as it is complete; it stays in front, and nothing behind it is looked at.
-/

namespace RequestMux.Wire

@[simp]
theorem FrameBuffer.append_nil (buffer : FrameBuffer) : buffer.append [] = buffer :=
  congrArg (FrameBuffer.mk · buffer.limit) (List.append_nil _)

namespace Usage

variable {limit : UInt32} {usage : Usage} {frames : List Packet} {thrifty : Prop}

/-- Asking often enough is draining. -/
theorem after_nexts (usage : Usage) :
    ∃ count, usage.after (List.replicate count .next) =
      ⟨usage.fed, usage.given ++ usage.buffer.drain.frames, usage.buffer.drain.buffer⟩ := by
  obtain ⟨fed, given, buffer⟩ := usage
  induction buffer using FrameBuffer.induct generalizing given with
  | stop buffer none =>
      obtain ⟨nothing, same⟩ := FrameBuffer.drain_of_not none
      refine ⟨0, ?_⟩
      dsimp only
      rw [nothing, same, List.append_nil]
      rfl
  | next buffer packet rest front ih =>
      obtain ⟨count, drained⟩ := ih (given ++ [packet])
      have first : call ⟨fed, given, buffer⟩ .next = ⟨fed, given ++ [packet], rest⟩ := by
        simp only [call, front]
      refine ⟨count + 1, ?_⟩
      rw [List.replicate_succ, after, List.foldl_cons, first]
      dsimp only at drained ⊢
      rw [FrameBuffer.drain_of_next? front]
      refine drained.trans ?_
      rw [List.append_assoc]
      rfl

theorem limit_of_split (split : usage.HasSplit limit frames thrifty) :
    usage.buffer.limit = limit := by
  have whole := (FrameBuffer.mk usage.fed limit).drain_whole.2.1
  rw [split.drained] at whole
  exact usage.buffer.drain_whole.2.1.symm.trans whole

/-- What is fed is added behind what was fed before. -/
theorem fed_after (usage : Usage) (calls : List Call) :
    ∃ more, (usage.after calls).fed = usage.fed ++ more := by
  have one (usage : Usage) (call : Call) : ∃ more, (usage.call call).fed = usage.fed ++ more := by
    cases call with
    | push octets => exact ⟨octets, rfl⟩
    | next =>
        refine ⟨[], ?_⟩
        rw [List.append_nil]
        simp only [Usage.call]
        split <;> rfl
    | read pieces => exact ⟨_, rfl⟩
  induction calls generalizing usage with
  | nil => exact ⟨[], (List.append_nil _).symm⟩
  | cons call later ih =>
      obtain ⟨first, fed⟩ := one usage call
      obtain ⟨more, rest⟩ := ih (usage.call call)
      refine ⟨first ++ more, ?_⟩
      rw [← List.append_assoc, ← fed]
      exact rest

/-- Where no header of a stream is refused, nothing is dropped. -/
theorem isThrifty_of_sound (split : usage.HasSplit limit frames thrifty) {calls : List Call}
    (sound : (FrameBuffer.mk (usage.after calls).fed limit).drain.fault = none) :
    usage.IsThrifty calls := by
  induction calls generalizing usage frames thrifty with
  | nil => trivial
  | cons call later ih =>
      obtain ⟨first, next⟩ := split.call call
      refine ⟨?_, ih next sound⟩
      rintro drops
      obtain ⟨octets, -, rfl, -⟩ := id drops
      -- the refused header is in the stream, and stays there
      obtain ⟨refused, -⟩ := FrameBuffer.drops_push_iff.mp drops
      obtain ⟨fault, refused⟩ := Option.isSome_iff_exists.mp refused
      have here : (FrameBuffer.mk (usage.fed ++ octets) limit).drain.fault = some fault := by
        rw [split.drain_append]
        exact refused
      obtain ⟨more, fed⟩ := fed_after (usage.call (.push octets)) later
      have still := (FrameBuffer.drain_append_of_fault here more).2
      change (FrameBuffer.mk (after (usage.call (.push octets)) later).fed limit).drain.fault =
        none at sound
      rw [fed] at sound
      exact nomatch still.symm.trans sound

/-- With a refused header in front, a call adds bytes at most. -/
theorem after_of_refused {fault : ClientError} (refused : usage.buffer.next? = .error fault)
    (calls : List Call) :
    ∃ more, usage.after calls = ⟨usage.fed ++ more, usage.given, usage.buffer.append more⟩ := by
  have one {usage : Usage} (refused : usage.buffer.next? = .error fault) (call : Call) :
      ∃ more, usage.call call = ⟨usage.fed ++ more, usage.given, usage.buffer.append more⟩ := by
    cases call with
    | push octets =>
        refine ⟨octets, ?_⟩
        have still := FrameBuffer.next?_append_of_refused refused octets
        simp only [Usage.call, FrameBuffer.push_eq, FrameBuffer.drain_of_refused still,
          Option.elim_some, Except.toOption, Option.getD_none, List.append_nil]
    | next =>
        refine ⟨[], ?_⟩
        simp only [Usage.call, refused, List.append_nil, FrameBuffer.append_nil]
    | read pieces =>
        refine ⟨takenOff pieces (usage.buffer.readFrom pieces).2.2, ?_⟩
        simp only [Usage.call, FrameBuffer.readFrom_buffer]
  induction calls generalizing usage with
  | nil =>
      refine ⟨[], ?_⟩
      rw [List.append_nil, FrameBuffer.append_nil]
      rfl
  | cons call later ih =>
      obtain ⟨first, called⟩ := one refused call
      have still : (usage.call call).buffer.next? = .error fault := by
        rw [called]
        exact FrameBuffer.next?_append_of_refused refused first
      obtain ⟨more, rest⟩ := ih still
      refine ⟨first ++ more, ?_⟩
      refine rest.trans ?_
      rw [called]
      simp only [FrameBuffer.append, List.append_assoc]

end Usage

/-- A header in front that is admitted lets its frame out as soon as all of it is there. -/
theorem FrameBuffer.next?_of_header {header : Header} {octets : Bytes} {limit : UInt32}
    (fits : header.len ≤ limit) :
    (FrameBuffer.mk (header.encode ++ octets) limit).next? =
      if header.len.toNat ≤ octets.length then
        .ok (some (Packet.ofParts header (header.encode ++ octets.take header.len.toNat),
          ⟨octets.drop header.len.toNat, limit⟩))
      else .ok none := by
  split
  · next full =>
      have whole : header.encode ++ octets = header.encode ++ octets.take header.len.toNat ++
          octets.drop header.len.toNat := by
        rw [List.append_assoc, List.take_append_drop]
      rw [whole]
      exact Framed.next?_frame fits (List.length_take_of_le full)
  · next less => exact Framed.next?_part fits (Nat.lt_of_not_le less)

/-- Whatever calls feed a frame buffer, in whatever pieces, what was fed falls into frames in one
way, and asking often enough empties the buffer of them.  If no header of the stream announces
more than the limit, the owner has then been given just these frames, and the rest is held.  A
header in front that announces the limit or less lets its frame out, and one that announces more
is refused as soon as it is complete, and again after all calls that follow, none of which gives
anything or takes anything out of the buffer; once it is cleared, the buffer is as new. -/
theorem FrameBuffer.streams_fall_into_frames (limit : UInt32) (calls : List Call) :
    let usage := (Usage.start limit).after calls
    (∃ frames refusal, Framed limit usage.fed frames refusal ∧
      ∃ count, let emptied := usage.after (List.replicate count .next)
        emptied.buffer.next? =
            refusal.elim (.ok none) (fun violation => .error (.protocol violation)) ∧
        (refusal = none → emptied.given = frames ∧
          frames.flatMap Packet.data ++ emptied.buffer.held = usage.fed)) ∧
    ∀ header octets, usage.buffer.held = header.encode ++ octets →
      (header.len ≤ limit → usage.buffer.next? =
        if header.len.toNat ≤ octets.length then
          .ok (some (Packet.ofParts header (header.encode ++ octets.take header.len.toNat),
            ⟨octets.drop header.len.toNat, limit⟩))
        else .ok none) ∧
      (limit < header.len → ∀ more, let later := usage.after more
        later.buffer.next? =
          .error (.protocol (.oversized header.len.toNat limit.toNat)) ∧
        later.call .next = later ∧
        (∃ octets, later = ⟨usage.fed ++ octets, usage.given, usage.buffer.append octets⟩) ∧
        later.buffer.clear = .empty limit) := by
  intro usage
  obtain ⟨left, split⟩ := (Usage.HasSplit.start limit).after calls
  have limited : usage.buffer.limit = limit := Usage.limit_of_split split
  refine ⟨?_, fun header octets held => ⟨fun fits => ?_, fun excess more => ?_⟩⟩
  · obtain ⟨frames, refusal, framed⟩ := Framed.exists_framed limit usage.fed
    obtain ⟨count, emptied⟩ := usage.after_nexts
    obtain ⟨same, fault⟩ := framed.drain_eq
    refine ⟨frames, refusal, framed, count, ?_⟩
    dsimp only
    rw [emptied]
    refine ⟨?_, fun sound => ?_⟩
    · have front := usage.buffer.next?_drain
      have same : usage.buffer.drain.fault = refusal.map .protocol := by
        rw [← fault, split.drained]
      rw [front, same]
      cases refusal <;> rfl
    · rw [sound] at fault
      have thrifty := Usage.isThrifty_of_sound (.start limit) fault
      have all : usage.given = left := split.all.mpr ⟨trivial, thrifty⟩
      rw [split.drained] at same
      have whole := (FrameBuffer.mk usage.fed limit).drain_whole.1
      rw [split.drained] at whole
      refine ⟨?_, same ▸ whole⟩
      rw [all]
      exact same
  · have buffer : usage.buffer = ⟨header.encode ++ octets, limit⟩ := by rw [← held, ← limited]
    rw [buffer]
    exact next?_of_header fits
  · intro later
    have buffer : usage.buffer = ⟨header.encode ++ octets, limit⟩ := by rw [← held, ← limited]
    have refused := Framed.next?_refused octets excess
    rw [← buffer] at refused
    obtain ⟨added, after⟩ := Usage.after_of_refused refused more
    have still : later.buffer.next? =
        .error (.protocol (.oversized header.len.toNat limit.toNat)) := by
      change (usage.after more).buffer.next? = _
      rw [after]
      exact next?_append_of_refused refused added
    have same : later.buffer.limit = limit := (congrArg (·.buffer.limit) after).trans limited
    refine ⟨still, ?_, ⟨added, after⟩, congrArg (FrameBuffer.mk []) same⟩
    simp only [Usage.call, still]

end RequestMux.Wire
