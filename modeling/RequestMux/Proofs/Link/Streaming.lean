import RequestMux.Proofs.Link.Reading

/-!
# The reader and the cutting of the stream

What a run of the reader gives depends on the bytes that are there, on the failure behind
them and on whether the stream ends, and not on how the bytes are cut.  Whatever the read
under way misses, the outcome is that of a frame buffer into which all the bytes go at
once.
-/

namespace RequestMux.Wire

/-- The first failure among some pieces. -/
def faultIn : List Piece → Option IoFailure
  | [] => none
  | .chunk _ :: rest => faultIn rest
  | .fault failure :: _ => some failure

theorem faultIn_chunks (chunks : List Bytes) (rest : List Piece) :
    faultIn (chunks.map .chunk ++ rest) = faultIn rest := by
  induction chunks with
  | nil => rfl
  | cons octets chunks ih => exact ih

theorem faultIn_append (pieces more : List Piece) :
    faultIn (pieces ++ more) = (faultIn pieces).or (faultIn more) := by
  induction pieces with
  | nil => rfl
  | cons piece rest ih =>
      cases piece with
      | chunk octets => exact ih
      | fault failure => rfl

theorem octetsIn_append_of_none {pieces : List Piece} (sound : faultIn pieces = none)
    (more : List Piece) : octetsIn (pieces ++ more) = octetsIn pieces ++ octetsIn more := by
  induction pieces with
  | nil => rfl
  | cons piece rest ih =>
      cases piece with
      | chunk octets =>
          change octets ++ octetsIn (rest ++ more) = octets ++ octetsIn rest ++ octetsIn more
          rw [ih sound, List.append_assoc]
      | fault failure => cases sound

/-- Behind a failure nothing is read. -/
theorem octetsIn_append_of_some {pieces : List Piece} {failure : IoFailure}
    (failed : faultIn pieces = some failure) (more : List Piece) :
    octetsIn (pieces ++ more) = octetsIn pieces := by
  induction pieces with
  | nil => cases failed
  | cons piece rest ih =>
      cases piece with
      | chunk octets => exact congrArg (octets ++ ·) (ih failed)
      | fault failure => rfl

namespace Intake

/-- Whether the bytes of some pieces do not suffice for a read. -/
def IsShort (missing : Nat) (pieces : List Piece) : Prop :=
  octetsIn pieces = [] ∨ (octetsIn pieces).length < missing

/-- A read that is not satisfied has taken all the bytes. -/
theorem gather_of_short {missing : Nat} {pieces : List Piece} (short : IsShort missing pieces) :
    (gather missing pieces).octets = octetsIn pieces ∧
      (gather missing pieces).stop =
        (faultIn pieces).elim (.dry (missing - (octetsIn pieces).length)) .failed ∧
      (faultIn pieces = none → (gather missing pieces).rest = []) := by
  induction pieces generalizing missing with
  | nil => exact ⟨rfl, rfl, fun _ => rfl⟩
  | cons piece rest ih =>
      cases piece with
      | fault failure => exact ⟨rfl, rfl, nofun⟩
      | chunk octets =>
          by_cases empty : octets = []
          · subst empty
            exact ih short
          · have given : octets.isEmpty = false := by
              rw [Bool.eq_false_iff]
              exact fun none_given => empty (List.isEmpty_iff.mp none_given)
            have total : (octetsIn (.chunk octets :: rest)).length =
                octets.length + (octetsIn rest).length := List.length_append
            have less : (octetsIn (.chunk octets :: rest)).length < missing :=
              short.resolve_left fun none => empty (List.append_eq_nil_iff.mp none).1
            rw [total] at less
            have unmet : ¬missing ≤ octets.length := by omega
            obtain ⟨taken, stopped, left⟩ :=
              ih (.inr (by omega : (octetsIn rest).length < missing - octets.length))
            rw [Nat.sub_sub] at stopped
            unfold gather
            rw [if_neg (Bool.eq_false_iff.mp given), if_neg unmet, total]
            exact ⟨congrArg (octets ++ ·) taken, stopped, left⟩

/-- A read is satisfied where the bytes suffice. -/
theorem gather_of_not_short {missing : Nat} {pieces : List Piece}
    (enough : ¬IsShort missing pieces) : (gather missing pieces).stop = .enough := by
  induction pieces generalizing missing with
  | nil => exact absurd (.inl rfl) enough
  | cons piece rest ih =>
      cases piece with
      | fault failure => exact absurd (.inl rfl) enough
      | chunk octets =>
          have total : (octetsIn (.chunk octets :: rest)).length =
              octets.length + (octetsIn rest).length := List.length_append
          have bound := Nat.le_of_not_lt (not_or.mp enough).2
          rw [total] at bound
          unfold gather
          split
          · next none_given =>
              have empty : octets = [] := List.isEmpty_iff.mp none_given
              subst empty
              exact ih enough
          · split
            · rfl
            · next unmet =>
                refine ih (not_or.mpr ⟨fun none => ?_, by omega⟩)
                rw [none] at bound
                exact unmet bound

/-- What a read leaves is what its bytes were taken from. -/
theorem octetsIn_gather (missing : Nat) (pieces : List Piece) :
    octetsIn pieces = (gather missing pieces).octets ++ octetsIn (gather missing pieces).rest ∧
      faultIn pieces = faultIn (gather missing pieces).rest := by
  obtain ⟨taken, whole, octets⟩ := gather_taken missing pieces
  generalize gather missing pieces = intake at whole octets
  rw [whole, octets, octetsIn_chunks, faultIn_chunks]
  exact ⟨rfl, rfl⟩

end Intake

/-- A buffer that wants more bytes than have come still gives nothing, and wants the others. -/
theorem FrameBuffer.wanted_append {buffer : FrameBuffer} {octets : Bytes}
    (dry : buffer.next? = .ok none) (few : octets.length < buffer.wanted) :
    (buffer.append octets).next? = .ok none ∧
      (buffer.append octets).wanted = buffer.wanted - octets.length := by
  have length : (buffer.append octets).held.length = buffer.held.length + octets.length :=
    List.length_append
  unfold wanted shortfall at few ⊢
  cases found : Header.decode? buffer.held with
  | none =>
      have headless := Header.decode?_eq_none_iff.mp found
      rw [found] at few
      dsimp only at few
      have still : Header.decode? (buffer.append octets).held = none :=
        Header.decode?_eq_none_iff.mpr (by omega)
      rw [still]
      refine ⟨by simp only [next?, still], ?_⟩
      dsimp only
      omega
  | some header =>
      obtain ⟨fits, incomplete⟩ := (next?_eq_dry_iff found).mp dry
      rw [found] at few
      dsimp only at few
      have leads : Header.decode? (buffer.append octets).held = some header :=
        Header.decode?_append found octets
      rw [leads]
      refine ⟨(next?_eq_dry_iff leads).mpr ⟨fits, by omega⟩, ?_⟩
      dsimp only
      omega

end RequestMux.Wire

namespace RequestMux.Link

open Wire (FrameBuffer Intake Packet Piece faultIn octetsIn)

/-- How a stream stops behind its bytes: by its failure, or by its end; not at all if more may
come. -/
def closing (ended : Bool) (pieces : List Piece) : Option ClientError :=
  ((faultIn pieces).map .io).or (if ended then some .connectionClosed else none)

/-- What a run gives, and what the reader keeps if it goes on. -/
structure Reading.Gives (reading : Reading) (packets : List Packet)
    (stop : Option ClientError) (kept : FrameBuffer) (left : Nat) : Prop where
  frames : reading.frames = packets
  fault : reading.fault = stop
  halted : reading.reader.halted = stop.isSome
  going : stop = none → reading.reader = ⟨kept, left, false⟩ ∧ reading.rest = []

namespace Reader

variable {ended : Bool} {frames : FrameBuffer} {missing : Nat} {pieces : List Piece}

theorem advance_failed {failure : IoFailure}
    (failed : (Intake.gather missing pieces).stop = .failed failure) :
    advance ended frames missing pieces =
      ⟨[], some (.io failure),
        ⟨frames.append (Intake.gather missing pieces).octets, missing, true⟩,
        (Intake.gather missing pieces).rest⟩ := by
  rw [advance]
  dsimp only
  split
  · next other =>
      cases failed.symm.trans other
      rfl
  · next other => cases failed.symm.trans other
  · next other => cases failed.symm.trans other

theorem advance_dry {left : Nat} (dry : (Intake.gather missing pieces).stop = .dry left) :
    advance ended frames missing pieces =
      ⟨[], if ended then some .connectionClosed else none,
        ⟨frames.append (Intake.gather missing pieces).octets,
          left, ended⟩,
        (Intake.gather missing pieces).rest⟩ := by
  rw [advance]
  dsimp only
  split
  · next other => cases dry.symm.trans other
  · next other =>
      cases dry.symm.trans other
      cases ended <;> rfl
  · next other => cases dry.symm.trans other

theorem advance_enough (enough : (Intake.gather missing pieces).stop = .enough) :
    advance ended frames missing pieces =
      let drained := (frames.append (Intake.gather missing pieces).octets).drain
      let rest := (Intake.gather missing pieces).rest
      match drained.fault with
      | some fault => ⟨drained.frames, some fault, ⟨drained.buffer, missing, true⟩, rest⟩
      | none =>
        let later := advance ended drained.buffer drained.buffer.wanted rest
        { later with frames := drained.frames ++ later.frames } := by
  rw [advance]
  dsimp only
  split
  · next other => cases enough.symm.trans other
  · next other => cases enough.symm.trans other
  · rfl

/-- Where the bytes do not suffice, they are kept. -/
theorem advance_of_short (short : Intake.IsShort missing pieces) :
    (advance ended frames missing pieces).Gives [] (closing ended pieces)
      (frames.append (octetsIn pieces)) (missing - (octetsIn pieces).length) := by
  obtain ⟨taken, stopped, left⟩ := Intake.gather_of_short short
  unfold closing
  cases failing : faultIn pieces with
  | some failure =>
      rw [failing] at stopped
      rw [advance_failed stopped]
      exact ⟨rfl, rfl, rfl, nofun⟩
  | none =>
      rw [failing] at stopped
      rw [advance_dry stopped, taken, left failing]
      cases ended with
      | true => exact ⟨rfl, rfl, rfl, nofun⟩
      | false => exact ⟨rfl, rfl, rfl, fun _ => ⟨rfl, rfl⟩⟩

/-- What the reader of a buffer gives into which all the bytes have gone. -/
def GivesAll (reading : Reading) (ended : Bool) (frames : FrameBuffer) (pieces : List Piece) :
    Prop :=
  let drained := (frames.append (octetsIn pieces)).drain
  reading.Gives drained.frames (drained.fault.or (closing ended pieces)) drained.buffer
    drained.buffer.wanted

/-- A satisfied read gives what all the bytes give if what follows does. -/
theorem givesAll_of_enough (enough : ¬Intake.IsShort missing pieces)
    (later : ∀ (frames : FrameBuffer) (rest : List Piece), rest.length < pieces.length →
      frames.next? = .ok none →
      GivesAll (advance ended frames frames.wanted rest) ended frames rest) :
    GivesAll (advance ended frames missing pieces) ended frames pieces := by
  have satisfied := Intake.gather_of_not_short enough
  obtain ⟨octets, faults⟩ := Intake.octetsIn_gather missing pieces
  have shorter := Intake.length_rest_lt satisfied
  rw [advance_enough satisfied]
  unfold GivesAll closing
  rw [octets, faults]
  generalize Intake.gather missing pieces = intake at shorter ⊢
  have all : frames.append (intake.octets ++ octetsIn intake.rest) =
      (frames.append intake.octets).append (octetsIn intake.rest) :=
    congrArg (fun held => { frames with held }) (List.append_assoc _ _ _).symm
  have front := FrameBuffer.next?_drain (frames.append intake.octets)
  dsimp only
  cases refused : (frames.append intake.octets).drain.fault with
  | some fault =>
      obtain ⟨same, still⟩ := FrameBuffer.drain_append_of_fault refused (octetsIn intake.rest)
      rw [all, same, still]
      exact ⟨rfl, rfl, rfl, nofun⟩
  | none =>
      rw [refused] at front
      obtain ⟨given, stopped, halted, going⟩ := later _ intake.rest shorter front
      have whole :=
        FrameBuffer.drain_append_eq (frames.append intake.octets) (octetsIn intake.rest)
      rw [all, whole]
      exact ⟨congrArg (_ ++ ·) given, stopped, halted, going⟩

/-- A reader that misses what its buffer wants gives what a buffer with all the bytes gives. -/
theorem advance_givesAll (ended : Bool) (pieces : List Piece) (dry : frames.next? = .ok none) :
    GivesAll (advance ended frames frames.wanted pieces) ended frames pieces := by
  -- each read that is satisfied leaves fewer pieces, and a buffer that is dry again
  induction length : pieces.length using Nat.strongRecOn generalizing frames pieces with
  | _ count ih =>
      by_cases short : Intake.IsShort frames.wanted pieces
      · have few : (octetsIn pieces).length < frames.wanted := by
          refine short.elim (fun none => ?_) id
          rw [none]
          exact Nat.lt_of_lt_of_le Nat.one_pos (Nat.le_max_right _ _)
        obtain ⟨still, wanted⟩ := FrameBuffer.wanted_append dry few
        unfold GivesAll
        rw [FrameBuffer.drain_of_dry still]
        dsimp only
        rw [wanted]
        exact advance_of_short short
      · exact givesAll_of_enough short fun frames rest shorter dry =>
          ih _ (length ▸ shorter) rest dry rfl

/-- Where the bytes suffice, it does not matter how much the reader missed. -/
theorem advance_of_not_short (enough : ¬Intake.IsShort missing pieces) :
    GivesAll (advance ended frames missing pieces) ended frames pieces :=
  givesAll_of_enough enough fun _ _ _ dry => advance_givesAll _ _ dry

/-- A reader that goes on after it has taken some bytes. -/
structure HasTaken (limit : UInt32) (taken : Bytes) (reader : Reader) : Prop where
  sound : (FrameBuffer.mk taken limit).drain.fault = none
  frames : reader.frames = (FrameBuffer.mk taken limit).drain.buffer
  missing : reader.missing = (FrameBuffer.mk taken limit).drain.buffer.wanted
  going : reader.halted = false

theorem HasTaken.start (limit : UInt32) : HasTaken limit [] (.start limit) := by
  have empty : (FrameBuffer.mk [] limit).drain = ⟨[], none, .empty limit⟩ :=
    FrameBuffer.drain_empty limit
  refine ⟨?_, ?_, ?_, rfl⟩
  · rw [empty]
  · rw [empty]
    rfl
  · rw [empty]
    rfl

/-- A run gives the frames behind those that were given out before. -/
theorem HasTaken.run {limit : UInt32} {taken : Bytes} {reader : Reader}
    (begun : HasTaken limit taken reader) (ended : Bool) (pieces : List Piece) :
    let all := (FrameBuffer.mk (taken ++ octetsIn pieces) limit).drain
    ∃ later, all.frames = (FrameBuffer.mk taken limit).drain.frames ++ later ∧
      (reader.run ended pieces).Gives later (all.fault.or (closing ended pieces)) all.buffer
        all.buffer.wanted := by
  intro all
  obtain ⟨sound, frames, missing, going⟩ := begun
  have whole : all = _ := FrameBuffer.drain_append_eq ⟨taken, limit⟩ (octetsIn pieces)
  have dry := FrameBuffer.next?_drain ⟨taken, limit⟩
  rw [sound] at dry
  have gives := advance_givesAll ended pieces dry
  have ran : reader.run ended pieces = advance ended (FrameBuffer.mk taken limit).drain.buffer
      (FrameBuffer.mk taken limit).drain.buffer.wanted pieces := by
    rw [Reader.run, going, frames, missing]
    rfl
  rw [ran, whole]
  exact ⟨_, rfl, gives⟩

/-- Pieces with the same bytes and the same failure behind them are as good as each other. -/
theorem advance_alike (ended : Bool) (frames : FrameBuffer) (missing : Nat)
    {pieces others : List Piece} (octets : octetsIn pieces = octetsIn others)
    (faults : faultIn pieces = faultIn others) :
    ∃ packets stop kept left,
      (advance ended frames missing pieces).Gives packets stop kept left ∧
      (advance ended frames missing others).Gives packets stop kept left := by
  have stops : closing ended pieces = closing ended others := by rw [closing, faults]; rfl
  by_cases short : Intake.IsShort missing pieces
  · have also : Intake.IsShort missing others := by
      rw [Intake.IsShort, ← octets]
      exact short
    refine ⟨_, _, _, _, advance_of_short short, ?_⟩
    rw [octets, stops]
    exact advance_of_short also
  · have also : ¬Intake.IsShort missing others := by
      rw [Intake.IsShort, ← octets]
      exact short
    refine ⟨_, _, _, _, advance_of_not_short short, ?_⟩
    rw [octets, stops]
    exact advance_of_not_short also

end Reader

end RequestMux.Link
