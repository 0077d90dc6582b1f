import RequestMux.Link.Reader
import RequestMux.Proofs.Wire.Splitting

/-!
# What a reader makes of a stream

Whatever the pieces of a stream and however often the reader is interrupted, what it has
given out are frames of the stream, in order, and what it holds is the rest.
-/

namespace RequestMux.Wire

/-- The bytes in front of the first fault. -/
def octetsIn : List Piece → Bytes
  | .chunk octets :: rest => octets ++ octetsIn rest
  | _ => []

theorem octetsIn_chunks (chunks : List Bytes) (rest : List Piece) :
    octetsIn (chunks.map .chunk ++ rest) = chunks.flatten ++ octetsIn rest := by
  induction chunks with
  | nil => rfl
  | cons octets chunks ih =>
      change octets ++ octetsIn (chunks.map .chunk ++ rest) = _
      rw [ih, List.flatten_cons, List.append_assoc]

/-- Chunks that were taken one after the other, each when less than was wanted was there. -/
def AreNeeded (wanted : Nat) (chunks : List Bytes) : Prop :=
  ∀ early octets later, chunks = early ++ octets :: later → early.flatten.length < wanted

theorem AreNeeded.nil (wanted : Nat) : AreNeeded wanted [] := by simp [AreNeeded]

theorem AreNeeded.singleton {wanted : Nat} (positive : 0 < wanted) (octets : Bytes) :
    AreNeeded wanted [octets] := by
  intro early last later same
  cases early with
  | nil => exact positive
  | cons first early => simp at same

theorem AreNeeded.cons {missing wanted : Nat} {octets : Bytes} {chunks : List Bytes}
    (positive : 0 < wanted) (less : missing + octets.length ≤ wanted)
    (needed : AreNeeded missing chunks) : AreNeeded wanted (octets :: chunks) := by
  intro early last later same
  cases early with
  | nil => exact positive
  | cons first early =>
      obtain ⟨rfl, behind⟩ := List.cons.inj same
      have := needed early last later behind
      rw [List.flatten_cons, List.length_append]
      omega

/-- What an intake took are the bytes of the chunks that are gone, and these were needed. -/
theorem Intake.gather_needed (missing : Nat) (pieces : List Piece) :
    ∃ taken : List Bytes, pieces = taken.map .chunk ++ (gather missing pieces).rest ∧
      (gather missing pieces).octets = taken.flatten ∧ AreNeeded (max missing 1) taken := by
  have positive : ∀ missing, 0 < max missing 1 := by omega
  induction pieces generalizing missing with
  | nil => exact ⟨[], rfl, rfl, .nil _⟩
  | cons piece rest ih =>
      cases piece with
      | fault failure => exact ⟨[], rfl, rfl, .nil _⟩
      | chunk octets =>
          unfold gather
          split
          · next nothing =>
              obtain rfl : octets = [] := List.isEmpty_iff.mp nothing
              obtain ⟨taken, whole, same, needed⟩ := ih missing
              exact ⟨[] :: taken, congrArg (.chunk [] :: ·) whole, same,
                needed.cons (positive missing) (Nat.le_refl _)⟩
          · split
            · exact ⟨[octets], rfl, rfl, .singleton (positive missing) octets⟩
            · obtain ⟨taken, whole, same, needed⟩ := ih (missing - octets.length)
              exact ⟨octets :: taken, congrArg (.chunk octets :: ·) whole,
                congrArg (octets ++ ·) same, needed.cons (positive missing) (by omega)⟩

theorem Intake.gather_taken (missing : Nat) (pieces : List Piece) :
    ∃ taken : List Bytes, pieces = taken.map .chunk ++ (gather missing pieces).rest ∧
      (gather missing pieces).octets = taken.flatten := by
  obtain ⟨taken, whole, same, -⟩ := gather_needed missing pieces
  exact ⟨taken, whole, same⟩

end RequestMux.Wire

namespace RequestMux.Link

open Wire (FrameBuffer Intake Packet Piece framesIn framesIn_append)

/-- What a reading took off the stream, and that it gave out the frames of it. -/
structure Reading.IsOf (reading : Reading) (frames : FrameBuffer) (pieces : List Piece)
    (taken : List Bytes) : Prop where
  whole : pieces = taken.map .chunk ++ reading.rest
  limit : reading.reader.frames.limit = frames.limit
  cut : ∀ future, framesIn frames.limit (frames.held ++ taken.flatten ++ future) =
    reading.frames ++ framesIn frames.limit (reading.reader.frames.held ++ future)

theorem Reader.advance_isOf (ended : Bool) (frames : FrameBuffer) (missing : Nat)
    (pieces : List Piece) :
    ∃ taken, (advance ended frames missing pieces).IsOf frames pieces taken := by
  induction length : pieces.length using Nat.strongRecOn generalizing frames missing pieces with
  | _ count ih =>
      obtain ⟨taken, whole, octets⟩ := Intake.gather_taken missing pieces
      let filled := frames.append (Intake.gather missing pieces).octets
      have held : filled.held = frames.held ++ taken.flatten := congrArg (frames.held ++ ·) octets
      have limit : filled.drain.buffer.limit = frames.limit := filled.drain_whole.2.1
      have cut (future : Bytes) : framesIn frames.limit (frames.held ++ taken.flatten ++ future) =
          filled.drain.frames ++ framesIn frames.limit (filled.drain.buffer.held ++ future) := by
        rw [← held]
        exact framesIn_append filled future
      rw [advance]
      dsimp only
      split
      · refine ⟨taken, whole, rfl, fun future => ?_⟩
        rw [← held]
        rfl
      · split
        · refine ⟨taken, whole, rfl, fun future => ?_⟩
          rw [← held]
          rfl
        · refine ⟨taken, whole, rfl, fun future => ?_⟩
          rw [← held]
          rfl
      · next enough =>
          split
          · exact ⟨taken, whole, limit, cut⟩
          · have shorter : (Intake.gather missing pieces).rest.length < count :=
              length ▸ Intake.length_rest_lt enough
            obtain ⟨more, later⟩ := ih _ shorter filled.drain.buffer filled.drain.buffer.wanted _ rfl
            refine ⟨taken ++ more, ?_, later.limit.trans limit, fun future => ?_⟩
            · rw [List.map_append, List.append_assoc, ← later.whole]
              exact whole
            · have next := later.cut future
              rw [limit, List.append_assoc] at next
              rw [List.flatten_append, ← List.append_assoc, List.append_assoc _ more.flatten, cut,
                next, List.append_assoc]

/-- A run of a reader gives out frames of what it takes off the stream. -/
theorem Reader.run_isOf (ended : Bool) (reader : Reader) (pieces : List Piece) :
    ∃ taken, (reader.run ended pieces).IsOf reader.frames pieces taken := by
  unfold run
  split
  · refine ⟨[], rfl, rfl, fun future => ?_⟩
    rw [List.flatten_nil, List.append_nil]
    rfl
  · exact advance_isOf ended reader.frames reader.missing pieces

end RequestMux.Link
