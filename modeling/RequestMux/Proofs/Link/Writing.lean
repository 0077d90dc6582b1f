import Mathlib.Data.List.Infix
import RequestMux.Link.Writer

/-!
# What a writer puts on its socket

A writer has some bytes outstanding: the rest of the buffer it holds, and the buffers that
wait.  What it puts on the socket comes off the front of these, whatever the socket answers.
-/

namespace RequestMux.Link

/-- How much of a buffer is with the socket, however its writing stands. -/
structure IsOffered (size accepted total : Nat) (standing : Standing) : Prop where
  grown : accepted ≤ total
  fits : total ≤ size
  whole : standing = .complete → total = size
  cut : ∀ failure, standing = .failed failure true → total < size

namespace IsOffered

theorem more {size accepted middle total : Nat} {standing : Standing} (grown : accepted ≤ middle)
    (offered : IsOffered size middle total standing) : IsOffered size accepted total standing :=
  ⟨Nat.le_trans grown offered.grown, offered.fits, offered.whole, offered.cut⟩

theorem short {size accepted : Nat} {standing : Standing} (short : accepted < size)
    (going : standing ≠ .complete) : IsOffered size accepted accepted standing :=
  ⟨Nat.le_refl _, Nat.le_of_lt short, fun whole => absurd whole going, fun _ _ => short⟩

theorem full {size accepted : Nat} {standing : Standing} (fits : accepted ≤ size)
    (uncut : ∀ failure, standing ≠ .failed failure true) :
    IsOffered size accepted size standing :=
  ⟨fits, Nat.le_refl _, fun _ => rfl, fun failure cut => absurd cut (uncut failure)⟩

end IsOffered

/-- Every call that is answered takes the writing further, or ends it. -/
theorem offer_isOffered {size accepted : Nat} (fits : accepted ≤ size) (writes : List Act) :
    IsOffered size accepted (offer size accepted writes).1 (offer size accepted writes).2.1 := by
  induction writes generalizing accepted with
  | nil =>
      unfold offer
      split
      · next whole =>
          rw [Nat.le_antisymm fits whole]
          exact .full (Nat.le_refl _) nofun
      · exact .full fits nofun
  | cons act rest ih =>
      unfold offer
      split
      · next whole =>
          rw [Nat.le_antisymm fits whole]
          exact .full (Nat.le_refl _) nofun
      · next open_ =>
          have short : accepted < size := Nat.lt_of_not_le open_
          cases act with
          | acceptAll => exact .full fits nofun
          | fail failure => exact .short short nofun
          | block => exact .short short nofun
          | accept most =>
              dsimp only
              split
              · exact .short short nofun
              · have further : accepted ≤ min size (accepted + most) :=
                  Nat.le_min.mpr ⟨fits, Nat.le_add_right _ _⟩
                exact (ih (Nat.min_le_left _ _)).more further

/-- A buffer whose writing failed with everything accepted was not cut off. -/
theorem writeBuffer_isOffered {size accepted : Nat} (fits : accepted ≤ size) (script : Script) :
    IsOffered size accepted (writeBuffer size accepted script).1
      (writeBuffer size accepted script).2.1 := by
  have offered := offer_isOffered fits script.writes
  unfold writeBuffer
  split
  · next total writes answer =>
      rw [answer] at offered
      have flushed : ∀ failure, (flush script.flushes).1 ≠ .failed failure true := by
        intro failure
        unfold flush
        split
        · exact nofun
        · exact nofun
        · exact nofun
        · exact nofun
      have whole : total = size := offered.whole rfl
      subst whole
      exact .full fits flushed
  · next total standing writes going answer =>
      rw [answer] at offered
      exact offered

namespace Writer

/-- The bytes that a writer was handed and has not put on its socket. -/
def outstanding (writer : Writer) : Bytes :=
  (writer.held.toList.flatMap fun held => held.octets.drop held.accepted) ++ writer.waiting.flatten

/-- How many buffers a writer has. -/
def load (writer : Writer) : Nat := writer.held.toList.length + writer.waiting.length

/-- A writer that holds no more than it was handed. -/
def IsFit (writer : Writer) : Prop := ∀ held ∈ writer.held, held.accepted ≤ held.octets.length

end Writer

/-- What a run of a writer does. -/
structure Writing.IsRunOf (writing : Writing) (writer : Writer) : Prop where
  sent : writing.sent <+: writer.outstanding
  fit : writing.writer.IsFit
  rest : writing.writer.halted = false →
    writer.outstanding = writing.sent ++ writing.writer.outstanding
  load : writing.writer.load + writing.report.toList.length = writer.load
  /-- A buffer that was cut off is not on the socket as a whole. -/
  cut : ∀ failure, writing.report = some (.writeFailed failure true) →
    writing.sent.length < writer.outstanding.length
  failed : ∀ failure part, writing.report = some (.writeFailed failure part) →
    writing.writer.halted = true

namespace Writer

/-- To go on with a buffer is a run of a writer that holds it. -/
theorem goOn_isRunOf {octets : Bytes} {accepted : Nat} (fits : accepted ≤ octets.length)
    (waiting : List Bytes) (script : Script) {writer : Writer}
    (outstanding : writer.outstanding = octets.drop accepted ++ waiting.flatten)
    (load : writer.load = waiting.length + 1) :
    (goOn octets accepted waiting script).IsRunOf writer := by
  have offered := writeBuffer_isOffered fits script
  unfold goOn
  generalize writeBuffer octets.length accepted script = answer at offered ⊢
  obtain ⟨total, standing, left⟩ := answer
  dsimp only at offered ⊢
  have split : octets.drop accepted = (octets.take total).drop accepted ++ octets.drop total := by
    have whole : octets.drop accepted = (octets.take total ++ octets.drop total).drop accepted := by
      rw [List.take_append_drop]
    have grown : accepted ≤ (octets.take total).length := by
      rw [List.length_take]
      exact Nat.le_min.mpr ⟨offered.grown, fits⟩
    rw [whole, List.drop_append_of_le_length grown]
  have sent : (octets.take total).drop accepted <+: writer.outstanding := by
    rw [outstanding, split, List.append_assoc]
    exact List.prefix_append _ _
  cases standing with
  | complete =>
      refine ⟨sent, nofun, fun _ => ?_, ?_, nofun, nofun⟩
      · have whole : octets.drop total = [] := by
          rw [offered.whole rfl]
          exact List.drop_length
        rw [outstanding, split, whole, List.append_nil]
        rfl
      · rw [load]
        exact congrArg (· + 1) (Nat.zero_add _)
  | failed failure part =>
      refine ⟨sent, nofun, nofun, ?_, fun other cutOff => ?_, fun _ _ _ => rfl⟩
      · rw [load]
        exact congrArg (· + 1) (Nat.zero_add _)
      · cases cutOff
        have short : total < octets.length := offered.cut failure rfl
        rw [outstanding, split]
        simp only [List.length_append, List.length_drop, List.length_take]
        omega
  | blocked =>
      refine ⟨sent, ?_, fun _ => ?_, ?_, nofun, nofun⟩
      · rintro held ⟨⟩
        exact offered.fits
      · rw [outstanding, split, List.append_assoc]
        change _ = _ ++ (([_].flatMap _) ++ _)
        rw [List.flatMap_singleton]
      · rw [load]
        change 1 + waiting.length + 0 = waiting.length + 1
        omega

/-- A run of a writer that a failure stopped does nothing. -/
theorem run_of_halted {writer : Writer} (halted : writer.halted = true) (script : Script) :
    writer.run script = ⟨[], none, writer, script⟩ := by
  unfold run
  simp [halted]

theorem run_isRunOf {writer : Writer} (fit : writer.IsFit) (script : Script) :
    (writer.run script).IsRunOf writer := by
  have idle : (⟨[], none, writer, script⟩ : Writing).IsRunOf writer :=
    ⟨List.nil_prefix, fit, fun _ => rfl, rfl, nofun, nofun⟩
  unfold run
  dsimp only
  split
  · exact idle
  · cases here : writer.held with
    | some held =>
        have outstanding : writer.outstanding =
            held.octets.drop held.accepted ++ writer.waiting.flatten := by
          rw [Writer.outstanding, here]
          simp
        refine goOn_isRunOf (fit held here) writer.waiting script outstanding ?_
        rw [load, here]
        exact Nat.add_comm _ _
    | none =>
        cases there : writer.waiting with
        | cons octets waiting =>
            have outstanding : writer.outstanding = octets.drop 0 ++ waiting.flatten := by
              rw [Writer.outstanding, here, there]
              simp
            refine goOn_isRunOf (Nat.zero_le _) waiting script outstanding ?_
            rw [load, here, there]
            exact Nat.zero_add _
        | nil => exact idle

/-- A buffer that is handed over is outstanding behind the others. -/
theorem outstanding_hand (writer : Writer) (octets : Bytes) :
    (writer.hand octets).outstanding = writer.outstanding ++ octets := by
  unfold outstanding hand
  rw [List.append_assoc, List.flatten_append]
  simp

theorem load_hand (writer : Writer) (octets : Bytes) :
    (writer.hand octets).load = writer.load + 1 := by
  unfold load hand
  rw [List.length_append]
  rfl

/-- Two writers that have the same to write. -/
structure IsLike (writer other : Writer) : Prop where
  outstanding : other.outstanding = writer.outstanding
  load : other.load = writer.load
  halted : other.halted = writer.halted
  fit : writer.IsFit → other.IsFit

namespace IsLike

theorem refl (writer : Writer) : IsLike writer writer := ⟨rfl, rfl, rfl, id⟩

theorem trans {first second third : Writer} (one : IsLike first second)
    (two : IsLike second third) : IsLike first third where
  outstanding := two.outstanding.trans one.outstanding
  load := two.load.trans one.load
  halted := two.halted.trans one.halted
  fit fits := two.fit (one.fit fits)

end IsLike

/-- To let a call go moves no bytes. -/
theorem isLike_release (writer : Writer) : IsLike writer writer.release := by
  constructor
  case outstanding =>
    unfold outstanding release
    cases writer.held <;> rfl
  case load =>
    unfold load release
    cases writer.held <;> rfl
  case halted => rfl
  case fit =>
    intro fit held member
    obtain ⟨prior, here, rfl⟩ := Option.map_eq_some_iff.mp member
    exact fit prior here

end Writer

end RequestMux.Link
