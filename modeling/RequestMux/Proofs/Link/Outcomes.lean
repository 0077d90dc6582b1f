import RequestMux.Proofs.Link.Writing

/-!
# What a writer reports of a buffer

A writer calls its socket until all of a buffer is accepted, or until a call accepts nothing of
it, and flushes in the first case.  A call that is held back gets its answer when it is let go.
The report tells what has become of the buffer: whether all of it is with the socket, and if
not, whether the buffer was cut off part-way.
-/

namespace RequestMux.Link

/-- How a call is answered in the end. -/
inductive Answer where
  | took (count : Nat)
  /-- Nothing was accepted, without a failure. -/
  | nothing
  | failed (failure : IoFailure)
  deriving DecidableEq, Repr

/-- The bytes that a call got accepted. -/
def Answer.count : Answer → Nat
  | .took count => count
  | _ => 0

/-- The answer to a call that offers some bytes, unless it is held back. -/
def Act.answer? (offered : Nat) : Act → Option Answer
  | .accept most => if most = 0 then some .nothing else some (.took (min offered most))
  | .acceptAll => some (.took offered)
  | .fail failure => some (.failed failure)
  | .block => none

/-- The calls for a buffer of `size` bytes of which some are accepted: their answers in order, and
what the socket has in store behind them. -/
def talk (size accepted : Nat) (writes : List Act) : List Answer × List Act :=
  if size ≤ accepted then ([], writes)
  else
    match writes with
    | [] => ([.took (size - accepted)], [])
    | act :: rest =>
      match act.answer? (size - accepted) with
      | none => talk size accepted rest
      | some (.took count) =>
        let later := talk size (accepted + count) rest
        (.took count :: later.1, later.2)
      | some last => ([last], rest)

/-- The failure with which a flush ends, if it fails. -/
def flushFailure? : List Act → Option IoFailure
  | .block :: rest => flushFailure? rest
  | .fail failure :: _ => some failure
  | _ => none

/-- The bytes that some calls got accepted together. -/
def acceptedBy : List Answer → Nat
  | [] => 0
  | answer :: later => answer.count + acceptedBy later

/-- How many answers a socket has in store. -/
def Script.size (script : Script) : Nat := script.writes.length + script.flushes.length

theorem offer_length_le (size accepted : Nat) (writes : List Act) :
    (offer size accepted writes).2.2.length ≤ writes.length ∧
      ((offer size accepted writes).2.1 = .blocked →
        (offer size accepted writes).2.2.length < writes.length) := by
  induction writes generalizing accepted with
  | nil =>
      unfold offer
      split <;> simp
  | cons act rest ih =>
      unfold offer
      split
      · simp
      · cases act with
        | accept most =>
            dsimp only
            split
            · simp
            · obtain ⟨fewer, less⟩ := ih (min size (accepted + most))
              exact ⟨Nat.le_succ_of_le fewer, fun held => Nat.lt_succ_of_lt (less held)⟩
        | block => simp
        | acceptAll => simp
        | fail failure => simp

theorem length_flush_lt {flushes : List Act} (held : (flush flushes).1 = .blocked) :
    (flush flushes).2.length < flushes.length := by
  cases flushes with
  | nil => cases held
  | cons act rest =>
      cases act with
      | block => exact Nat.lt_succ_self _
      | accept most => cases held
      | acceptAll => cases held
      | fail failure => cases held

/-- A call that is held back has used up an answer. -/
theorem size_writeBuffer_lt {size accepted : Nat} {script : Script}
    (held : (writeBuffer size accepted script).2.1 = .blocked) :
    (writeBuffer size accepted script).2.2.size < script.size := by
  obtain ⟨fewer, less⟩ := offer_length_le size accepted script.writes
  unfold writeBuffer at held ⊢
  unfold Script.size
  split at held
  · next total writes answer =>
      simp only [answer] at fewer ⊢
      have := length_flush_lt held
      omega
  · next total standing writes going answer =>
      simp only [answer] at less
      have := less held
      dsimp only
      omega

/-- Write a buffer until its fate is known, letting go every call that is held back. -/
def writeOut (size accepted : Nat) (script : Script) : Nat × Standing × Script :=
  let done := writeBuffer size accepted script
  if _held : done.2.1 = .blocked then writeOut size done.1 done.2.2 else done
  termination_by script.size
  decreasing_by exact size_writeBuffer_lt _held

section Calls

variable {size accepted : Nat} {act : Act} {rest flushes : List Act}

theorem offer_whole (whole : size ≤ accepted) (writes : List Act) :
    offer size accepted writes = (accepted, .complete, writes) := by
  unfold offer
  simp [whole]

theorem offer_dry (short : accepted < size) :
    offer size accepted [] = offer size size [] := by
  rw [offer_whole (Nat.le_refl size)]
  unfold offer
  simp [Nat.not_le.mpr short]

theorem offer_took {count : Nat} (short : accepted < size)
    (answer : act.answer? (size - accepted) = some (.took count)) :
    offer size accepted (act :: rest) = offer size (accepted + count) rest := by
  conv => lhs; unfold offer
  simp only [Nat.not_le.mpr short, if_false]
  cases act with
  | accept most =>
      simp only [Act.answer?] at answer
      split at answer
      · cases answer
      · next positive =>
          cases answer
          have further : min size (accepted + most) = accepted + min (size - accepted) most := by
            omega
          simp [positive, further]
  | acceptAll =>
      cases answer
      have whole : accepted + (size - accepted) = size := by omega
      simp [whole, offer_whole]
  | fail failure => cases answer
  | block => cases answer

theorem offer_nothing (short : accepted < size)
    (answer : act.answer? (size - accepted) = some .nothing) :
    offer size accepted (act :: rest) = (accepted, .failed acceptedNothing true, rest) := by
  unfold offer
  simp only [Nat.not_le.mpr short, if_false]
  cases act with
  | accept most =>
      simp only [Act.answer?] at answer
      split at answer
      · next zero => simp [zero]
      · cases answer
  | acceptAll => cases answer
  | fail failure => cases answer
  | block => cases answer

theorem offer_failed {failure : IoFailure} (short : accepted < size)
    (answer : act.answer? (size - accepted) = some (.failed failure)) :
    offer size accepted (act :: rest) =
      (accepted, .failed failure (decide (0 < accepted) || failure.interrupted), rest) := by
  unfold offer
  simp only [Nat.not_le.mpr short, if_false]
  cases act with
  | accept most =>
      simp only [Act.answer?] at answer
      split at answer <;> cases answer
  | acceptAll => cases answer
  | fail other =>
      cases answer
      rfl
  | block => cases answer

theorem offer_held (short : accepted < size) (answer : act.answer? (size - accepted) = none) :
    offer size accepted (act :: rest) = (accepted, .blocked, rest) := by
  unfold offer
  simp only [Nat.not_le.mpr short, if_false]
  cases act with
  | accept most =>
      simp only [Act.answer?] at answer
      split at answer <;> cases answer
  | acceptAll => cases answer
  | fail failure => cases answer
  | block => rfl

theorem talk_whole (whole : size ≤ accepted) (writes : List Act) :
    talk size accepted writes = ([], writes) := by
  unfold talk
  simp [whole]

theorem talk_dry (short : accepted < size) :
    talk size accepted [] = ([.took (size - accepted)], []) := by
  unfold talk
  simp [Nat.not_le.mpr short]

theorem talk_took {count : Nat} (short : accepted < size)
    (answer : act.answer? (size - accepted) = some (.took count)) :
    talk size accepted (act :: rest) =
      (.took count :: (talk size (accepted + count) rest).1,
        (talk size (accepted + count) rest).2) := by
  conv => lhs; unfold talk
  simp [Nat.not_le.mpr short, answer]

theorem talk_last {last : Answer} (short : accepted < size)
    (answer : act.answer? (size - accepted) = some last) (idle : ∀ count, last ≠ .took count) :
    talk size accepted (act :: rest) = ([last], rest) := by
  unfold talk
  simp only [Nat.not_le.mpr short, if_false, answer]

theorem talk_held (short : accepted < size) (answer : act.answer? (size - accepted) = none) :
    talk size accepted (act :: rest) = talk size accepted rest := by
  conv => lhs; unfold talk
  simp [Nat.not_le.mpr short, answer]

/-- What is done with a buffer depends on what comes of offering it. -/
theorem writeOut_congr {other : Nat} {writes left : List Act}
    (same : offer size accepted writes = offer size other left) :
    writeOut size accepted ⟨writes, flushes⟩ = writeOut size other ⟨left, flushes⟩ := by
  have written : writeBuffer size accepted ⟨writes, flushes⟩ =
      writeBuffer size other ⟨left, flushes⟩ := by
    unfold writeBuffer
    rw [same]
  rw [writeOut, written, ← writeOut]

theorem writeOut_of_failed {writes left : List Act} {total : Nat} {failure : IoFailure}
    {part : Bool} (ends : offer size accepted writes = (total, .failed failure part, left)) :
    writeOut size accepted ⟨writes, flushes⟩ =
      (total, .failed failure part, ⟨left, flushes⟩) := by
  rw [writeOut, writeBuffer, ends]
  simp

theorem writeOut_held (short : accepted < size)
    (answer : act.answer? (size - accepted) = none) :
    writeOut size accepted ⟨act :: rest, flushes⟩ = writeOut size accepted ⟨rest, flushes⟩ := by
  rw [writeOut, writeBuffer, offer_held short answer]
  simp

/-- How a buffer ends of which everything is accepted. -/
def flushed (failure? : Option IoFailure) : Standing :=
  failure?.elim .complete fun failure => .failed failure false

/-- A buffer that is with the socket is flushed, however often that is held back. -/
theorem writeOut_whole (size : Nat) (writes flushes : List Act) :
    ∃ left, writeOut size size ⟨writes, flushes⟩ =
      (size, flushed (flushFailure? flushes), ⟨writes, left⟩) := by
  induction flushes with
  | nil =>
      rw [writeOut, writeBuffer, offer_whole (Nat.le_refl size)]
      exact ⟨[], by simp [flush, flushFailure?, flushed]⟩
  | cons act rest ih =>
      rw [writeOut, writeBuffer, offer_whole (Nat.le_refl size)]
      cases act with
      | block => simpa [flush, flushFailure?] using ih
      | accept most => exact ⟨rest, by simp [flush, flushFailure?, flushed]⟩
      | acceptAll => exact ⟨rest, by simp [flush, flushFailure?, flushed]⟩
      | fail failure => exact ⟨rest, by simp [flush, flushFailure?, flushed]⟩

end Calls

/-- What a buffer of `size` bytes, of which some are accepted, comes to when the calls for it are
answered in this way, and then the flush. -/
structure IsFate (size accepted : Nat) (answers : List Answer) (flushing : Option IoFailure)
    (total : Nat) (standing : Standing) : Prop where
  counted : total = accepted + acceptedBy answers
  fits : total ≤ size
  /-- Every call but the last gets something accepted. -/
  progress : ∀ answer ∈ answers.dropLast, 0 < answer.count
  short : answers.length ≤ size - accepted
  ended : standing ≠ .blocked
  complete : standing = .complete ↔ total = size ∧ flushing = none
  part : ∀ failure, standing = .failed failure true ↔
    answers.getLast? = some .nothing ∧ failure = acceptedNothing ∨
      answers.getLast? = some (.failed failure) ∧ (failure.interrupted = true ∨ 0 < total)
  cut : ∀ failure, standing = .failed failure true → total < size
  uncut : ∀ failure, standing = .failed failure false ↔
    answers.getLast? = some (.failed failure) ∧ failure.interrupted = false ∧ total = 0 ∨
      total = size ∧ flushing = some failure

namespace IsFate

variable {size accepted total : Nat} {answers : List Answer} {flushing : Option IoFailure}
  {standing : Standing}

theorem whole (size : Nat) (flushing : Option IoFailure) :
    IsFate size size [] flushing size (flushed flushing) := by
  cases flushing <;> constructor <;> simp [flushed, acceptedBy]

/-- A call that got nothing accepted is the last one. -/
theorem stuck {answer : Answer} (short : accepted < size) (idle : answer.count = 0)
    {failure : IoFailure} {part : Bool} (flushing : Option IoFailure)
    (judged : ∀ other kind, failure = other ∧ part = kind ↔
      answer = .nothing ∧ other = acceptedNothing ∧ kind = true ∨
        answer = .failed other ∧ kind = (decide (0 < accepted) || other.interrupted)) :
    IsFate size accepted [answer] flushing accepted (.failed failure part) := by
  have not_whole : accepted ≠ size := Nat.ne_of_lt short
  constructor
  case counted => simp [acceptedBy, idle]
  case fits => exact Nat.le_of_lt short
  case progress => simp
  case short =>
    rw [List.length_singleton]
    omega
  case ended => simp
  case complete => simp [not_whole]
  case part =>
    intro other
    simpa [or_comm] using judged other true
  case cut => exact fun _ _ => short
  case uncut =>
    intro other
    simpa [not_whole, and_comm] using judged other false

theorem nothing (short : accepted < size) (flushing : Option IoFailure) :
    IsFate size accepted [.nothing] flushing accepted (.failed acceptedNothing true) := by
  apply stuck short rfl
  simp [eq_comm]

theorem failed (short : accepted < size) (flushing : Option IoFailure) (failure : IoFailure) :
    IsFate size accepted [.failed failure] flushing accepted
      (.failed failure (decide (0 < accepted) || failure.interrupted)) := by
  apply stuck short rfl
  intro other kind
  constructor
  · rintro ⟨rfl, rfl⟩
    simp
  · intro same
    obtain ⟨⟨⟩, -⟩ | ⟨⟨⟩, kind⟩ := same
    exact ⟨rfl, kind.symm⟩

/-- One more call in front, which got something accepted. -/
theorem took {count : Nat} (positive : 0 < count) (fits : accepted + count ≤ size)
    (fate : IsFate size (accepted + count) answers flushing total standing) :
    IsFate size accepted (.took count :: answers) flushing total standing := by
  have last : ∀ answer, (∀ other, answer ≠ .took other) →
      ((Answer.took count :: answers).getLast? = some answer ↔
        answers.getLast? = some answer) := by
    intro answer idle
    cases answers with
    | nil => simpa using fun same => idle count same.symm
    | cons first later => rw [List.getLast?_cons_cons]
  constructor
  case counted =>
    rw [fate.counted]
    simp only [acceptedBy, Answer.count]
    omega
  case fits => exact fate.fits
  case progress =>
    cases answers with
    | nil => simp
    | cons first later =>
        simpa [Answer.count, positive] using fate.progress
  case short =>
    have := fate.short
    rw [List.length_cons]
    omega
  case ended => exact fate.ended
  case complete => exact fate.complete
  case part =>
    intro failure
    rw [last .nothing (by simp), last (.failed failure) (by simp)]
    exact fate.part failure
  case cut => exact fate.cut
  case uncut =>
    intro failure
    rw [last (.failed failure) (by simp)]
    exact fate.uncut failure

end IsFate

/-- What becomes of a buffer, of the answers for its calls and of those for flushes. -/
structure WritesOut (size accepted : Nat) (script : Script) (out : Nat × Standing × Script) :
    Prop where
  fate : IsFate size accepted (talk size accepted script.writes).1
    (flushFailure? script.flushes) out.1 out.2.1
  rest : out.2.2.writes = (talk size accepted script.writes).2
  unflushed : out.1 < size → out.2.2.flushes = script.flushes

theorem Answer.count_pos {act : Act} {offered count : Nat} (positive : 0 < offered)
    (answer : act.answer? offered = some (.took count)) : 0 < count ∧ count ≤ offered := by
  cases act with
  | accept most =>
      simp only [Act.answer?] at answer
      split at answer
      · cases answer
      · cases answer
        omega
  | acceptAll =>
      cases answer
      exact ⟨positive, Nat.le_refl _⟩
  | fail failure => cases answer
  | block => cases answer

theorem writesOut_whole (size : Nat) (script : Script) :
    WritesOut size size script (writeOut size size script) := by
  obtain ⟨writes, flushes⟩ := script
  obtain ⟨left, out⟩ := writeOut_whole size writes flushes
  rw [out]
  constructor
  case fate =>
    rw [talk_whole (Nat.le_refl size)]
    exact .whole size _
  case rest => rw [talk_whole (Nat.le_refl size)]
  case unflushed => exact fun short => absurd short (Nat.lt_irrefl _)

namespace WritesOut

variable {size accepted : Nat} {act : Act} {rest flushes : List Act}
  {out : Nat × Standing × Script}

theorem held (short : accepted < size) (answer : act.answer? (size - accepted) = none)
    (done : WritesOut size accepted ⟨rest, flushes⟩ out) :
    WritesOut size accepted ⟨act :: rest, flushes⟩ out := by
  obtain ⟨fate, left, unflushed⟩ := done
  rw [← talk_held short answer] at fate left
  exact ⟨fate, left, unflushed⟩

theorem took {count : Nat} (short : accepted < size)
    (answer : act.answer? (size - accepted) = some (.took count))
    (done : WritesOut size (accepted + count) ⟨rest, flushes⟩ out) :
    WritesOut size accepted ⟨act :: rest, flushes⟩ out := by
  obtain ⟨positive, few⟩ := Answer.count_pos (Nat.sub_pos_of_lt short) answer
  constructor
  case fate =>
    rw [talk_took short answer]
    exact done.fate.took positive (by omega)
  case rest =>
    rw [talk_took short answer]
    exact done.rest
  case unflushed => exact done.unflushed

theorem last {answer : Answer} {standing : Standing} (short : accepted < size)
    (replied : act.answer? (size - accepted) = some answer)
    (idle : ∀ count, answer ≠ .took count)
    (fate : IsFate size accepted [answer] (flushFailure? flushes) accepted standing) :
    WritesOut size accepted ⟨act :: rest, flushes⟩ (accepted, standing, ⟨rest, flushes⟩) := by
  constructor
  case fate =>
    rw [talk_last short replied idle]
    exact fate
  case rest => rw [talk_last short replied idle]
  case unflushed => exact fun _ => rfl

theorem dry (short : accepted < size) (done : WritesOut size size ⟨[], flushes⟩ out) :
    WritesOut size accepted ⟨[], flushes⟩ out := by
  obtain ⟨fate, left, unflushed⟩ := done
  rw [talk_whole (Nat.le_refl size)] at fate left
  have back : accepted + (size - accepted) = size := Nat.add_sub_cancel' (Nat.le_of_lt short)
  constructor
  case fate =>
    rw [talk_dry short]
    apply IsFate.took (Nat.sub_pos_of_lt short) (Nat.le_of_eq back)
    rw [back]
    exact fate
  case rest =>
    rw [talk_dry short]
    exact left
  case unflushed => exact unflushed

end WritesOut

/-- The induction follows the answers in store; each of them takes the buffer further, ends it,
or holds a call back. -/
theorem writeOut_writesOut {size accepted : Nat} (fits : accepted ≤ size) (script : Script) :
    WritesOut size accepted script (writeOut size accepted script) := by
  obtain ⟨writes, flushes⟩ := script
  induction writes generalizing accepted with
  | nil =>
      obtain rfl | short := Nat.eq_or_lt_of_le fits
      · exact writesOut_whole _ _
      · rw [writeOut_congr (offer_dry short)]
        exact (writesOut_whole size _).dry short
  | cons act rest ih =>
      obtain rfl | short := Nat.eq_or_lt_of_le fits
      · exact writesOut_whole _ _
      cases answer : act.answer? (size - accepted) with
      | none =>
          rw [writeOut_held short answer]
          exact (ih fits).held short answer
      | some reply =>
          cases reply with
          | took count =>
              obtain ⟨-, few⟩ := Answer.count_pos (Nat.sub_pos_of_lt short) answer
              rw [writeOut_congr (offer_took short answer)]
              exact (ih (by omega)).took short answer
          | nothing =>
              rw [writeOut_of_failed (offer_nothing short answer)]
              exact .last short answer (by simp) (.nothing short _)
          | failed failure =>
              rw [writeOut_of_failed (offer_failed short answer)]
              exact .last short answer (by simp) (.failed short _ failure)

namespace Writer

/-- What a writer has done when the calls for its buffer have come to something. -/
def settle (octets : Bytes) (accepted : Nat) (waiting : List Bytes)
    (out : Nat × Standing × Script) : Writing :=
  let sent := (octets.take out.1).drop accepted
  match out.2.1 with
  | .complete => ⟨sent, some .written, ⟨none, waiting, false⟩, out.2.2⟩
  | .failed failure part =>
    ⟨sent, some (.writeFailed failure part), ⟨none, waiting, true⟩, out.2.2⟩
  | .blocked => ⟨sent, none, ⟨some ⟨octets, out.1, false⟩, waiting, false⟩, out.2.2⟩

theorem goOn_eq (octets : Bytes) (accepted : Nat) (waiting : List Bytes) (script : Script) :
    goOn octets accepted waiting script =
      settle octets accepted waiting (writeBuffer octets.length accepted script) := rfl

theorem isBlocked_settle (octets : Bytes) (accepted : Nat) (waiting : List Bytes)
    (out : Nat × Standing × Script) :
    (settle octets accepted waiting out).writer.isBlocked = true ↔ out.2.1 = .blocked := by
  unfold settle isBlocked
  cases out.2.1 <;> simp

/-- A run of a writer that is let go ends before its socket, or held back with fewer answers. -/
theorem size_release_run_lt {writer : Writer} {script : Script}
    (held : (writer.release.run script).writer.isBlocked = true) :
    (writer.release.run script).script.size < script.size := by
  have free : writer.release.isBlocked = false := by
    unfold isBlocked release
    cases writer.held <;> rfl
  have went : ∀ octets accepted waiting,
      (goOn octets accepted waiting script).writer.isBlocked = true →
        (goOn octets accepted waiting script).script.size < script.size := by
    intro octets accepted waiting held
    rw [goOn_eq, isBlocked_settle] at held
    have less := size_writeBuffer_lt held
    rw [goOn_eq]
    unfold settle
    rw [held]
    exact less
  unfold run at held ⊢
  dsimp only at held ⊢
  split at held
  · rw [free] at held
    cases held
  · next goes =>
      simp only [goes]
      split at held
      · exact went _ _ _ held
      · exact went _ _ _ held
      · rw [free] at held
        cases held

/-- Run a writer until it reports, letting go every call that is held back. -/
def finish (writer : Writer) (script : Script) : Writing :=
  let first := writer.release.run script
  if _held : first.writer.isBlocked = true then
    let later := finish first.writer first.script
    { later with sent := first.sent ++ later.sent }
  else first
  termination_by script.size
  decreasing_by exact size_release_run_lt _held

/-- What was sent before a call was held back, and then the rest. -/
theorem settle_append {octets : Bytes} {accepted middle : Nat} {out : Nat × Standing × Script}
    (grown : accepted ≤ middle) (further : middle ≤ out.1) (fits : out.1 ≤ octets.length)
    (waiting : List Bytes) :
    { settle octets middle waiting out with
        sent := (octets.take middle).drop accepted ++ (settle octets middle waiting out).sent } =
      settle octets accepted waiting out := by
  have whole : (octets.take middle).drop accepted ++ (octets.take out.1).drop middle =
      (octets.take out.1).drop accepted := by
    have begun : octets.take middle = (octets.take out.1).take middle := by
      rw [List.take_take, Nat.min_eq_left further]
    have long : accepted ≤ ((octets.take out.1).take middle).length := by
      rw [List.length_take, List.length_take]
      omega
    rw [begun, ← List.drop_append_of_le_length long, List.take_append_drop]
  unfold settle
  cases out.2.1 <;> simp [whole]

/-- The induction is on the answers in store: a call that is held back has used up one. -/
theorem finish_held {octets : Bytes} {accepted : Nat} (fits : accepted ≤ octets.length)
    (released : Bool) (waiting : List Bytes) (script : Script) :
    finish ⟨some ⟨octets, accepted, released⟩, waiting, false⟩ script =
      settle octets accepted waiting (writeOut octets.length accepted script) := by
  induction size : script.size using Nat.strong_induction_on
    generalizing script accepted released with
  | _ n ih =>
      subst size
      have went : (release ⟨some ⟨octets, accepted, released⟩, waiting, false⟩).run script =
          settle octets accepted waiting (writeBuffer octets.length accepted script) := rfl
      have offered := writeBuffer_isOffered fits script
      rw [finish, writeOut, went]
      generalize done : writeBuffer octets.length accepted script = out at offered
      obtain ⟨total, standing, left⟩ := out
      by_cases held : standing = .blocked
      · have less : left.size < script.size := by
          have less : (writeBuffer octets.length accepted script).2.1 = .blocked → _ :=
            size_writeBuffer_lt
          rw [done] at less
          exact less held
        have later := ih _ less offered.fits false left rfl
        have fate := (writeOut_writesOut offered.fits left).fate
        have further : total ≤ (writeOut octets.length total left).1 := by
          rw [fate.counted]
          exact Nat.le_add_right _ _
        subst held
        simp only [settle, isBlocked, Option.any_some, Bool.not_false, dif_pos]
        rw [later]
        exact settle_append offered.grown further fate.fits waiting
      · have free : ¬(settle octets accepted waiting (total, standing, left)).writer.isBlocked =
            true := mt (isBlocked_settle octets accepted waiting _).mp held
        simp only [free, held, dif_neg, not_false_iff]
        rfl

/-- A buffer that is begun is written out as one that is held with nothing accepted. -/
theorem finish_waiting (octets : Bytes) (waiting : List Bytes) (script : Script) :
    finish ⟨none, octets :: waiting, false⟩ script =
      settle octets 0 waiting (writeOut octets.length 0 script) := by
  rw [← finish_held (Nat.zero_le _) true waiting script]
  have went : (release ⟨none, octets :: waiting, false⟩).run script =
      (release ⟨some ⟨octets, 0, true⟩, waiting, false⟩).run script := rfl
  rw [finish, went, ← finish]

end Writer

/-- The answers to the calls for a buffer. -/
def callsFor (octets : Bytes) (script : Script) : List Answer :=
  (talk octets.length 0 script.writes).1

/-- The writing of a buffer, in front of others that wait, tells the truth about it. -/
structure Writing.IsTrue (writing : Writing) (octets : Bytes) (waiting : List Bytes)
    (script : Script) : Prop where
  /-- The bytes accepted are the first of the buffer. -/
  sent : writing.sent = octets.take (acceptedBy (callsFor octets script))
  fits : acceptedBy (callsFor octets script) ≤ octets.length
  progress : ∀ answer ∈ (callsFor octets script).dropLast, 0 < answer.count
  short : (callsFor octets script).length ≤ octets.length
  reported : writing.report = some .written ∨
    ∃ failure part, writing.report = some (.writeFailed failure part)
  written : writing.report = some .written ↔
    writing.sent = octets ∧ flushFailure? script.flushes = none
  part : ∀ failure, writing.report = some (.writeFailed failure true) ↔
    (callsFor octets script).getLast? = some .nothing ∧ failure = acceptedNothing ∨
      (callsFor octets script).getLast? = some (.failed failure) ∧
        (failure.interrupted = true ∨ 0 < writing.sent.length)
  /-- A buffer that is reported as cut off is not with the socket as a whole. -/
  cut : ∀ failure, writing.report = some (.writeFailed failure true) →
    writing.sent.length < octets.length
  uncut : ∀ failure, writing.report = some (.writeFailed failure false) ↔
    callsFor octets script = [.failed failure] ∧ failure.interrupted = false ∧
        writing.sent = [] ∨
      writing.sent = octets ∧ flushFailure? script.flushes = some failure
  /-- The calls use up what the socket has in store for them. -/
  rest : writing.script.writes = (talk octets.length 0 script.writes).2
  unflushed : writing.sent ≠ octets → writing.script.flushes = script.flushes
  writer : ∃ halted, writing.writer = ⟨none, waiting, halted⟩ ∧
    (halted = false ↔ writing.report = some .written)

/-- A failure without anything accepted is that of the first call. -/
theorem IsFate.first {size : Nat} {answers : List Answer} {flushing : Option IoFailure}
    {standing : Standing} {failure : IoFailure}
    (fate : IsFate size 0 answers flushing 0 standing)
    (last : answers.getLast? = some (.failed failure)) : answers = [.failed failure] := by
  obtain ⟨early, rfl⟩ := List.getLast?_eq_some_iff.mp last
  have counted : 0 = 0 + acceptedBy (early ++ [.failed failure]) := fate.counted
  have progress := fate.progress
  rw [List.dropLast_concat] at progress
  cases early with
  | nil => rfl
  | cons answer later =>
      have positive := progress answer List.mem_cons_self
      simp only [List.cons_append, acceptedBy] at counted
      omega

namespace Writer

section Settled

variable (octets : Bytes) (accepted : Nat) (waiting : List Bytes) (out : Nat × Standing × Script)

theorem settle_sent :
    (settle octets accepted waiting out).sent = (octets.take out.1).drop accepted := by
  unfold settle
  cases out.2.1 <;> rfl

theorem settle_script : (settle octets accepted waiting out).script = out.2.2 := by
  unfold settle
  cases out.2.1 <;> rfl

theorem settle_written_iff :
    (settle octets accepted waiting out).report = some .written ↔ out.2.1 = .complete := by
  unfold settle
  cases out.2.1 <;> simp

theorem settle_writeFailed_iff (failure : IoFailure) (part : Bool) :
    (settle octets accepted waiting out).report = some (.writeFailed failure part) ↔
      out.2.1 = .failed failure part := by
  unfold settle
  cases out.2.1 <;> simp

end Settled

/-- **A writer reports exactly what has happened to a buffer.**  Whatever the socket answers, the
bytes accepted are the first of the buffer; the buffer is reported as written when all of it is
accepted and flushed; as cut off when the last call got nothing accepted, was interrupted, or
failed behind some bytes, and then the buffer is not with the socket as a whole; and as failed
otherwise when the first call failed, or the flush.  No more calls are made than there are
bytes. -/
theorem reports_are_true (octets : Bytes) (waiting : List Bytes) (script : Script) :
    (finish ⟨none, octets :: waiting, false⟩ script).IsTrue octets waiting script := by
  obtain ⟨fate, rest, unflushed⟩ := writeOut_writesOut (Nat.zero_le octets.length) script
  rw [finish_waiting]
  generalize writeOut octets.length 0 script = out at fate rest unflushed ⊢
  have counted : out.1 = acceptedBy (callsFor octets script) :=
    fate.counted.trans (Nat.zero_add _)
  have sent : (settle octets 0 waiting out).sent = octets.take out.1 :=
    settle_sent octets 0 waiting out
  have length : (settle octets 0 waiting out).sent.length = out.1 := by
    rw [sent, List.length_take, Nat.min_eq_left fate.fits]
  have whole : (settle octets 0 waiting out).sent = octets ↔ out.1 = octets.length := by
    rw [sent, List.take_eq_self_iff]
    exact ⟨Nat.le_antisymm fate.fits, Nat.le_of_eq ∘ Eq.symm⟩
  constructor
  case sent => rw [sent, counted]
  case fits =>
    rw [← counted]
    exact fate.fits
  case progress => exact fate.progress
  case short => exact fate.short
  case reported =>
    simp only [settle_written_iff, settle_writeFailed_iff]
    cases standing : out.2.1 with
    | complete => exact .inl rfl
    | failed failure part => exact .inr ⟨failure, part, rfl⟩
    | blocked => exact absurd standing fate.ended
  case written =>
    rw [settle_written_iff, whole]
    exact fate.complete
  case part =>
    intro failure
    rw [settle_writeFailed_iff, length]
    exact fate.part failure
  case cut =>
    intro failure cutOff
    rw [length]
    exact fate.cut failure ((settle_writeFailed_iff ..).mp cutOff)
  case uncut =>
    intro failure
    rw [settle_writeFailed_iff, whole, ← List.length_eq_zero_iff, length, fate.uncut failure]
    have first : out.1 = 0 → ((talk octets.length 0 script.writes).1.getLast? =
        some (.failed failure) ↔ callsFor octets script = [.failed failure]) := by
      intro zero
      rw [zero] at fate
      constructor
      · exact fate.first
      · intro same
        rw [← callsFor, same]
        rfl
    grind
  case rest =>
    rw [settle_script]
    exact rest
  case unflushed =>
    intro partly
    rw [settle_script]
    exact unflushed (Nat.lt_of_le_of_ne fate.fits (mt whole.mpr partly))
  case writer =>
    rw [settle_written_iff]
    unfold settle
    cases standing : out.2.1 with
    | complete => simp
    | failed failure part => simp
    | blocked => exact absurd standing fate.ended

end Writer

end RequestMux.Link
