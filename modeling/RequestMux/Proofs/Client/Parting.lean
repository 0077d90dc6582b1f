import RequestMux.Proofs.Client.Passage
import RequestMux.Proofs.Client.States

/-!
# Gentle shutdown

A gentle shutdown goes by two marks on the board: how many callers have not been told, and
whether a caller's buffer is with the writer.  The first balances with the callers who were
told.  The second is true exactly as long as a caller's buffer that was handed to the socket has
not been reported back, because the engine keeps no other buffer there and drops it only with
the socket.
-/

namespace RequestMux.Client

/-- Whether a report says that the writer is done with its buffer, one way or the other. -/
def Report.isCompletion : Report → Bool
  | .written => true
  | .writeFailed _ _ => true
  | _ => false

/-- The engine hears in a turn that the writer of a generation is done with its buffer. -/
def Turn.Completes (generation : Nat) (turn : Turn) : Prop :=
  ∃ report, turn.heard? = some (.report generation report) ∧ report.isCompletion = true

/-- A buffer was handed to a socket in some generation, whose writer has not reported since that it
is done with it. -/
def IsAwaited (turns : List Turn) (generation socket : Nat) (write : QueuedWrite) : Prop :=
  ∃ past turn later, turns = past ++ turn :: later ∧
    turn.before.engine.generation = generation ∧ .handed socket write ∈ turn.effects ∧
    ∀ next ∈ later, ¬next.Completes generation

theorem isAwaited_append {turns : List Turn} {turn : Turn} {generation socket : Nat}
    {write : QueuedWrite} :
    IsAwaited (turns ++ [turn]) generation socket write ↔
      turn.before.engine.generation = generation ∧ .handed socket write ∈ turn.effects ∨
        IsAwaited turns generation socket write ∧ ¬turn.Completes generation := by
  constructor
  · rintro ⟨past, other, later, cut, current, handed, silent⟩
    rcases later.eq_nil_or_concat' with rfl | ⟨between, last, rfl⟩
    · obtain ⟨rfl, same⟩ := List.append_inj' cut rfl
      cases same
      exact .inl ⟨current, handed⟩
    · rw [← List.cons_append, ← List.append_assoc] at cut
      obtain ⟨rfl, same⟩ := List.append_inj' cut rfl
      cases same
      refine .inr ⟨⟨past, other, between, rfl, current, handed, fun next member => ?_⟩, ?_⟩
      · exact silent next (List.mem_append_left _ member)
      · exact silent turn (List.mem_append_right _ List.mem_cons_self)
  · rintro (⟨current, handed⟩ | ⟨⟨past, other, later, rfl, current, handed, silent⟩, unheard⟩)
    · exact ⟨turns, turn, [], rfl, current, handed, List.forall_mem_nil _⟩
    · refine ⟨past, other, later ++ [turn], by simp, current, handed, fun next member => ?_⟩
      rcases List.mem_append.mp member with earlier | last
      · exact silent next earlier
      · rwa [List.mem_singleton.mp last]

/-- An engine stays in its generation with its socket, and what comes to the writer is handed to
this socket; or it leaves the generation, and has neither a socket nor a buffer with a writer. -/
inductive Engine.Ferries (engine : Engine) (effects : List Effect) (after : Engine) : Prop where
  | stays (generation : after.generation = engine.generation) (link : after.link = engine.link)
      (place : ∀ socket write, .handed socket write ∈ effects → engine.link = some socket)
      (inFlight : ∀ write, after.inFlight = some write ↔
        engine.inFlight = some write ∨ ∃ socket, .handed socket write ∈ effects)
  | leaves (generation : engine.generation < after.generation) (link : after.link = none)
      (inFlight : after.inFlight = none)

namespace Engine.Ferries

variable {engine middle after : Engine} {effects more : List Effect}

/-- What hands nothing over, and keeps to socket and writer. -/
theorem of_quiet (generation : after.generation = engine.generation)
    (link : after.link = engine.link) (inFlight : after.inFlight = engine.inFlight)
    (quiet : ∀ effect ∈ effects, effect.handed? = none) : engine.Ferries effects after := by
  have nothing (socket : Nat) (write : QueuedWrite) : .handed socket write ∉ effects :=
    fun member => nomatch quiet _ member
  refine .stays generation link (fun socket write member => absurd member (nothing socket write))
    fun write => ?_
  rw [inFlight]
  exact ⟨.inl, fun there => there.resolve_right fun ⟨socket, member⟩ => nothing socket write member⟩

theorem rises (ferries : engine.Ferries effects after) : engine.generation ≤ after.generation := by
  cases ferries with
  | stays generation => exact generation.ge
  | leaves generation => exact generation.le

theorem trans (first : engine.Ferries effects middle) (second : middle.Ferries more after) :
    engine.Ferries (effects ++ more) after := by
  cases second with
  | leaves generation link inFlight =>
      refine .leaves ?_ link inFlight
      cases first with
      | stays before => exact before ▸ generation
      | leaves before => exact before.trans generation
  | stays generation link place inFlight =>
      cases first with
      | leaves before unlinked free =>
          have nothing (socket : Nat) (write : QueuedWrite) : .handed socket write ∉ more :=
            fun member => nomatch unlinked.symm.trans (place socket write member)
          refine .leaves (generation ▸ before) (link.trans unlinked) ?_
          refine Option.eq_none_iff_forall_ne_some.mpr fun write there => ?_
          rcases (inFlight write).mp there with held | ⟨socket, member⟩
          · exact nomatch free.symm.trans held
          · exact nothing socket write member
      | stays before linked placed held =>
          refine .stays (generation.trans before) (link.trans linked) (fun socket write member => ?_)
            fun write => ?_
          · rcases List.mem_append.mp member with early | late
            · exact placed socket write early
            · exact linked.symm.trans (place socket write late)
          · rw [inFlight, held, or_assoc, ← exists_or]
            simp only [List.mem_append]

theorem of_tick {now : Time} (tick : Tick now engine effects after) :
    engine.Ferries effects after := by
  cases tick with
  | remark effect said =>
      refine of_quiet rfl rfl rfl fun other member => ?_
      rw [List.mem_singleton.mp member]
      cases effect <;> first | rfl | cases said
  | reschedule => exact of_quiet rfl rfl rfl nofun
  | publish => exact of_quiet rfl rfl rfl nofun
  | dial => exact of_quiet rfl rfl rfl (forall_beginConnect _ engine (fun _ => rfl) fun _ => rfl)
  | push octets counted => exact of_quiet rfl rfl rfl (by simp [push, Effect.handed?])
  | @hand socket write rest free linked first =>
      refine .stays rfl rfl (fun other given member => ?_) fun given => ?_
      · cases List.mem_singleton.mp member
        exact linked
      · rw [free]
        simp [publishWriting, eq_comm]
  | release => exact .leaves (Nat.lt_succ_self _) rfl rfl
  | dismiss =>
      exact of_quiet rfl rfl rfl
        (forall_dismissAll _ engine (fun _ => rfl) fun _ => rfl)

theorem of_ticks {now : Time} (ticks : Ticks now engine effects after) :
    engine.Ferries effects after := by
  induction ticks with
  | done => exact of_quiet rfl rfl rfl nofun
  | next _ tick _ ih => exact (of_tick tick).trans ih

/-- Nothing of this shows on the board. -/
theorem show_ (ferries : engine.Ferries effects after) (board : Board) :
    engine.Ferries effects { after with board } := by
  cases ferries with
  | stays generation link place inFlight => exact .stays generation link place inFlight
  | leaves generation link inFlight => exact .leaves generation link inFlight

end Engine.Ferries

/-- What a reaction makes of the socket and of the buffer with the writer, beside what the report
of a task says of them. -/
inductive Engine.Conveys (engine : Engine) (stimulus : Stimulus) (effects : List Effect)
    (after : Engine) : Prop where
  | plain (ferries : engine.Ferries effects after)
      (unreported : after.generation = engine.generation → ∀ report, report.isCompletion = true →
        stimulus ≠ .report engine.generation report)
  | attach (socket : Nat) (told : stimulus = .report engine.generation (.connected socket))
      (ferries : Engine.Ferries { engine with link := some socket } effects after)
  | written (told : stimulus = .report engine.generation .written)
      (ferries : Engine.Ferries { engine with inFlight := none } effects after)

namespace Engine.Conveys

variable {engine middle after : Engine} {effects more : List Effect} {stimulus : Stimulus}
  {now : Time}

/-- An onset takes a buffer from the writer only where the writer is done with it. -/
theorem of_onset (onset : Onset now engine stimulus effects after)
    (stands : after.life ≠ .collapsed) : engine.Conveys stimulus effects after := by
  have quiet := onset.handed?_eq_none
  have leaves {effects : List Effect} {after : Engine} (generation : engine.generation < after.generation)
      (link : after.link = none) (inFlight : after.inFlight = none) :
      engine.Conveys stimulus effects after :=
    .plain (.leaves generation link inFlight) fun same => absurd same generation.ne'
  cases onset with
  | shutDown => exact leaves (Nat.lt_succ_self _) rfl rfl
  | collapse => exact absurd rfl stands
  | attach socket => exact .attach socket rfl (.of_quiet rfl rfl rfl quiet)
  | written => exact .written rfl (.of_quiet rfl rfl rfl quiet)
  | writeFailed => exact leaves (Nat.lt_succ_self _) rfl rfl
  | plain told =>
      refine .plain (.of_quiet rfl rfl rfl quiet) fun _ report done same => ?_
      subst same
      cases told
  | enter talk pingAt asked =>
      refine .plain (.of_quiet rfl rfl rfl quiet) fun _ report done same => ?_
      subst same
      exact asked
  | stale generation report old =>
      refine .plain (.of_quiet rfl rfl rfl quiet) fun _ other done same => ?_
      cases same
      exact old rfl
  | _ =>
      refine .plain (.of_quiet rfl rfl rfl quiet) fun _ report done same => ?_
      cases same <;> cases done

/-- What follows takes nothing of it back. -/
theorem trans (first : engine.Conveys stimulus effects middle)
    (second : middle.Ferries more after) : engine.Conveys stimulus (effects ++ more) after := by
  cases first with
  | plain ferries unreported =>
      refine .plain (ferries.trans second) fun same => unreported ?_
      exact le_antisymm (second.rises.trans_eq same) ferries.rises
  | attach socket told ferries => exact .attach socket told (ferries.trans second)
  | written told ferries => exact .written told (ferries.trans second)

theorem of_step (now : Time) (awake : engine.IsAwake) (stimulus : Stimulus)
    (stands : (engine.step now stimulus).1.life ≠ .collapsed) :
    engine.Conveys stimulus (engine.step now stimulus).2 (engine.step now stimulus).1 := by
  obtain ⟨first, middle, later, onset, ticks, effects⟩ := step_course now awake stimulus
  rw [effects]
  have stood : middle.life ≠ .collapsed := by
    rintro collapsed
    cases ticks with
    | done => exact stands collapsed
    | next awake => exact nomatch awake.running.symm.trans collapsed
  exact (of_onset onset stood).trans (.of_ticks ticks)

end Engine.Conveys

namespace Turn

/-- What a turn that does not break the engine down makes of the buffer with the writer. -/
structure Conveys (turn : Turn) : Prop where
  rises : turn.before.engine.generation ≤ turn.after.engine.generation
  left : turn.after.engine.generation ≠ turn.before.engine.generation →
    turn.after.engine.inFlight = none
  /-- A buffer leaves the writer only when this is reported. -/
  inFlight : turn.after.engine.generation = turn.before.engine.generation →
    ∀ write, turn.after.engine.inFlight = some write ↔
      (∃ socket, .handed socket write ∈ turn.effects) ∨
        turn.before.engine.inFlight = some write ∧
          ¬turn.Completes turn.before.engine.generation
  place : turn.after.engine.generation = turn.before.engine.generation →
    ∀ socket write, .handed socket write ∈ turn.effects → turn.after.engine.link = some socket
  link : turn.after.engine.generation = turn.before.engine.generation →
    turn.before.engine.inFlight.isSome = true →
      turn.after.engine.link = turn.before.engine.link

variable {turn : Turn}

theorem Conveys.of_leaves
    (left : turn.before.engine.generation < turn.after.engine.generation)
    (free : turn.after.engine.inFlight = none) : turn.Conveys :=
  ⟨left.le, fun _ => free, fun same => absurd same left.ne', fun same => absurd same left.ne',
    fun same => absurd same left.ne'⟩

theorem Conveys.of_unheard (unheard : turn.heard? = none)
    (generation : turn.after.engine.generation = turn.before.engine.generation)
    (link : turn.after.engine.link = turn.before.engine.link)
    (inFlight : turn.after.engine.inFlight = turn.before.engine.inFlight)
    (silent : turn.effects = []) : turn.Conveys where
  rises := generation.ge
  left moved := absurd generation moved
  inFlight _ write := by
    have incomplete : ¬turn.Completes turn.before.engine.generation :=
      fun ⟨report, heard, _⟩ => nomatch unheard.symm.trans heard
    simp [silent, inFlight, incomplete]
  place _ := silent ▸ nofun
  link _ _ := link

/-- Whatever a turn leaves with the writer was handed to the socket that is served, and stays
there until it is reported. -/
theorem IsApt.conveys (apt : turn.IsApt) (sound : turn.before.IsSound)
    (coherent : turn.before.engine.IsCoherent) (stands : turn.after.engine.life ≠ .collapsed) :
    turn.Conveys := by
  cases turn.becomes sound with
  | idle board unheard like engine silent =>
      exact .of_unheard unheard (by rw [engine]) (by rw [engine]) (by rw [engine]) silent
  | heard stimulus board more hears awake like engine effects farewell =>
      rw [engine] at stands
      have handed (socket : Nat) (write : QueuedWrite) : .handed socket write ∈ turn.effects ↔
          .handed socket write ∈ (turn.before.engine.step turn.time stimulus).2 := by
        rw [effects, List.mem_append, or_iff_left]
        exact fun member => nomatch Life.isIdle_of_isFarewell (farewell _ member)
      have completes : turn.Completes turn.before.engine.generation ↔
          ∃ report, report.isCompletion = true ∧
            stimulus = .report turn.before.engine.generation report := by
        constructor
        · rintro ⟨report, heard, done⟩
          exact ⟨report, done, Option.some.inj (hears.symm.trans heard)⟩
        · rintro ⟨report, done, told⟩
          exact ⟨report, hears.trans (congrArg some told), done⟩
      -- what the report says of the engine comes first, and the rest is handed over
      have ferried (origin : Engine) (begins : origin.generation = turn.before.engine.generation)
          (ferries : origin.Ferries (turn.before.engine.step turn.time stimulus).2
            (turn.before.engine.step turn.time stimulus).1)
          (held : turn.after.engine.generation = turn.before.engine.generation →
            ∀ write, origin.inFlight = some write ↔
              turn.before.engine.inFlight = some write ∧
                ¬turn.Completes turn.before.engine.generation)
          (linked : turn.before.engine.inFlight.isSome = true →
            origin.link = turn.before.engine.link) : turn.Conveys := by
        have moved := ferries.show_ board
        rw [← engine] at moved
        cases moved with
        | leaves left link free => exact .of_leaves (begins ▸ left) free
        | stays generation link place inFlight =>
            have same := generation.trans begins
            refine ⟨same.ge, fun moved => absurd same moved, fun _ write => ?_,
              fun _ socket write member => ?_, fun _ there => link.trans (linked there)⟩
            · rw [inFlight, held same, or_comm]
              simp only [handed]
            · exact link.trans (place socket write ((handed socket write).mp member))
      cases Engine.Conveys.of_step turn.time awake stimulus stands with
      | plain ferries unreported =>
          refine ferried turn.before.engine rfl ferries (fun same write => ?_) fun _ => rfl
          rw [and_iff_left]
          rintro done
          obtain ⟨report, done, told⟩ := completes.mp done
          rw [engine] at same
          exact unreported same report done told
      | attach socket told ferries =>
          refine ferried { turn.before.engine with link := some socket } rfl ferries
            (fun _ write => ?_) fun there => ?_
          · rw [and_iff_left]
            rintro done
            obtain ⟨report, done, also⟩ := completes.mp done
            cases told.symm.trans also
            cases done
          · -- only an attempt gives a socket, and then nothing was with a writer
            have attempting := apt.attaching awake.running socket
              (told ▸ stimulus?_of_heard? hears)
            exact nomatch (coherent.connecting.mpr attempting).symm.trans (coherent.inFlight there)
      | written told ferries =>
          refine ferried { turn.before.engine with inFlight := none } rfl ferries
            (fun _ write => ?_) fun _ => rfl
          have done := completes.mpr ⟨.written, rfl, told⟩
          simp [done]

/-- An engine that has broken down hears nothing more. -/
theorem not_collapsed_before (sound : turn.before.IsSound)
    (stands : turn.after.engine.life ≠ .collapsed) : turn.before.engine.life ≠ .collapsed := by
  cases turn.becomes sound with
  | idle board unheard like engine silent =>
      rw [engine] at stands
      exact stands
  | heard stimulus board more hears awake =>
      exact fun collapsed => nomatch awake.running.symm.trans collapsed

end Turn

/-- Whether the buffer with the writer is the one that was handed to the socket and has not been
reported back. -/
structure Tracks (turns : List Turn) (engine : Engine) : Prop where
  older : ∀ turn ∈ turns, turn.before.engine.generation ≤ engine.generation
  inFlight : ∀ write, engine.inFlight = some write ↔
    ∃ socket, IsAwaited turns engine.generation socket write
  place : ∀ socket write, IsAwaited turns engine.generation socket write →
    engine.link = some socket

namespace Tracks

variable {turns : List Turn}

theorem start (settings : Settings) : Tracks [] (.start settings) := by
  have nothing (generation socket : Nat) (write : QueuedWrite) :
      ¬IsAwaited [] generation socket write := by
    rintro ⟨past, turn, later, cut, -⟩
    exact nomatch List.append_eq_nil_iff.mp cut.symm
  refine ⟨List.forall_mem_nil _, fun write => ⟨nofun, ?_⟩, fun socket write awaited => ?_⟩
  · rintro ⟨socket, awaited⟩
    exact absurd awaited (nothing _ socket write)
  · exact absurd awaited (nothing _ socket write)

theorem turn {turn : Turn} (tracks : Tracks turns turn.before.engine) (conveys : turn.Conveys) :
    Tracks (turns ++ [turn]) turn.after.engine := by
  have older (other : Turn) (member : other ∈ turns ++ [turn]) :
      other.before.engine.generation ≤ turn.before.engine.generation := by
    rcases List.mem_append.mp member with earlier | last
    · exact tracks.older other earlier
    · rw [List.mem_singleton.mp last]
  by_cases same : turn.after.engine.generation = turn.before.engine.generation
  · refine ⟨fun other member => (older other member).trans conveys.rises, fun write => ?_,
      fun socket write awaited => ?_⟩
    · rw [conveys.inFlight same, tracks.inFlight, same]
      simp only [isAwaited_append, true_and, exists_or, exists_and_right]
    · rw [same, isAwaited_append] at awaited
      rcases awaited with ⟨-, handed⟩ | ⟨awaited, -⟩
      · exact conveys.place same socket write handed
      · have there := (tracks.inFlight write).mpr ⟨socket, awaited⟩
        rw [conveys.link same (there ▸ rfl)]
        exact tracks.place socket write awaited
  · -- nothing was handed over in a generation that has just begun
    have risen := lt_of_le_of_ne conveys.rises (Ne.symm same)
    have nothing (socket : Nat) (write : QueuedWrite) :
        ¬IsAwaited (turns ++ [turn]) turn.after.engine.generation socket write := by
      rintro ⟨past, other, later, cut, current, -⟩
      have member : other ∈ turns ++ [turn] := by simp [cut]
      exact absurd (older other member) (current ▸ not_le.mpr risen)
    refine ⟨fun other member => (older other member).trans conveys.rises, fun write => ?_,
      fun socket write awaited => absurd awaited (nothing socket write)⟩
    rw [conveys.left same]
    exact ⟨nofun, fun ⟨socket, awaited⟩ => absurd awaited (nothing socket write)⟩

/-- A run in which the world keeps to what the engine has told it tracks the buffer with the
writer, unless the engine breaks down. -/
theorem run (endpoint : Endpoint) (settings : Settings) (moves : List (Time × Move))
    (apt : ∀ turn ∈ (Connection.start endpoint settings).turns moves, turn.IsApt) :
    let start := Connection.start endpoint settings
    (start.run moves).engine.life = .collapsed ∨
      (start.run moves).engine.IsCoherent ∧ Tracks (start.turns moves) (start.run moves).engine := by
  intro start
  let motive (turns : List Turn) (connection : Connection) : Prop :=
    (∀ turn ∈ turns, turn.IsApt) → connection.IsSound ∧
      (connection.engine.life = .collapsed ∨
        connection.engine.IsCoherent ∧ Tracks turns connection.engine)
  have began : motive [] start := fun _ =>
    ⟨.start endpoint settings, .inr ⟨.start settings, .start settings⟩⟩
  have held : motive (start.turns moves) (start.run moves) := by
    refine Connection.run_invariant (motive := motive) (fun past turn held apt => ?_) moves began
    obtain ⟨sound, tracked⟩ := held fun other earlier =>
      apt other (List.mem_append_left _ earlier)
    have last : turn.IsApt := apt turn (List.mem_append_right _ List.mem_cons_self)
    refine ⟨sound.make turn.time turn.move, or_iff_not_imp_left.mpr fun stands => ?_⟩
    obtain ⟨coherent, tracks⟩ := tracked.resolve_left (turn.not_collapsed_before sound stands)
    exact ⟨(last.coherent sound (.inr coherent)).resolve_left stands,
      tracks.turn (last.conveys sound coherent stands)⟩
  exact (held apt).2

end Tracks

namespace Connection

variable {connection : Connection}

namespace Accounts

variable {turns : List Turn}

end Accounts

end Connection

end RequestMux.Client
