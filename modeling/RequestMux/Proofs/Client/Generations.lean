import RequestMux.Proofs.Client.Dismissal

/-!
# The succession of generations

A connection leaves a generation for the next one, and never comes back.  Attempts and sockets
belong to the generation in which they were begun; once it has been left, whatever they report
changes nothing.
-/

namespace RequestMux.Client

/-- An effect that starts no attempt. -/
def Effect.IsUndialed (effect : Effect) : Prop := ∀ generation, effect ≠ .dialed generation

namespace Engine

variable {now : Time} {engine : Engine} {stimulus : Stimulus}

/-- Whatever tears the connection down ends by connecting again. -/
theorem step_of_cut (awake : engine.IsAwake) (cause : engine.IsCut now stimulus) :
    ∃ reaction : Reaction, engine.step now stimulus = reaction.andThen reconnect ∧
      reaction.1.phase ≠ .shuttingDown ∧ ∀ effect ∈ reaction.2, effect.IsUndialed := by
  unfold step
  rw [awake.running]
  cases cause with
  | reconnect => exact ⟨(engine, []), rfl, awake.open_, nofun⟩
  | readFailed fault =>
      refine ⟨engine.emit (.warned (.readFailed fault)), if_pos rfl, awake.open_, ?_⟩
      rintro effect member generation rfl
      cases List.mem_singleton.mp member
  | writeFailed failure part =>
      refine ⟨((engine.takeBack part).1, .warned (.writeFailed failure) ::
        (engine.takeBack part).2), if_pos rfl, awake.open_, ?_⟩
      rintro effect (_ | ⟨_, returned⟩) generation
      · exact nofun
      · obtain ⟨write, -, rfl⟩ := List.mem_map.mp returned
        exact nofun
  | @pingFailed alarm rung table entry ringing fired pinged connected =>
      let without : Engine := { engine with pending := table }
      have fails : without.complete now entry.waiter .timeout =
          (without.emit (.warned (.pingFailed .timeout))).andThen reconnect := by
        rw [pinged]
        exact if_pos connected
      refine ⟨(without, [.expired alarm.sync, .warned (.pingFailed .timeout)]), ?_, awake.open_, ?_⟩
      · dsimp only
        rw [handleAlarm, ringing]
        dsimp only
        rw [fired]
        change ((without.complete now entry.waiter .timeout).1, .expired alarm.sync ::
          (without.complete now entry.waiter .timeout).2) = _
        rw [fails]
        rfl
      · rintro effect (_ | ⟨_, _ | ⟨_, ⟨⟩⟩⟩) generation
        · exact nofun
        · exact nofun

/-- To connect again is to start an attempt in the generation that has begun. -/
theorem dialed_of_reconnect (isOpen : engine.phase ≠ .shuttingDown) {generation : Nat}
    (member : .dialed generation ∈ engine.reconnect.2) :
    generation = engine.reconnect.1.generation := by
  unfold reconnect at member ⊢
  rw [if_neg isOpen] at member ⊢
  rcases List.mem_append.mp member with leaving | dialing
  · rcases List.mem_append.mp leaving with releasing | dismissing
    · exact absurd rfl (forall_release Effect.IsUndialed engine (fun _ _ => nofun) (fun _ => nofun)
        _ releasing generation)
    · exact absurd rfl (forall_dismissAll Effect.IsUndialed _ (fun _ _ => nofun) (fun _ _ => nofun)
        _ dismissing generation)
  · rcases List.mem_cons.mp dialing with noted | dialed
    · cases noted
    · exact Effect.dialed.inj (List.mem_singleton.mp dialed)

end Engine

/-- Within the course of a reaction, attempts are started in the generations that it goes through. -/
theorem Ticks.dialed {now : Time} {engine after : Engine} {effects : List Effect}
    (ticks : Ticks now engine effects after) :
    engine.generation ≤ after.generation ∧ ∀ generation, .dialed generation ∈ effects →
      engine.generation ≤ generation ∧ generation ≤ after.generation := by
  induction ticks with
  | done => exact ⟨Nat.le_refl _, nofun⟩
  | @next engine middle after first later awake tick ticks ih =>
      obtain ⟨rises, between⟩ := ih
      have risen : engine.generation ≤ middle.generation := by
        cases tick <;> first | exact Nat.le_refl _ | exact Nat.le_succ _
      refine ⟨Nat.le_trans risen rises, fun generation member => ?_⟩
      rcases List.mem_append.mp member with early | late
      · cases tick.brings early with
        | idle quiet => cases quiet
        | dialed vacant => exact ⟨Nat.le_refl _, Nat.le_trans risen rises⟩
      · exact ⟨Nat.le_trans risen (between generation late).1, (between generation late).2⟩

theorem Course.dialed {now : Time} {engine after : Engine} {stimulus : Stimulus}
    {effects : List Effect} (course : Course now stimulus engine effects after)
    {generation : Nat} (member : .dialed generation ∈ effects) :
    engine.generation ≤ generation ∧ generation ≤ after.generation := by
  obtain ⟨first, middle, later, onset, ticks, rfl⟩ := course
  obtain ⟨rises, between⟩ := ticks.dialed
  have risen : engine.generation ≤ middle.generation := by
    cases onset <;> first | exact Nat.le_refl _ | exact Nat.le_succ _
  rcases List.mem_append.mp member with early | late
  · cases onset.brings early with
    | idle quiet => cases quiet
    | dialed failed => exact ⟨Nat.le_refl _, Nat.le_trans risen rises⟩
  · exact ⟨Nat.le_trans risen (between generation late).1, (between generation late).2⟩

/-- What sockets are attached in a course is reported by their attempt. -/
theorem Course.attached {now : Time} {engine after : Engine} {stimulus : Stimulus}
    {effects : List Effect} (course : Course now stimulus engine effects after) {socket : Nat}
    (member : .attached socket ∈ effects) :
    stimulus = .report engine.generation (.connected socket) := by
  obtain ⟨first, middle, later, onset, ticks, rfl⟩ := course
  rcases List.mem_append.mp member with early | late
  · cases onset.brings early with
    | idle quiet => cases quiet
    | attached connected => exact connected
  · have none := ticks.forall_effects (fun effect => ∀ socket, effect ≠ .attached socket)
      (fun tick effect member socket same => by
        subst same
        cases tick.brings member with
        | idle quiet => cases quiet) _ late socket
    exact absurd rfl none

/-- A report of another generation leaves a connection as it is. -/
theorem Connection.react_ignored (connection : Connection) (now : Time) {generation : Nat}
    (report : Report) (other : generation ≠ connection.engine.generation) :
    connection.react now (.report generation report) = (connection, []) ∨
      connection.react now (.report generation report) =
        (connection, (connection.engine.ignoreReport report).2) := by
  by_cases running : connection.engine.life = .running
  · have stepped : connection.engine.step now (.report generation report) =
        (connection.engine, (connection.engine.ignoreReport report).2) := by
      unfold Engine.step
      rw [running]
      dsimp only
      rw [if_neg other]
      cases report <;> rfl
    exact .inr (react_of_step running stepped running)
  · exact .inl (if_neg running)

namespace Turn

variable {turn : Turn}

/-- The engine leaves its generation in a turn. -/
def Leaves (turn : Turn) : Prop := turn.after.engine.generation ≠ turn.before.engine.generation

/-- The engine leaves its generation because of what a task of some generation reports. -/
def IsBrokenBy (generation : Nat) (turn : Turn) : Prop :=
  (∃ report, turn.stimulus? = some (.report generation report)) ∧ turn.Leaves

/-- An attempt is started in a turn, in the generation in which the engine then is. -/
def Dials (generation : Nat) (turn : Turn) : Prop :=
  .dialed generation ∈ turn.effects ∧ turn.after.engine.generation = generation

/-- A turn changes nothing, answers nobody and leaves no line in the log; a trace says that the
report was too late, and a socket that comes too late is closed. -/
structure IsIgnored (turn : Turn) : Prop where
  unchanged : turn.after = turn.before
  silent : ∀ effect ∈ turn.effects, effect = .noted .staleReport ∨
    ∃ generation socket, turn.stimulus? = some (.report generation (.connected socket)) ∧
      effect = .closed socket

/-- An engine that leaves its generation goes to the next. -/
theorem generation_after (sound : turn.before.IsSound)
    (distinct : turn.before.engine.pending.IsDistinct) :
    turn.after.engine.generation = turn.before.engine.generation ∨
      turn.after.engine.generation = turn.before.engine.generation + 1 := by
  cases turn.becomes sound with
  | idle board unheard like engine silent =>
      rw [engine]
      exact .inl rfl
  | heard stimulus board more hears awake like engine effects farewell =>
      rw [engine]
      cases Engine.step_reacts turn.time awake distinct stimulus with
      | cut cause running torn => exact .inr torn.left
      | shutDown asked stopped torn => exact .inr torn.left
      | collapse uncut unasked collapsed same => exact .inl same
      | goOn uncut unasked goes => exact .inl goes.generation

/-- What a turn does beyond telling callers comes from the engine, which has heard something. -/
theorem reacted (sound : turn.before.IsSound) {effect : Effect} (busy : effect.isIdle = false)
    (member : effect ∈ turn.effects) :
    ∃ stimulus, turn.heard? = some stimulus ∧ turn.before.engine.IsAwake ∧
      effect ∈ (turn.before.engine.step turn.time stimulus).2 ∧
      turn.after.engine.generation =
        (turn.before.engine.step turn.time stimulus).1.generation := by
  cases turn.becomes sound with
  | idle board unheard like engine silent =>
      rw [silent] at member
      cases member
  | heard stimulus board more hears awake like engine effects farewell =>
      refine ⟨stimulus, hears, awake, ?_, by rw [engine]⟩
      rw [effects] at member
      refine (List.mem_append.mp member).resolve_right fun last => ?_
      exact nomatch busy.symm.trans (Life.isIdle_of_isFarewell (farewell _ last))

theorem dialed (sound : turn.before.IsSound) (distinct : turn.before.engine.pending.IsDistinct)
    {generation : Nat} (member : .dialed generation ∈ turn.effects) : turn.Dials generation := by
  refine ⟨member, ?_⟩
  obtain ⟨stimulus, -, awake, reacted, current⟩ := turn.reacted sound rfl member
  have between := (Engine.step_course turn.time awake stimulus).dialed reacted
  have unmoved (same : (turn.before.engine.step turn.time stimulus).1.generation =
      turn.before.engine.generation) :
      (turn.before.engine.step turn.time stimulus).1.generation = generation :=
    Nat.le_antisymm (same ▸ between.1) between.2
  rw [current]
  cases Engine.step_reacts turn.time awake distinct stimulus with
  | cut cause running torn =>
      obtain ⟨reaction, ends, isOpen, undialed⟩ := Engine.step_of_cut awake cause
      rw [ends] at reacted ⊢
      rcases List.mem_append.mp reacted with early | last
      · exact absurd rfl (undialed _ early generation)
      · exact (Engine.dialed_of_reconnect isOpen last).symm
  | shutDown asked stopped torn =>
      subst asked
      unfold Engine.step at reacted
      rw [awake.running] at reacted
      exact absurd rfl (Engine.forall_shutDown Effect.IsUndialed _ (fun _ _ => nofun)
        (fun _ => nofun) (fun _ _ => nofun) (fun _ _ => nofun) _ reacted generation)
  | collapse uncut unasked collapsed same => exact unmoved same
  | goOn uncut unasked goes => exact unmoved goes.generation

/-- A socket is attached in the generation of the attempt that has brought it. -/
theorem attached (sound : turn.before.IsSound) (distinct : turn.before.engine.pending.IsDistinct)
    {socket : Nat} (member : .attached socket ∈ turn.effects) :
    turn.stimulus? = some (.report turn.before.engine.generation (.connected socket)) ∧
      ¬turn.Leaves := by
  obtain ⟨stimulus, hears, awake, reacted, current⟩ := turn.reacted sound rfl member
  have told := (Engine.step_course turn.time awake stimulus).attached reacted
  subst told
  refine ⟨stimulus?_of_heard? hears, not_not.mpr ?_⟩
  rw [current]
  cases Engine.step_reacts turn.time awake distinct
      (.report turn.before.engine.generation (.connected socket)) with
  | cut cause => cases cause
  | shutDown asked => cases asked
  | collapse uncut unasked collapsed same => exact same
  | goOn uncut unasked goes => exact goes.generation

/-- A report of another generation is ignored. -/
theorem ignored {generation : Nat} {report : Report}
    (told : turn.stimulus? = some (.report generation report))
    (other : generation ≠ turn.before.engine.generation) : turn.IsIgnored := by
  have reports := move_of_reported told
  obtain ⟨time, move, connection⟩ := turn
  subst reports
  have reacts : effects ⟨time, .report generation report, connection⟩ =
      (connection.react time (.report generation report)).2 := rfl
  rcases connection.react_ignored time report other with same | same
  · refine ⟨congrArg Prod.fst same, ?_⟩
    rw [reacts, same]
    exact nofun
  · refine ⟨congrArg Prod.fst same, fun effect member => ?_⟩
    rw [reacts, same] at member
    cases report with
    | connected socket =>
        rcases List.mem_cons.mp member with noted | closing
        · exact .inl noted
        · exact .inr ⟨generation, socket, rfl, List.mem_singleton.mp closing⟩
    | _ => exact .inl (List.mem_singleton.mp member)

theorem IsIgnored.not_leaves (ignored : turn.IsIgnored) : ¬turn.Leaves :=
  not_not.mpr (congrArg (fun connection => connection.engine.generation) ignored.unchanged)

/-- Only a report of the current generation makes the engine leave it. -/
theorem IsBrokenBy.current {generation : Nat} (broken : turn.IsBrokenBy generation) :
    generation = turn.before.engine.generation := by
  obtain ⟨⟨report, told⟩, leaves⟩ := broken
  by_contra other
  exact (turn.ignored told other).not_leaves leaves

end Turn

/-- Turns in which an engine goes from one generation to the next. -/
structure IsSuccession (turns : List Turn) : Prop where
  /-- An engine leaves its generation exactly when the connection is torn down or ended. -/
  torn : ∀ turn ∈ turns, turn.Leaves ↔ ∃ stimulus ∈ turn.heard?,
    turn.before.engine.IsCut turn.time stimulus ∨ stimulus = .command .shutdown
  next : ∀ turn ∈ turns, turn.Leaves →
    turn.after.engine.generation = turn.before.engine.generation + 1
  /-- An engine that leaves its generation goes to one in which it never was before, and in which no
  attempt was started. -/
  fresh : turns.Pairwise fun earlier turn => turn.Leaves →
    earlier.before.engine.generation < turn.after.engine.generation ∧
      ∀ generation, .dialed generation ∈ earlier.effects →
        generation < turn.after.engine.generation
  /-- Every attempt is started in the generation in which the engine is. -/
  dialed : ∀ turn ∈ turns, ∀ generation, .dialed generation ∈ turn.effects → turn.Dials generation
  /-- Every socket is attached in the generation of its attempt. -/
  attached : ∀ turn ∈ turns, ∀ socket, .attached socket ∈ turn.effects →
    turn.stimulus? = some (.report turn.before.engine.generation (.connected socket)) ∧
      ¬turn.Leaves
  /-- Whatever is reported of a generation that has been left is ignored. -/
  inert : turns.Pairwise fun turn later => turn.Leaves → ∀ generation report,
    generation ≤ turn.before.engine.generation →
      later.stimulus? = some (.report generation report) → later.IsIgnored
  /-- The tasks of a generation make the engine leave it once at most. -/
  once : turns.Pairwise fun turn later => ∀ generation,
    turn.IsBrokenBy generation → ¬later.IsBrokenBy generation

namespace Connection

/-- If generations only rise within turns, they rise from turn to turn. -/
theorem pairwise_turns {connection : Connection} {moves : List (Time × Move)}
    (rises : ∀ turn ∈ connection.turns moves,
      turn.before.engine.generation ≤ turn.after.engine.generation) :
    (∀ turn ∈ connection.turns moves,
      connection.engine.generation ≤ turn.before.engine.generation) ∧
    (connection.turns moves).Pairwise fun earlier later =>
      earlier.after.engine.generation ≤ later.before.engine.generation := by
  induction moves generalizing connection with
  | nil => exact ⟨List.forall_mem_nil _, .nil⟩
  | cons head rest ih =>
      obtain ⟨time, move⟩ := head
      let first : Turn := ⟨time, move, connection⟩
      have turns : connection.turns ((time, move) :: rest) = first :: first.after.turns rest := rfl
      rw [turns] at rises ⊢
      obtain ⟨risen, later⟩ := List.forall_mem_cons.mp rises
      obtain ⟨above, ordered⟩ := ih later
      refine ⟨List.forall_mem_cons.mpr ⟨Nat.le_refl _, fun turn member => ?_⟩, .cons above ordered⟩
      exact Nat.le_trans risen (above turn member)

theorem generation_le_of_mem_turns {endpoint : Endpoint} {settings : Settings}
    {moves : List (Time × Move)} {turn : Turn}
    (member : turn ∈ (start endpoint settings).turns moves) :
    turn.before.engine.generation ≤ turn.after.engine.generation := by
  obtain ⟨sound, distinct⟩ := sound_distinct_of_mem_turns member
  rcases turn.generation_after sound distinct with same | risen <;> omega

theorem generations_rise (endpoint : Endpoint) (settings : Settings)
    (moves : List (Time × Move)) :
    ((start endpoint settings).turns moves).Pairwise fun earlier later =>
      earlier.after.engine.generation ≤ later.before.engine.generation :=
  (pairwise_turns fun _ member => generation_le_of_mem_turns member).2

/-- In every run the engine goes from one generation to the next, and what belongs to one that it
has left changes nothing. -/
theorem isSuccession_turns (endpoint : Endpoint) (settings : Settings)
    (moves : List (Time × Move)) :
    IsSuccession ((start endpoint settings).turns moves) := by
  have next {turn : Turn} (member : turn ∈ (start endpoint settings).turns moves)
      (leaves : turn.Leaves) :
      turn.after.engine.generation = turn.before.engine.generation + 1 := by
    obtain ⟨sound, distinct⟩ := sound_distinct_of_mem_turns member
    exact (turn.generation_after sound distinct).resolve_left leaves
  have dialed {turn : Turn} (member : turn ∈ (start endpoint settings).turns moves)
      {generation : Nat} (started : .dialed generation ∈ turn.effects) :
      turn.Dials generation := by
    obtain ⟨sound, distinct⟩ := sound_distinct_of_mem_turns member
    exact turn.dialed sound distinct started
  have ordered := generations_rise endpoint settings moves
  have inert : ((start endpoint settings).turns moves).Pairwise fun turn later => turn.Leaves →
      ∀ generation report, generation ≤ turn.before.engine.generation →
        later.stimulus? = some (.report generation report) → later.IsIgnored := by
    refine ordered.imp_of_mem fun {turn later} member _ order leaves generation report old told => ?_
    have risen := next member leaves
    exact later.ignored told (by omega)
  constructor
  case torn =>
    intro turn member
    obtain ⟨sound, distinct⟩ := sound_distinct_of_mem_turns member
    exact (turn.isCaused sound distinct).torn
  case next => exact fun turn => next
  case fresh =>
    refine ordered.imp_of_mem fun {earlier turn} member also order leaves => ?_
    have risen := next also leaves
    have before := generation_le_of_mem_turns member
    refine ⟨by omega, fun generation started => ?_⟩
    have current := (dialed member started).2
    omega
  case dialed => exact fun turn member generation => dialed member
  case attached =>
    intro turn member socket
    obtain ⟨sound, distinct⟩ := sound_distinct_of_mem_turns member
    exact turn.attached sound distinct
  case inert => exact inert
  case once =>
    refine inert.imp fun {turn later} inert generation broken again => ?_
    obtain ⟨⟨report, told⟩, leaves⟩ := again
    have old := Nat.le_of_eq broken.current
    exact (inert broken.2 generation report old told).not_leaves leaves

end Connection

end RequestMux.Client
