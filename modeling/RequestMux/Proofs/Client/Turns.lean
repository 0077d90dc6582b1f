import RequestMux.Proofs.Client.Course

/-!
# Runs of a connection

A run is any sequence of turns at any times: the handle is used, the engine takes a
command out of the mailbox, a task reports something, an alarm or a ping comes due.
Nothing is assumed about which turn may follow which, so that a run on any network is
one of these.
-/

namespace RequestMux.Client

/-- What can happen to a connection. -/
inductive Move where
  /-- Write a packet; with a ticket, its outcome is told. -/
  | submit (packet : Wire.Packet) (ticket : Option Nat)
  /-- Shut down, or give up the handle. -/
  | shutdown
  | gentleShutdown
  | reconnect
  | disablePing
  /-- The engine takes a command. -/
  | serve
  /-- A task of some generation reports something. -/
  | report (generation : Nat) (report : Report)
  | alarm
  /-- The time for a ping with this id has come. -/
  | ping (sync : UInt32)
  deriving DecidableEq, Repr

namespace Connection

/-- Let something happen to a connection. -/
def make (now : Time) (move : Move) (connection : Connection) : Connection × List Effect :=
  match move with
  | .submit packet ticket => ((connection.submit packet ticket).2, [])
  | .shutdown => (connection.shutdown, [])
  | .gentleShutdown => (connection.gentleShutdown.2, [])
  | .reconnect => (connection.reconnect, [])
  | .disablePing => (connection.disablePing, [])
  | .serve => connection.serve now
  | .report generation report => connection.react now (.report generation report)
  | .alarm => connection.react now .alarm
  | .ping sync => connection.react now (.ping sync)

end Connection

/-- One turn of a run: a move at a time, and the connection before it. -/
structure Turn where
  time : Time
  move : Move
  before : Connection
  deriving DecidableEq, Repr

namespace Turn

/-- The connection after a turn. -/
def after (turn : Turn) : Connection := (turn.before.make turn.time turn.move).1

/-- What the engine does in a turn. -/
def effects (turn : Turn) : List Effect := (turn.before.make turn.time turn.move).2

/-- The ticket of a write that is accepted in a turn. -/
def accepted? (turn : Turn) : Option Nat :=
  match turn.move with
  | .submit packet ticket => if (turn.before.submit packet ticket).1 then ticket else none
  | _ => none

end Turn

/-- All that the engine does in some turns. -/
def history (turns : List Turn) : List Effect := turns.flatMap Turn.effects

@[simp]
theorem history_append (turns more : List Turn) :
    history (turns ++ more) = history turns ++ history more := by
  simp [history]

@[simp]
theorem history_singleton (turn : Turn) : history [turn] = turn.effects := by
  simp [history]

namespace Connection

/-- The turns of a run. -/
def turns (connection : Connection) : List (Time × Move) → List Turn
  | [] => []
  | (time, move) :: rest =>
      ⟨time, move, connection⟩ :: turns (connection.make time move).1 rest

/-- The connection after a run. -/
def run (connection : Connection) : List (Time × Move) → Connection
  | [] => connection
  | (time, move) :: rest => run (connection.make time move).1 rest

theorem turns_append (connection : Connection) (moves more : List (Time × Move)) :
    connection.turns (moves ++ more) =
      connection.turns moves ++ (connection.run moves).turns more := by
  induction moves generalizing connection with
  | nil => rfl
  | cons head rest ih =>
      obtain ⟨time, move⟩ := head
      exact congrArg (⟨time, move, connection⟩ :: ·) (ih _)

theorem mem_turns_of_front {connection : Connection} {past moves : List (Time × Move)}
    {turn : Turn} (front : past <+: moves) (member : turn ∈ connection.turns past) :
    turn ∈ connection.turns moves := by
  obtain ⟨rest, rfl⟩ := front
  rw [turns_append]
  exact List.mem_append_left _ member

theorem run_append (connection : Connection) (moves more : List (Time × Move)) :
    connection.run (moves ++ more) = (connection.run moves).run more := by
  induction moves generalizing connection with
  | nil => rfl
  | cons head rest ih => exact ih _

/-- What every turn keeps holds after every run. -/
theorem run_invariant {motive : List Turn → Connection → Prop}
    (keep : ∀ past turn, motive past turn.before → motive (past ++ [turn]) turn.after)
    (moves : List (Time × Move)) {past : List Turn} {connection : Connection}
    (holds : motive past connection) :
    motive (past ++ connection.turns moves) (connection.run moves) := by
  induction moves generalizing past connection with
  | nil => simpa [turns, run] using holds
  | cons head rest ih =>
      obtain ⟨time, move⟩ := head
      have next := ih (keep past ⟨time, move, connection⟩ holds)
      rw [List.append_assoc] at next
      exact next

/-- A write is turned away, or waits in the mailbox. -/
theorem submit_cases (connection : Connection) (packet : Wire.Packet) (ticket : Option Nat) :
    connection.submit packet ticket = (false, connection) ∨
      connection.engine.life = .running ∧
        connection.submit packet ticket =
          (true, { connection.setBoard { connection.board with
            outstanding := connection.board.outstanding + ticket.toList.length } with
              mailbox := connection.mailbox ++ [.write packet ticket] }) := by
  unfold submit
  split
  · exact .inl rfl
  · next isOpen =>
      have running : connection.engine.life = .running := by
        simp only [Bool.or_eq_true, not_or, bne_iff_ne, ne_eq, not_not] at isOpen
        exact isOpen.2
      refine .inr ⟨running, ?_⟩
      cases ticket with
      | none => exact congrArg (Prod.mk true) (if_pos running)
      | some ticket => exact congrArg (Prod.mk true) (if_pos running)

@[simp]
theorem post_engine (connection : Connection) (command : Command) :
    (connection.post command).engine = connection.engine := by
  unfold post
  split <;> rfl

/-- Commands wait only as long as the engine runs, and a running engine is awake. -/
structure IsSound (connection : Connection) : Prop where
  awake : connection.engine.life = .running → connection.engine.IsAwake
  idle : connection.engine.life ≠ .running → connection.mailbox = []

namespace IsSound

theorem start (endpoint : Endpoint) (settings : Settings) :
    (Connection.start endpoint settings).IsSound :=
  ⟨fun running => ⟨running, nofun⟩, fun _ => rfl⟩

theorem setBoard {connection : Connection} (sound : connection.IsSound) (board : Board) :
    (connection.setBoard board).IsSound :=
  ⟨fun running => ⟨running, (sound.awake running).open_⟩, sound.idle⟩

theorem post {connection : Connection} (sound : connection.IsSound) (command : Command) :
    (connection.post command).IsSound := by
  unfold Connection.post
  split
  · next running => exact ⟨sound.awake, fun stopped => absurd running stopped⟩
  · exact sound

theorem takeOver {connection : Connection} {now : Time} {stimulus : Stimulus}
    (awake : connection.engine.IsAwake) (rest : List Command) :
    (connection.takeOver rest (connection.engine.step now stimulus)).1.IsSound := by
  have course := Engine.step_course now awake stimulus
  unfold Connection.takeOver
  split
  · next running =>
      exact ⟨fun _ => course.isAwake awake running, fun stopped => absurd running stopped⟩
  · next stopped =>
      exact ⟨fun running => absurd (stopped.symm.trans running) nofun, fun _ => rfl⟩
  · next collapsed =>
      exact ⟨fun running => absurd (collapsed.symm.trans running) nofun, fun _ => rfl⟩

theorem react {connection : Connection} (sound : connection.IsSound) (now : Time)
    (stimulus : Stimulus) : (connection.react now stimulus).1.IsSound := by
  unfold Connection.react
  split
  · next running => exact takeOver (sound.awake running) connection.mailbox
  · exact sound

theorem serve {connection : Connection} (sound : connection.IsSound) (now : Time) :
    (connection.serve now).1.IsSound := by
  unfold Connection.serve
  split
  · exact sound
  · next command rest waiting =>
      by_cases running : connection.engine.life = .running
      · exact takeOver (sound.awake running) rest
      · rw [sound.idle running] at waiting
        cases waiting

theorem shutdown {connection : Connection} (sound : connection.IsSound) :
    connection.shutdown.IsSound :=
  (sound.setBoard _).post .shutdown

theorem make {connection : Connection} (sound : connection.IsSound) (now : Time)
    (move : Move) : (connection.make now move).1.IsSound := by
  cases move with
  | submit packet ticket =>
      simp only [Connection.make, Connection.submit]
      split
      · exact sound
      · exact (sound.setBoard _).post _
  | shutdown => exact sound.shutdown
  | gentleShutdown =>
      simp only [Connection.make, Connection.gentleShutdown]
      split
      · exact sound
      · split
        · exact sound
        · exact sound.shutdown
  | reconnect => exact sound.post .reconnect
  | disablePing => exact sound.post .disablePing
  | serve => exact sound.serve now
  | report generation report => exact sound.react now (.report generation report)
  | alarm => exact sound.react now .alarm
  | ping sync => exact sound.react now (.ping sync)

end IsSound

end Connection

/-- What a connection adds to the reaction with which its engine has stopped, or broken down. -/
def Life.isFarewell (life : Life) (effect : Effect) : Bool :=
  match life, effect with
  | .stopped, .resolved _ .error => true
  | .stopped, .noted _ => true
  | .collapsed, .abandoned _ => true
  | _, _ => false

theorem Life.isIdle_of_isFarewell {life : Life} {effect : Effect}
    (said : life.isFarewell effect = true) : effect.isIdle = true := by
  cases effect with
  | resolved _ _ => rfl
  | abandoned _ => rfl
  | noted _ => rfl
  | _ => cases life <;> cases said

/-- A statement about the history and the engine that the handle cannot make false, that onsets
and ticks keep, and that survives the end of the engine. -/
structure IsKept (motive : List Effect → Engine → Prop) : Prop where
  shown : ∀ {past engine} (board : Board), motive past engine → motive past { engine with board }
  onset : ∀ {now stimulus past engine effects after}, engine.IsAwake →
    Onset now engine stimulus effects after → motive past engine → motive (past ++ effects) after
  tick : ∀ {now past engine effects after}, engine.IsAwake → Tick now engine effects after →
    motive past engine → motive (past ++ effects) after
  ends : ∀ {past engine more}, (∀ effect ∈ more, engine.life.isFarewell effect = true) →
    motive past engine → motive (past ++ more) engine

/-- A connection adds no more to a reaction than what winds the engine up. -/
theorem Connection.takeOver_cases (rest : List Command) (reaction : Reaction)
    (connection : Connection) :
    ∃ board more, (connection.takeOver rest reaction).1.engine = { reaction.1 with board } ∧
      (connection.takeOver rest reaction).2 = reaction.2 ++ more ∧
      ∀ effect ∈ more, reaction.1.life.isFarewell effect = true := by
  unfold Connection.takeOver
  split
  · exact ⟨_, [], rfl, (List.append_nil _).symm, nofun⟩
  · next stopped =>
      refine ⟨_, _, rfl, List.append_assoc _ _ _, fun effect member => ?_⟩
      rw [stopped]
      rcases List.mem_append.mp member with told | last
      · obtain ⟨ticket, -, rfl⟩ := List.mem_map.mp told
        rfl
      · rw [List.mem_singleton.mp last]
        rfl
  · next collapsed =>
      refine ⟨_, _, rfl, rfl, fun effect member => ?_⟩
      obtain ⟨ticket, -, rfl⟩ := List.mem_map.mp member
      rw [collapsed]
      rfl

/-- A connection takes over a reaction with which its engine goes on, and keeps the rest. -/
theorem Connection.react_of_step {now : Time} {stimulus : Stimulus} {connection : Connection}
    {after : Engine} {effects : List Effect} (running : connection.engine.life = .running)
    (step : connection.engine.step now stimulus = (after, effects))
    (goesOn : after.life = .running) :
    connection.react now stimulus = ({ connection with engine := after }, effects) := by
  unfold react takeOver
  rw [if_pos running, step]
  dsimp only
  rw [goesOn]

theorem Connection.mem_takeOver {rest : List Command} {reaction : Reaction}
    {connection : Connection} {effect : Effect}
    (member : effect ∈ (connection.takeOver rest reaction).2) :
    effect ∈ reaction.2 ∨ effect.isIdle = true := by
  obtain ⟨_, more, -, effects, farewell⟩ := connection.takeOver_cases rest reaction
  rw [effects] at member
  rcases List.mem_append.mp member with reacted | added
  · exact .inl reacted
  · exact .inr (Life.isIdle_of_isFarewell (farewell effect added))

/-- Every turn of a run begins with a sound connection. -/
theorem Connection.isSound_of_mem_turns {endpoint : Endpoint} {settings : Settings}
    {moves : List (Time × Move)} {turn : Turn}
    (member : turn ∈ (Connection.start endpoint settings).turns moves) : turn.before.IsSound := by
  let sound (turns : List Turn) (connection : Connection) : Prop :=
    connection.IsSound ∧ ∀ turn ∈ turns, turn.before.IsSound
  have began : sound [] (.start endpoint settings) :=
    ⟨.start endpoint settings, List.forall_mem_nil _⟩
  refine (run_invariant (motive := sound) (fun past next held => ?_) moves began).2 turn member
  refine ⟨held.1.make next.time next.move, fun other earlier => ?_⟩
  rcases List.mem_append.mp earlier with old | new
  · exact held.2 other old
  · rw [List.mem_singleton.mp new]
    exact held.1

namespace IsKept

variable {motive : List Effect → Engine → Prop} {past : List Effect} {connection : Connection}

theorem takeOver (kept : IsKept motive) {now : Time} {stimulus : Stimulus} (rest : List Command)
    (awake : connection.engine.IsAwake) (holds : motive past connection.engine) :
    motive (past ++ (connection.takeOver rest (connection.engine.step now stimulus)).2)
      (connection.takeOver rest (connection.engine.step now stimulus)).1.engine := by
  have reacted : motive (past ++ (connection.engine.step now stimulus).2)
      (connection.engine.step now stimulus).1 :=
    (Engine.step_course now awake stimulus).holds past (fun onset => kept.onset awake onset holds)
      fun awake tick held => kept.tick awake tick held
  obtain ⟨board, more, engine, effects, farewell⟩ := connection.takeOver_cases rest
    (connection.engine.step now stimulus)
  rw [engine, effects, ← List.append_assoc]
  exact kept.shown board (kept.ends farewell reacted)

theorem react (kept : IsKept motive) (sound : connection.IsSound) (now : Time)
    (stimulus : Stimulus) (holds : motive past connection.engine) :
    motive (past ++ (connection.react now stimulus).2) (connection.react now stimulus).1.engine := by
  unfold Connection.react
  split
  · next running => exact kept.takeOver connection.mailbox (sound.awake running) holds
  · simpa using holds

theorem serve (kept : IsKept motive) (sound : connection.IsSound) (now : Time)
    (holds : motive past connection.engine) :
    motive (past ++ (connection.serve now).2) (connection.serve now).1.engine := by
  unfold Connection.serve
  split
  · simpa using holds
  · next command rest waiting =>
      by_cases running : connection.engine.life = .running
      · exact kept.takeOver rest (sound.awake running) holds
      · rw [sound.idle running] at waiting
        cases waiting

theorem shutdown (kept : IsKept motive) (holds : motive past connection.engine) :
    motive past connection.shutdown.engine := by
  rw [Connection.shutdown, Connection.post_engine]
  exact kept.shown _ holds

/-- What reactions keep, turns keep. -/
theorem turn (kept : IsKept motive) (turn : Turn) (sound : turn.before.IsSound)
    (holds : motive past turn.before.engine) :
    motive (past ++ turn.effects) turn.after.engine := by
  obtain ⟨time, move, connection⟩ := turn
  have still {engine : Engine} (holds : motive past engine) : motive (past ++ []) engine := by
    rw [List.append_nil]
    exact holds
  cases move with
  | submit packet ticket =>
      refine still ?_
      change motive past (connection.submit packet ticket).2.engine
      rcases connection.submit_cases packet ticket with rejected | ⟨-, taken⟩
      · rw [rejected]
        exact holds
      · rw [taken]
        exact kept.shown _ holds
  | shutdown => exact still (kept.shutdown holds)
  | gentleShutdown =>
      refine still ?_
      change motive past connection.gentleShutdown.2.engine
      unfold Connection.gentleShutdown
      split
      · exact holds
      · split
        · exact holds
        · exact kept.shutdown holds
  | reconnect =>
      refine still ?_
      change motive past (connection.post .reconnect).engine
      rw [Connection.post_engine]
      exact holds
  | disablePing =>
      refine still ?_
      change motive past (connection.post .disablePing).engine
      rw [Connection.post_engine]
      exact holds
  | serve => exact kept.serve sound time holds
  | report generation report => exact kept.react sound time (.report generation report) holds
  | alarm => exact kept.react sound time .alarm holds
  | ping sync => exact kept.react sound time (.ping sync) holds

/-- What reactions keep holds after every run. -/
theorem run (kept : IsKept motive) (endpoint : Endpoint) (settings : Settings)
    (began : motive [] (.start settings)) (moves : List (Time × Move)) :
    let start := Connection.start endpoint settings
    motive (history (start.turns moves)) (start.run moves).engine := by
  intro start
  let both (turns : List Turn) (connection : Connection) : Prop :=
    connection.IsSound ∧ motive (history turns) connection.engine
  have beginning : both [] start := ⟨.start endpoint settings, began⟩
  refine (Connection.run_invariant (motive := both) (fun past turn held => ?_) moves beginning).2
  refine ⟨held.1.make turn.time turn.move, ?_⟩
  rw [history_append, history_singleton]
  exact kept.turn turn held.1 held.2

end IsKept

end RequestMux.Client
