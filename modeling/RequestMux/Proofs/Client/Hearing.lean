import RequestMux.Proofs.Client.Turns

/-!
# What the engine hears in a turn

In a turn a running engine hears one stimulus, or none and only the handle does something.
Either way the handle and the mailbox touch no more of the engine than the flags and the
number on the board that are theirs.
-/

namespace RequestMux.Client

/-- Whether two boards show the same phase, and the same of the writer. -/
structure Board.IsLike (board other : Board) : Prop where
  phase : board.phase = other.phase
  writing : board.writing = other.writing

theorem Board.IsLike.refl (board : Board) : board.IsLike board := ⟨rfl, rfl⟩

namespace Turn

/-- What the engine is told in a turn. -/
def stimulus? (turn : Turn) : Option Stimulus :=
  match turn.move with
  | .serve => turn.before.mailbox.head?.map .command
  | .report generation report => some (.report generation report)
  | .alarm => some .alarm
  | .ping sync => some (.ping sync)
  | _ => none

/-- What the engine hears in a turn: what it is told, if it still runs. -/
def heard? (turn : Turn) : Option Stimulus :=
  if turn.before.engine.life = .running then turn.stimulus? else none

theorem stimulus?_of_heard? {turn : Turn} {stimulus : Stimulus}
    (heard : turn.heard? = some stimulus) : turn.stimulus? = some stimulus := by
  unfold heard? at heard
  split at heard
  · exact heard
  · cases heard

theorem running_of_heard {turn : Turn} {stimulus : Stimulus}
    (heard : turn.heard? = some stimulus) : turn.before.engine.life = .running := by
  unfold heard? at heard
  split at heard
  · next running => exact running
  · cases heard

/-- A report is a move of its own. -/
theorem move_of_reported {turn : Turn} {generation : Nat} {report : Report}
    (told : turn.stimulus? = some (.report generation report)) :
    turn.move = .report generation report := by
  unfold stimulus? at told
  split at told
  · obtain ⟨command, -, absurd⟩ := Option.map_eq_some_iff.mp told
    cases absurd
  · next here =>
      obtain ⟨rfl, rfl⟩ := Stimulus.report.inj (Option.some.inj told)
      exact here
  all_goals cases told

/-- So is an alarm. -/
theorem move_of_alarm {turn : Turn} (told : turn.stimulus? = some .alarm) :
    turn.move = .alarm := by
  unfold stimulus? at told
  split at told
  · obtain ⟨command, -, absurd⟩ := Option.map_eq_some_iff.mp told
    cases absurd
  · cases told
  · next here => exact here
  all_goals cases told

/-- What becomes of the engine in a turn. -/
inductive Becomes (turn : Turn) : Prop where
  /-- The engine hears nothing. -/
  | idle (board : Board) (unheard : turn.heard? = none)
      (like : board.IsLike turn.before.engine.board)
      (engine : turn.after.engine = { turn.before.engine with board })
      (silent : turn.effects = [])
  | heard (stimulus : Stimulus) (board : Board) (more : List Effect)
      (hears : turn.heard? = some stimulus) (awake : turn.before.engine.IsAwake)
      (like : board.IsLike (turn.before.engine.step turn.time stimulus).1.board)
      (engine : turn.after.engine =
        { (turn.before.engine.step turn.time stimulus).1 with board })
      (effects : turn.effects = (turn.before.engine.step turn.time stimulus).2 ++ more)
      (farewell : ∀ effect ∈ more,
        (turn.before.engine.step turn.time stimulus).1.life.isFarewell effect = true)

end Turn

namespace Connection

variable {connection : Connection}

/-- The handle changes no more of the engine than what it shares with it. -/
theorem submit_engine (connection : Connection) (packet : Wire.Packet) (ticket : Option Nat) :
    ∃ board, board.IsLike connection.engine.board ∧
      (connection.submit packet ticket).2.engine = { connection.engine with board } := by
  rcases connection.submit_cases packet ticket with rejected | ⟨-, taken⟩
  · rw [rejected]
    exact ⟨_, .refl _, rfl⟩
  · rw [taken]
    refine ⟨_, ?_, rfl⟩
    exact ⟨rfl, rfl⟩

theorem shutdown_engine (connection : Connection) :
    ∃ board, board.IsLike connection.engine.board ∧
      connection.shutdown.engine = { connection.engine with board } := by
  rw [shutdown, post_engine]
  refine ⟨_, ?_, rfl⟩
  exact ⟨rfl, rfl⟩

theorem gentleShutdown_engine (connection : Connection) :
    ∃ board, board.IsLike connection.engine.board ∧
      connection.gentleShutdown.2.engine = { connection.engine with board } := by
  unfold gentleShutdown
  split
  · exact ⟨_, .refl _, rfl⟩
  · split
    · exact ⟨_, .refl _, rfl⟩
    · exact shutdown_engine connection

theorem post_engine_like (connection : Connection) (command : Command) :
    ∃ board, board.IsLike connection.engine.board ∧
      (connection.post command).engine = { connection.engine with board } := by
  rw [post_engine]
  exact ⟨_, .refl _, rfl⟩

/-- Nor does a connection change more of a reaction. -/
theorem takeOver_engine (rest : List Command) (reaction : Reaction) (connection : Connection) :
    ∃ board more, board.IsLike reaction.1.board ∧
      (connection.takeOver rest reaction).1.engine = { reaction.1 with board } ∧
      (connection.takeOver rest reaction).2 = reaction.2 ++ more ∧
      ∀ effect ∈ more, reaction.1.life.isFarewell effect = true := by
  obtain ⟨board, more, engine, effects, farewell⟩ := connection.takeOver_cases rest reaction
  refine ⟨board, more, ?_, engine, effects, farewell⟩
  have shown : board = (connection.takeOver rest reaction).1.engine.board := by rw [engine]
  rw [shown]
  unfold takeOver
  split <;> exact ⟨rfl, rfl⟩

end Connection

namespace Turn

/-- A turn lets the engine hear something, or leaves all of it that is not shared. -/
theorem becomes (turn : Turn) (sound : turn.before.IsSound) : turn.Becomes := by
  obtain ⟨time, move, connection⟩ := turn
  have handles {move : Move} {after : Connection}
      (unheard : (⟨time, move, connection⟩ : Turn).heard? = none)
      (made : connection.make time move = (after, []))
      (shared : ∃ board, board.IsLike connection.engine.board ∧
        after.engine = { connection.engine with board }) :
      (⟨time, move, connection⟩ : Turn).Becomes := by
    obtain ⟨board, like, engine⟩ := shared
    refine .idle board unheard like ?_ (congrArg Prod.snd made)
    exact (congrArg (fun made => made.1.engine) made).trans engine
  have hears {move : Move} (stimulus : Stimulus) (rest : List Command)
      (running : connection.engine.life = .running)
      (heard : (⟨time, move, connection⟩ : Turn).heard? = some stimulus)
      (made : connection.make time move =
        connection.takeOver rest (connection.engine.step time stimulus)) :
      (⟨time, move, connection⟩ : Turn).Becomes := by
    obtain ⟨board, more, like, engine, effects, farewell⟩ :=
      connection.takeOver_engine rest (connection.engine.step time stimulus)
    refine .heard stimulus board more heard (sound.awake running) like ?_ ?_ farewell
    · exact (congrArg (fun made => made.1.engine) made).trans engine
    · exact (congrArg Prod.snd made).trans effects
  have reacts {move : Move} {stimulus : Stimulus}
      (heard : (⟨time, move, connection⟩ : Turn).heard? =
        if connection.engine.life = .running then some stimulus else none)
      (made : connection.make time move = connection.react time stimulus) :
      (⟨time, move, connection⟩ : Turn).Becomes := by
    by_cases running : connection.engine.life = .running
    · rw [if_pos running] at heard
      rw [Connection.react, if_pos running] at made
      exact hears stimulus _ running heard made
    · rw [if_neg running] at heard
      rw [Connection.react, if_neg running] at made
      exact handles heard made ⟨_, .refl _, rfl⟩
  cases move with
  | submit packet ticket =>
      exact handles (ite_self none) rfl (connection.submit_engine packet ticket)
  | shutdown => exact handles (ite_self none) rfl connection.shutdown_engine
  | gentleShutdown => exact handles (ite_self none) rfl connection.gentleShutdown_engine
  | reconnect => exact handles (ite_self none) rfl (connection.post_engine_like .reconnect)
  | disablePing => exact handles (ite_self none) rfl (connection.post_engine_like .disablePing)
  | serve =>
      cases waiting : connection.mailbox with
      | nil =>
          refine handles ?_ ?_ ⟨_, .refl _, rfl⟩
          · simp [heard?, stimulus?, waiting]
          · simp [Connection.make, Connection.serve, waiting]
      | cons command rest =>
          have running : connection.engine.life = .running := by
            by_contra ceased
            rw [sound.idle ceased] at waiting
            cases waiting
          refine hears (.command command) rest running ?_ ?_
          · simp [heard?, stimulus?, running, waiting]
          · simp [Connection.make, Connection.serve, waiting]
  | report generation report => exact reacts rfl rfl
  | alarm => exact reacts rfl rfl
  | ping sync => exact reacts rfl rfl

end Turn

end RequestMux.Client
