import RequestMux.Proofs.Client.Accounts
import RequestMux.Proofs.Client.Coherence
import RequestMux.Proofs.Client.Hearing

/-!
# States of a connection

Between two turns the phase of a connection tells what there is of an attempt, a socket, a
queue and pending requests, and the handle sees it.  All that is asked of the world is that
only an attempt under way is reported to have come to an end, and that a ping comes only where
one was scheduled.
-/

namespace RequestMux.Client

namespace Turn

/-- Whether the world keeps to what the engine has told it. -/
structure IsApt (turn : Turn) : Prop where
  attaching : turn.before.engine.life = .running → ∀ socket,
    turn.stimulus? = some (.report turn.before.engine.generation (.connected socket)) →
      turn.before.engine.attempting = true
  dialing : turn.before.engine.life = .running → ∀ failure,
    turn.stimulus? = some (.report turn.before.engine.generation (.connectFailed failure)) →
      turn.before.engine.attempting = true
  pinging : turn.before.engine.life = .running → ∀ sync,
    turn.stimulus? = some (.ping sync) → turn.before.engine.pingAt.isSome = true

end Turn

/-- Whether the world keeps to the engine in telling it something. -/
def Engine.mayHear (engine : Engine) : Stimulus → Bool
  | .report generation (.connected _) => generation != engine.generation || engine.attempting
  | .report generation (.connectFailed _) => generation != engine.generation || engine.attempting
  | .ping _ => engine.pingAt.isSome
  | _ => true

namespace Turn

theorem isApt_iff (turn : Turn) :
    turn.IsApt ↔ turn.heard?.all turn.before.engine.mayHear = true := by
  have own {stimulus : Stimulus} (running : turn.before.engine.life = .running)
      (told : turn.stimulus? = some stimulus) : turn.heard? = some stimulus := by
    rw [heard?, if_pos running, told]
  constructor
  · intro apt
    cases heard : turn.heard? with
    | none => rfl
    | some stimulus =>
        have running := running_of_heard heard
        have told := stimulus?_of_heard? heard
        change turn.before.engine.mayHear stimulus = true
        cases stimulus with
        | report generation report =>
            by_cases current : generation = turn.before.engine.generation
            · subst current
              cases report with
              | connected socket => simp [Engine.mayHear, apt.attaching running socket told]
              | connectFailed failure => simp [Engine.mayHear, apt.dialing running failure told]
              | _ => rfl
            · cases report <;> simp [Engine.mayHear, current]
        | ping sync => exact apt.pinging running sync told
        | _ => rfl
  · intro may
    constructor
    case attaching =>
      intro running socket told
      simpa [own running told, Engine.mayHear] using may
    case dialing =>
      intro running failure told
      simpa [own running told, Engine.mayHear] using may
    case pinging =>
      intro running sync told
      simpa [own running told, Engine.mayHear] using may

instance (turn : Turn) : Decidable turn.IsApt := decidable_of_iff _ turn.isApt_iff.symm

/-- The write, or the reconnect, that is accepted in a turn. -/
def opening? (turn : Turn) : Option Command :=
  match turn.move with
  | .submit packet ticket =>
    if (turn.before.submit packet ticket).1 then some (.write packet ticket) else none
  | .reconnect => if turn.before.engine.life = .running then some .reconnect else none
  | _ => none

end Turn

/-- The writes and reconnects that are accepted in some turns. -/
def openingsIn (turns : List Turn) : List Command := turns.filterMap Turn.opening?

theorem openingsIn_append (turns : List Turn) (turn : Turn) :
    openingsIn (turns ++ [turn]) = openingsIn turns ++ turn.opening?.toList := by
  rw [openingsIn, List.filterMap_append]
  cases opening : turn.opening? <;> simp [openingsIn, opening]

/-- Whether the parts of a connection fit together after some turns. -/
structure Connection.IsCoherent (turns : List Turn) (connection : Connection) : Prop where
  connecting : connection.engine.phase = .connecting ↔ connection.engine.attempting = true
  connected : connection.engine.phase = .connected ↔ connection.engine.link.isSome = true
  exclusive : ¬(connection.engine.attempting = true ∧ connection.engine.link.isSome = true)
  inFlight : connection.engine.inFlight.isSome = true → connection.engine.phase = .connected
  scheduled : connection.engine.pingAt.isSome = true → connection.engine.phase = .connected
  pinged : ∀ entry ∈ connection.engine.pending.entries, entry.waiter = .ping →
    connection.engine.phase = .connected
  /-- The queue does not stall. -/
  flowing : connection.engine.phase = .connected → connection.engine.inFlight = none →
    connection.engine.queue = []
  engaged : connection.engine.queue ≠ [] ∨ connection.engine.pending.entries ≠ [] →
    connection.engine.phase = .connecting ∨ connection.engine.phase = .connected
  /-- Whatever asks for a socket has not reached the engine. -/
  disconnected : connection.engine.phase = .disconnected →
    openingsIn turns = connection.mailbox.filter Command.isOpening
  shuttingDown : connection.engine.phase = .shuttingDown →
    connection.engine.queue = [] ∧ connection.engine.pending.entries = [] ∧
      connection.engine.link = none ∧ connection.engine.attempting = false
  phase : connection.board.phase = connection.engine.phase
  writing : connection.board.writing = connection.engine.inFlight.any QueuedWrite.counted

/-- The handle changes nothing of an engine that counts. -/
theorem Engine.IsCoherent.show_ {engine : Engine} {board : Board} (coherent : engine.IsCoherent)
    (like : board.IsLike engine.board) : ({ engine with board } : Engine).IsCoherent :=
  { coherent with
    shown := like.phase.trans coherent.shown
    calm := fun away => like.writing.trans (coherent.calm away)
    writing := like.writing.trans coherent.writing }

/-- Without an attempt and without a socket, there is nothing to do. -/
theorem Engine.IsCoherent.empty {engine : Engine} (coherent : engine.IsCoherent)
    (idle : engine.phase ≠ .connecting) (away : engine.phase ≠ .connected) :
    engine.queue = [] ∧ engine.pending.entries = [] ∧ engine.link = none ∧
      engine.attempting = false := by
  have nothing {some : Prop} (engaged : some → engine.phase = .connecting ∨
      engine.phase = .connected) : ¬some := fun there => (engaged there).elim idle away
  refine ⟨?_, ?_, ?_, ?_⟩
  · exact of_not_not (nothing fun some => coherent.engaged (.inl some))
  · exact of_not_not (nothing fun some => coherent.engaged (.inr some))
  · exact Option.not_isSome_iff_eq_none.mp (nothing fun some => .inr (coherent.connected.mpr some))
  · exact Bool.eq_false_iff.mpr (nothing fun some => .inl (coherent.connecting.mpr some))

/-- A turn leaves the engine coherent, unless it breaks down. -/
theorem Turn.IsApt.coherent {turn : Turn} (apt : turn.IsApt) (sound : turn.before.IsSound)
    (coherent : turn.before.engine.life = .collapsed ∨ turn.before.engine.IsCoherent) :
    turn.after.engine.life = .collapsed ∨ turn.after.engine.IsCoherent := by
  cases turn.becomes sound with
  | idle board unheard like engine silent =>
      rw [engine]
      exact coherent.imp_right fun coherent => coherent.show_ like
  | heard stimulus board more hears awake like engine effects farewell =>
      have standing : turn.before.engine.IsCoherent :=
        coherent.resolve_left fun collapsed => nomatch awake.running.symm.trans collapsed
      rw [engine]
      refine (standing.step awake turn.time stimulus ?_ ?_).imp_right
        fun coherent => coherent.show_ like
      · rintro failure rfl
        exact apt.dialing awake.running failure (stimulus?_of_heard? hears)
      · rintro sync rfl
        exact standing.scheduled (apt.pinging awake.running sync (stimulus?_of_heard? hears))

namespace Connection

variable {connection : Connection}

/-- The handle only adds to the mailbox. -/
theorem mailbox_post (running : connection.engine.life = .running) (command : Command) :
    (connection.post command).mailbox = connection.mailbox ++ [command] := by
  rw [post, if_pos running]

theorem mailbox_shutdown (running : connection.engine.life = .running) :
    connection.shutdown.mailbox = connection.mailbox ++ [.shutdown] := by
  let flagged := connection.setBoard { connection.board with shuttingDown := true }
  have running : flagged.engine.life = .running := running
  exact mailbox_post running .shutdown

theorem mailbox_gentleShutdown (running : connection.engine.life = .running) :
    connection.gentleShutdown.2.mailbox = connection.mailbox ∨
      connection.gentleShutdown.2.mailbox = connection.mailbox ++ [.shutdown] := by
  unfold gentleShutdown
  split
  · exact .inl rfl
  · split
    · exact .inl rfl
    · exact .inr (mailbox_shutdown running)

/-- A connection that goes on has the commands left that the engine has not taken. -/
theorem mailbox_takeOver {rest : List Command} {reaction : Reaction}
    (running : (connection.takeOver rest reaction).1.engine.life = .running) :
    reaction.1.life = .running ∧ (connection.takeOver rest reaction).1.mailbox = rest := by
  unfold takeOver at running ⊢
  split
  · next goes => exact ⟨goes, rfl⟩
  · next stopped =>
      rw [stopped] at running
      exact nomatch stopped.symm.trans running
  · next collapsed =>
      rw [collapsed] at running
      exact nomatch collapsed.symm.trans running

end Connection

namespace Turn

variable {turn : Turn}

/-- A turn that leaves the engine without socket and attempt found it so, and asked for
neither. -/
theorem vacant_before (sound : turn.before.IsSound) (running : turn.after.engine.life = .running)
    (vacant : turn.after.engine.phase = .disconnected) :
    turn.before.engine.life = .running ∧ turn.before.engine.phase = .disconnected ∧
      ∀ stimulus ∈ turn.heard?, stimulus.isOpening = false := by
  cases turn.becomes sound with
  | idle board unheard like engine silent =>
      rw [engine] at running vacant
      rw [unheard]
      exact ⟨running, vacant, nofun⟩
  | heard stimulus board more hears awake like engine effects farewell =>
      rw [engine] at running vacant
      rcases Engine.vacant_of_step awake vacant with collapsed | ⟨before, unasked⟩
      · exact nomatch running.symm.trans collapsed
      · refine ⟨awake.running, before, fun other same => ?_⟩
        cases hears.symm.trans same
        exact unasked

/-- What is accepted joins the mailbox, and whatever asks for a socket stays there, as long as the
engine does not take it. -/
theorem openings (sound : turn.before.IsSound) (running : turn.after.engine.life = .running)
    (vacant : turn.after.engine.phase = .disconnected) :
    turn.after.mailbox.filter Command.isOpening =
      turn.before.mailbox.filter Command.isOpening ++ turn.opening?.toList := by
  obtain ⟨runs, -, unasked⟩ := vacant_before sound running vacant
  obtain ⟨time, move, connection⟩ := turn
  have joins {mailbox : List Command} (command : Command)
      (same : mailbox = connection.mailbox ++ [command]) :
      mailbox.filter Command.isOpening =
        connection.mailbox.filter Command.isOpening ++ [command].filter Command.isOpening := by
    rw [same, List.filter_append]
  have stays {mailbox : List Command} (same : mailbox = connection.mailbox) :
      mailbox.filter Command.isOpening =
        connection.mailbox.filter Command.isOpening ++ [] := by
    rw [same, List.append_nil]
  have reacts {stimulus : Stimulus}
      (running : (connection.react time stimulus).1.engine.life = .running) :
      (connection.react time stimulus).1.mailbox = connection.mailbox := by
    unfold Connection.react at running ⊢
    rw [if_pos runs] at running ⊢
    exact (Connection.mailbox_takeOver running).2
  cases move with
  | submit packet ticket =>
      change (connection.submit packet ticket).2.mailbox.filter _ = _ ++ Option.toList
        (if (connection.submit packet ticket).1 then some (.write packet ticket) else none)
      rcases connection.submit_cases packet ticket with rejected | ⟨-, taken⟩
      · rw [rejected]
        exact stays rfl
      · rw [taken]
        exact joins (.write packet ticket) rfl
  | shutdown => exact joins .shutdown (Connection.mailbox_shutdown runs)
  | gentleShutdown =>
      rcases Connection.mailbox_gentleShutdown runs with same | more
      · exact stays same
      · exact joins .shutdown more
  | reconnect =>
      have accepted : opening? ⟨time, .reconnect, connection⟩ = some .reconnect := if_pos runs
      rw [accepted]
      exact joins .reconnect (Connection.mailbox_post runs .reconnect)
  | disablePing => exact joins .disablePing (Connection.mailbox_post runs .disablePing)
  | serve =>
      change (connection.serve time).1.engine.life = _ at running
      change (connection.serve time).1.mailbox.filter _ = connection.mailbox.filter _ ++ []
      cases waiting : connection.mailbox with
      | nil =>
          rw [Connection.serve, waiting]
          exact congrArg (List.filter _) waiting
      | cons command rest =>
          have heard : heard? ⟨time, .serve, connection⟩ = some (.command command) := by
            change (if connection.engine.life = .running then _ else none) = _
            rw [if_pos runs, stimulus?, waiting]
            rfl
          -- a command that asks for a socket would have ended the vacancy
          have unopened : command.isOpening = false := unasked (.command command) heard
          rw [Connection.serve, waiting] at running ⊢
          rw [(Connection.mailbox_takeOver running).2, List.append_nil,
            List.filter_cons_of_neg (by simp [unopened])]
  | report generation report => exact stays (reacts running)
  | alarm => exact stays (reacts running)
  | ping sync => exact stays (reacts running)

end Turn

/-- An engine that has stopped is shutting down. -/
theorem isKept_stopped :
    IsKept fun _ engine => engine.life = .stopped → engine.phase = .shuttingDown where
  shown _ closed := closed
  onset awake onset _ stopped := by
    cases onset with
    | shutDown => rfl
    | collapse => cases stopped
    | _ => exact nomatch awake.running.symm.trans stopped
  tick awake tick _ stopped := nomatch (tick.isAwake awake).running.symm.trans stopped
  ends _ closed := closed

namespace Connection

/-- A run in which the world keeps to what the engine has told it leaves the engine coherent,
unless it breaks down. -/
theorem run_coherent {connection : Connection} (sound : connection.IsSound)
    (coherent : connection.engine.life = .collapsed ∨ connection.engine.IsCoherent)
    (moves : List (Time × Move)) (apt : ∀ turn ∈ connection.turns moves, turn.IsApt) :
    (connection.run moves).engine.life = .collapsed ∨
      (connection.run moves).engine.IsCoherent := by
  let motive (turns : List Turn) (connection : Connection) : Prop :=
    (∀ turn ∈ turns, turn.IsApt) → connection.IsSound ∧
      (connection.engine.life = .collapsed ∨ connection.engine.IsCoherent)
  have began : motive [] connection := fun _ => ⟨sound, coherent⟩
  have held : motive (connection.turns moves) (connection.run moves) := by
    refine run_invariant (motive := motive) (fun past turn held apt => ?_) moves began
    obtain ⟨sound, coherent⟩ := held fun other earlier =>
      apt other (List.mem_append_left _ earlier)
    have last : turn.IsApt := apt turn (List.mem_append_right _ List.mem_cons_self)
    exact ⟨sound.make turn.time turn.move, last.coherent sound coherent⟩
  exact (held apt).2

/-- As long as the engine has never had a socket or an attempt, all that was accepted and asks
for one waits in the mailbox. -/
theorem run_openings (endpoint : Endpoint) (settings : Settings) (moves : List (Time × Move)) :
    let connection := (start endpoint settings).run moves
    connection.engine.life = .running → connection.engine.phase = .disconnected →
      openingsIn ((start endpoint settings).turns moves) =
        connection.mailbox.filter Command.isOpening := by
  let motive (turns : List Turn) (connection : Connection) : Prop :=
    connection.IsSound ∧ (connection.engine.life = .running →
      connection.engine.phase = .disconnected →
        openingsIn turns = connection.mailbox.filter Command.isOpening)
  have began : motive [] (start endpoint settings) :=
    ⟨.start endpoint settings, fun _ _ => rfl⟩
  refine (run_invariant (motive := motive) (fun past turn held => ?_) moves began).2
  obtain ⟨sound, unopened⟩ := held
  refine ⟨sound.make turn.time turn.move, fun running vacant => ?_⟩
  obtain ⟨runs, before, -⟩ := Turn.vacant_before sound running vacant
  rw [Turn.openings sound running vacant, openingsIn_append, unopened runs before]

/-- In every run in which the world keeps to what the engine has told it, the parts of a connection
fit together, unless the engine has broken down. -/
theorem isCoherent_of_apt (endpoint : Endpoint) (settings : Settings)
    (moves : List (Time × Move))
    (apt : ∀ turn ∈ (start endpoint settings).turns moves, turn.IsApt) :
    let connection := (start endpoint settings).run moves
    connection.engine.life = .collapsed ∨
      connection.IsCoherent ((start endpoint settings).turns moves) := by
  intro connection
  by_cases collapsed : connection.engine.life = .collapsed
  · exact .inl collapsed
  · have coherent : connection.engine.IsCoherent :=
      (run_coherent (.start endpoint settings) (.inr (.start settings)) moves apt).resolve_left
        collapsed
    have closed := isKept_stopped.run endpoint settings nofun moves
    refine .inr {
      connecting := coherent.connecting
      connected := coherent.connected
      exclusive := ?_
      inFlight := coherent.inFlight
      scheduled := coherent.scheduled
      pinged := coherent.pinged
      flowing := coherent.flowing
      engaged := coherent.engaged
      disconnected := ?_
      shuttingDown := fun closing => coherent.empty (by simp [closing]) (by simp [closing])
      phase := coherent.shown
      writing := coherent.writing }
    · rintro ⟨dials, serves⟩
      exact nomatch (coherent.connecting.mpr dials).symm.trans (coherent.connected.mpr serves)
    · intro vacant
      cases life : connection.engine.life with
      | running => exact run_openings endpoint settings moves life vacant
      | stopped => exact nomatch vacant.symm.trans (closed life)
      | collapsed => exact absurd life collapsed

end Connection

end RequestMux.Client
