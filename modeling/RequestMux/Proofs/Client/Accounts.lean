import RequestMux.Proofs.Client.Ledger

/-!
# Every accepted write is accounted for

The ledger is kept by every turn of a connection, whether the handle, the engine or a
timer moves.  A connection that was shut down has told all its callers; only one that
broke down forgets some, for ever, and it breaks down only where no alarm can be set for the
deadlines of its requests.
-/

namespace RequestMux.Client

open Pending (Entry Table tickets)

theorem abandonedIn_dismissAll (engine : Engine) : abandonedIn engine.dismissAll.2 = [] := by
  change abandonedIn (_ ++ (tickets engine.pending.entries).map _) = []
  rw [abandonedIn_append, abandonedIn_map_resolved, List.append_nil]
  exact (AreSilent.dismissing engine.pending.entries).abandonedIn

/-- Ticks forget nobody. -/
theorem Tick.abandonedIn_eq_nil {now : Time} {engine after : Engine} {effects : List Effect}
    (tick : Tick now engine effects after) : abandonedIn effects = [] := by
  cases tick with
  | remark effect said => exact (AreSilent.of_remarks (by simpa using said)).abandonedIn
  | dial => exact (AreSilent.beginConnect engine).abandonedIn
  | release => exact (AreSilent.release engine).abandonedIn
  | dismiss => exact abandonedIn_dismissAll engine
  | _ => rfl

/-- An onset forgets nobody, unless the engine breaks down. -/
theorem Onset.abandonedIn_eq_nil {now : Time} {stimulus : Stimulus} {engine after : Engine}
    {effects : List Effect} (onset : Onset now engine stimulus effects after)
    (stands : after.life ≠ .collapsed) : abandonedIn effects = [] := by
  cases onset with
  | shutDown =>
      change abandonedIn (((Engine.release _).2 ++ (Engine.dismissAll _).2) ++ [_]) = []
      rw [abandonedIn_append, abandonedIn_append, abandonedIn_dismissAll,
        (AreSilent.release _).abandonedIn]
      rfl
  | enter talk pingAt asked said possible =>
      have spoken : AreSilent talk := .of_remarks said
      change abandonedIn ([_] ++ talk ++ List.map _ _) = []
      rw [abandonedIn_append, abandonedIn_append, abandonedIn_map_resolved, spoken.abandonedIn]
      rfl
  | collapse => exact absurd rfl stands
  | redial => exact (AreSilent.beginConnect engine).abandonedIn
  | answer found =>
      change abandonedIn ([_] ++ List.map _ _) = []
      rw [abandonedIn_append, abandonedIn_map_resolved]
      rfl
  | unknown packet effect said => exact (AreSilent.of_remarks (by simpa using said)).abandonedIn
  | written => exact (AreSilent.map _ fun _ => ⟨rfl, rfl⟩).abandonedIn
  | writeFailed failure part =>
      have warned : AreSilent [.warned (.writeFailed failure)] := .single ⟨rfl, rfl⟩
      have back : AreSilent (engine.takeBack part).2 := .map _ fun _ => ⟨rfl, rfl⟩
      exact ((warned.append back).append (.release _)).abandonedIn
  | stale generation report old => exact (AreSilent.ignoreReport engine report).abandonedIn
  | expire ringing fired =>
      change abandonedIn ([_] ++ List.map _ _) = []
      rw [abandonedIn_append, abandonedIn_map_resolved]
      rfl
  | _ => rfl

/-- How the life of an engine shows in its table and its history. -/
structure Lifecycle (settings : Settings) (history : List Effect) (engine : Engine) : Prop where
  same : engine.settings = settings
  kept : engine.life ≠ .collapsed → abandonedIn history = []
  drained : engine.life = .stopped → engine.pending.entries = []
  overdue : engine.life = .collapsed → longestDelay < settings.effectiveReadTimeout.toNat

namespace Lifecycle

variable {settings : Settings} {history effects : List Effect} {engine after : Engine}
  {now : Time}

theorem same_life (lifecycle : Lifecycle settings history engine)
    (same : after.settings = engine.settings) (lives : after.life = engine.life)
    (table : after.pending = engine.pending) : Lifecycle settings history after := by
  constructor
  case same => exact same.trans lifecycle.same
  case kept =>
    rw [lives]
    exact lifecycle.kept
  case drained =>
    rw [lives, table]
    exact lifecycle.drained
  case overdue =>
    rw [lives]
    exact lifecycle.overdue

theorem kept_of_isAwake (lifecycle : Lifecycle settings history engine) (awake : engine.IsAwake) :
    abandonedIn history = [] :=
  lifecycle.kept fun collapsed => absurd (awake.running.symm.trans collapsed) nofun

theorem tick (awake : engine.IsAwake) (tick : Tick now engine effects after)
    (lifecycle : Lifecycle settings history engine) :
    Lifecycle settings (history ++ effects) after := by
  have running := (tick.isAwake awake).running
  have same : after.settings = engine.settings := by cases tick <;> rfl
  constructor
  case same => exact same.trans lifecycle.same
  case kept =>
    intro _
    rw [abandonedIn_append, lifecycle.kept_of_isAwake awake, tick.abandonedIn_eq_nil]
    rfl
  case drained => exact fun stopped => absurd (running.symm.trans stopped) nofun
  case overdue => exact fun collapsed => absurd (running.symm.trans collapsed) nofun

theorem onset {stimulus : Stimulus} (awake : engine.IsAwake)
    (onset : Onset now engine stimulus effects after)
    (lifecycle : Lifecycle settings history engine) :
    Lifecycle settings (history ++ effects) after := by
  have same : after.settings = engine.settings := by cases onset <;> rfl
  constructor
  case same => exact same.trans lifecycle.same
  case kept =>
    intro stands
    rw [abandonedIn_append, lifecycle.kept_of_isAwake awake, onset.abandonedIn_eq_nil stands]
    rfl
  case drained =>
    intro stopped
    cases onset with
    | shutDown => rfl
    | collapse => cases stopped
    | _ => exact absurd (awake.running.symm.trans stopped) nofun
  case overdue =>
    intro collapsed
    cases onset with
    | shutDown => cases collapsed
    | collapse asked impossible => exact lifecycle.same ▸ impossible
    | _ => exact absurd (awake.running.symm.trans collapsed) nofun

/-- What a connection adds at the end forgets somebody only where the engine has broken down. -/
theorem ends {more : List Effect} (farewell : ∀ effect ∈ more, engine.life.isFarewell effect = true)
    (lifecycle : Lifecycle settings history engine) : Lifecycle settings (history ++ more) engine := by
  refine ⟨lifecycle.same, fun stands => ?_, lifecycle.drained, lifecycle.overdue⟩
  have told : abandonedIn more = [] := by
    refine List.filterMap_eq_nil_iff.mpr fun effect member => ?_
    have said := farewell effect member
    cases effect with
    | abandoned ticket =>
        cases life : engine.life with
        | collapsed => exact absurd life stands
        | running => rw [life] at said; cases said
        | stopped => rw [life] at said; cases said
    | _ => rfl
  rw [abandonedIn_append, lifecycle.kept stands, told]
  rfl

theorem isKept (settings : Settings) : IsKept (Lifecycle settings) where
  shown _ lifecycle := lifecycle.same_life rfl rfl rfl
  onset awake onset lifecycle := lifecycle.onset awake onset
  tick awake tick lifecycle := lifecycle.tick awake tick
  ends farewell lifecycle := lifecycle.ends farewell

theorem run (endpoint : Endpoint) (settings : Settings) (moves : List (Time × Move)) :
    let start := Connection.start endpoint settings
    Lifecycle settings (Client.history (start.turns moves)) (start.run moves).engine :=
  (isKept settings).run endpoint settings ⟨rfl, fun _ => rfl, nofun, nofun⟩ moves

/-- The engine stands as long as alarms can be set. -/
theorem stands (lifecycle : Lifecycle settings history engine)
    (possible : settings.effectiveReadTimeout.toNat ≤ longestDelay) : engine.life ≠ .collapsed :=
  fun collapsed => Nat.not_lt_of_le possible (lifecycle.overdue collapsed)

/-- What only a breakdown can prevent is prevented only where no alarm can be set. -/
theorem overdue_or (lifecycle : Lifecycle settings history engine) {kept : Prop}
    (stands : engine.life = .collapsed ∨ kept) :
    engine.life = .collapsed ∧ longestDelay < settings.effectiveReadTimeout.toNat ∨ kept :=
  stands.imp_left fun collapsed => ⟨collapsed, lifecycle.overdue collapsed⟩

end Lifecycle

/-- The tickets of the writes that are accepted in some turns. -/
def acceptedIn (turns : List Turn) : List Nat := turns.filterMap Turn.accepted?

theorem acceptedIn_append (turns : List Turn) (turn : Turn) :
    acceptedIn (turns ++ [turn]) = acceptedIn turns ++ turn.accepted?.toList := by
  rw [acceptedIn, List.filterMap_append]
  cases accepted : turn.accepted? <;> simp [acceptedIn, accepted]

namespace Connection

theorem callers_append (commands more : List Command) :
    callers (commands ++ more) = callers commands ++ callers more :=
  List.filterMap_append

theorem callers_cons (command : Command) (rest : List Command) :
    callers (command :: rest) = (Stimulus.command command).ticket?.toList ++ callers rest := by
  cases command with
  | write packet ticket => cases ticket <;> rfl
  | _ => rfl

/-- The ledger of a connection, in whose mailbox callers wait. -/
structure Accounts (accepted : List Nat) (history : List Effect) (connection : Connection) :
    Prop where
  sound : connection.IsSound
  ledger : Ledger accepted (callers connection.mailbox) history connection.engine

namespace Accounts

variable {accepted : List Nat} {history : List Effect} {connection : Connection}

theorem start (endpoint : Endpoint) (settings : Settings) :
    Accounts [] [] (.start endpoint settings) where
  sound := .start endpoint settings
  ledger := ⟨List.nodup_nil, fun _ => rfl, rfl⟩

theorem setBoard (accounts : Accounts accepted history connection) {board : Board}
    (shown : board.outstanding = connection.board.outstanding) :
    Accounts accepted history (connection.setBoard board) where
  sound := accounts.sound.setBoard board
  ledger :=
    ⟨accounts.ledger.distinct, accounts.ledger.balanced, shown.trans accounts.ledger.counted⟩

/-- A command without a caller does not count. -/
theorem post (accounts : Accounts accepted history connection) {command : Command}
    (nobody : callers [command] = []) :
    Accounts accepted history (connection.post command) := by
  refine ⟨accounts.sound.post command, ?_⟩
  unfold Connection.post
  split
  · have waiting : callers (connection.mailbox ++ [command]) = callers connection.mailbox := by
      rw [callers_append, nobody, List.append_nil]
    rw [waiting]
    exact accounts.ledger
  · exact accounts.ledger

theorem shutdown (accounts : Accounts accepted history connection) :
    Accounts accepted history connection.shutdown := by
  have flagged : Accounts accepted history
      (connection.setBoard { connection.board with shuttingDown := true }) :=
    accounts.setBoard rfl
  exact flagged.post rfl

/-- An accepted write waits in the mailbox; a rejected one changes nothing. -/
theorem submit (accounts : Accounts accepted history connection) (packet : Wire.Packet)
    (ticket : Option Nat) :
    Accounts
      (accepted ++ (if (connection.submit packet ticket).1 then ticket else none).toList)
      history (connection.submit packet ticket).2 := by
  rcases connection.submit_cases packet ticket with rejected | ⟨running, taken⟩
  · simpa [rejected] using accounts
  · have waiting : callers [.write packet ticket] = ticket.toList := by
      rw [callers_cons]
      exact List.append_nil _
    rw [taken]
    refine ⟨?_, ?_⟩
    · exact ⟨fun _ => ⟨running, (accounts.sound.awake running).open_⟩,
        fun stopped => absurd running stopped⟩
    · simp only [callers_append, waiting]
      exact accounts.ledger.accept rfl rfl

/-- Whatever the engine makes of a stimulus, its callers and those in the mailbox are told,
wait on, or are forgotten. -/
theorem takeOver {now : Time} {stimulus : Stimulus} {rest : List Command}
    (awake : connection.engine.IsAwake)
    (ledger : Ledger accepted (stimulus.ticket?.toList ++ callers rest) history connection.engine) :
    let taken := connection.takeOver rest (connection.engine.step now stimulus)
    Accounts accepted (history ++ taken.2) taken.1 := by
  have settled := ledger.course (Engine.step_course now awake stimulus)
  refine ⟨IsSound.takeOver awake rest, ?_⟩
  unfold Connection.takeOver
  split
  · exact settled
  · rw [← List.append_nil (callers rest)] at settled
    have noted : AreSilent [.noted .stopped] := .single ⟨rfl, rfl⟩
    have told := (settled.tell .error).silent noted rfl rfl
    rw [List.append_assoc, List.append_assoc, ← List.append_assoc (Engine.step ..).2] at told
    exact told
  · rw [← List.append_nil (callers rest)] at settled
    have forgotten := settled.forget
    rw [List.append_assoc] at forgotten
    exact forgotten

theorem serve (accounts : Accounts accepted history connection) (now : Time) :
    Accounts accepted (history ++ (connection.serve now).2) (connection.serve now).1 := by
  unfold Connection.serve
  split
  · simpa using accounts
  · next command rest waiting =>
      by_cases running : connection.engine.life = .running
      · have ledger := accounts.ledger
        rw [waiting, callers_cons] at ledger
        exact takeOver (accounts.sound.awake running) ledger
      · rw [accounts.sound.idle running] at waiting
        cases waiting

/-- What is not a command brings no caller. -/
theorem react (accounts : Accounts accepted history connection) (now : Time)
    {stimulus : Stimulus} (nobody : stimulus.ticket? = none) :
    Accounts accepted (history ++ (connection.react now stimulus).2)
      (connection.react now stimulus).1 := by
  unfold Connection.react
  split
  · next running =>
      have ledger : Ledger accepted (stimulus.ticket?.toList ++ callers connection.mailbox)
          history connection.engine := by
        rw [nobody]
        exact accounts.ledger
      exact takeOver (accounts.sound.awake running) ledger
  · simpa using accounts

/-- Every turn keeps the accounts. -/
theorem turn (turn : Turn) (accounts : Accounts accepted history turn.before) :
    Accounts (accepted ++ turn.accepted?.toList) (history ++ turn.effects) turn.after := by
  obtain ⟨time, move, connection⟩ := turn
  have quiet {after : Connection} (kept : Accounts accepted history after) :
      Accounts (accepted ++ []) (history ++ []) after := by
    simpa using kept
  have heard {effects : List Effect} {after : Connection}
      (kept : Accounts accepted (history ++ effects) after) :
      Accounts (accepted ++ []) (history ++ effects) after := by
    simpa using kept
  cases move with
  | submit packet ticket =>
      have submitted := accounts.submit packet ticket
      rw [← List.append_nil history] at submitted
      exact submitted
  | shutdown => exact quiet accounts.shutdown
  | gentleShutdown =>
      refine quiet ?_
      change Accounts accepted history (Connection.gentleShutdown connection).2
      unfold Connection.gentleShutdown
      split
      · exact accounts
      · split
        · exact accounts
        · exact accounts.shutdown
  | reconnect => exact quiet (accounts.post rfl)
  | disablePing => exact quiet (accounts.post rfl)
  | serve => exact heard (accounts.serve time)
  | report generation report => exact heard (accounts.react time rfl)
  | alarm => exact heard (accounts.react time rfl)
  | ping sync => exact heard (accounts.react time rfl)

/-- Every run keeps the accounts. -/
theorem run (endpoint : Endpoint) (settings : Settings) (moves : List (Time × Move)) :
    let start := Connection.start endpoint settings
    Accounts (acceptedIn (start.turns moves)) (Client.history (start.turns moves))
      (start.run moves) := by
  intro start
  let motive (turns : List Turn) (connection : Connection) : Prop :=
    Accounts (acceptedIn turns) (Client.history turns) connection
  have began : motive [] start := Accounts.start endpoint settings
  refine run_invariant (motive := motive) (fun past turn held => ?_) moves began
  change Accounts (acceptedIn (past ++ [turn])) (Client.history (past ++ [turn])) turn.after
  rw [acceptedIn_append, history_append, history_singleton]
  exact held.turn turn

/-- Unless somebody is forgotten, those who count wait in the table or in the mailbox. -/
theorem outstanding_eq (accounts : Accounts accepted history connection)
    (kept : abandonedIn history = []) :
    connection.board.outstanding =
      (tickets connection.engine.pending.entries).length + (callers connection.mailbox).length := by
  have counted := accounts.ledger.counted
  rw [kept] at counted
  exact counted

/-- Unless somebody is forgotten, everybody has been told when nothing is left. -/
theorem settled (accounts : Accounts accepted history connection)
    (kept : abandonedIn history = []) (halted : connection.engine.life ≠ .running)
    (drained : connection.engine.pending.entries = []) :
    connection.board.outstanding = 0 ∧
      ∀ ticket, (resolvedIn history).count ticket = accepted.count ticket := by
  have idle : connection.mailbox = [] := accounts.sound.idle halted
  refine ⟨?_, fun ticket => ?_⟩
  · rw [accounts.outstanding_eq kept, drained, idle]
    rfl
  · have balanced := accounts.ledger.balanced ticket
    rw [kept, drained, idle] at balanced
    exact balanced.symm

end Accounts

end Connection

end RequestMux.Client
