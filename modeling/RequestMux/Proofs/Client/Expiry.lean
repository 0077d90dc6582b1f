import RequestMux.Proofs.Client.Deadlines
import RequestMux.Proofs.Client.Dismissal
import RequestMux.Proofs.Client.States

/-!
# What a deadline does

The deadline of a caller concerns nobody else: the entry leaves with its alarm, its caller is told,
and everything else stays as it is.  The deadline of a ping means that the peer is gone: in the same
reaction everybody else is dismissed, the generation is left and a new attempt begins, with the
queue as it was.
-/

namespace RequestMux.Client

open Pending (Alarm Entry Table Waiter tickets)

namespace Pending.Table

/-- A table without one of its entries and the alarm that belongs to it. -/
def without (table : Table) (entry : Entry) : Table :=
  { table with
    entries := table.entries.filter (· ≠ entry)
    alarms := table.alarms.filter (· ≠ entry.timer) }

variable {table rung : Table} {now : Time} {alarm : Alarm} {entry : Entry}

@[simp]
theorem nextKey_without (table : Table) (entry : Entry) :
    (table.without entry).nextKey = table.nextKey := rfl

/-- Where every entry has its own id and its own alarm, one of them may be taken out by either. -/
theorem IsArmed.leave_eq_without (armed : table.IsArmed) (member : entry ∈ table.entries) :
    (table.erase entry.sync).disarm entry.alarm = table.without entry := by
  have keyed := armed.isKeyed
  have entries : table.entries.filter (fun other => other.sync != entry.sync) =
      table.entries.filter (· ≠ entry) := by
    refine List.filter_congr fun other there => ?_
    rw [Bool.eq_iff_iff, bne_iff_ne, decide_eq_true_iff]
    refine not_congr ⟨fun same => ?_, congrArg Entry.sync⟩
    exact List.inj_on_of_nodup_map keyed.distinct there member same
  have alarms : table.alarms.filter (fun alarm => alarm.key != entry.alarm) =
      table.alarms.filter (· ≠ entry.timer) := by
    rw [armed.armed]
    refine List.filter_congr fun alarm there => ?_
    obtain ⟨other, here, rfl⟩ := List.mem_map.mp there
    rw [Bool.eq_iff_iff, bne_iff_ne, decide_eq_true_iff]
    refine not_congr ⟨fun same => ?_, congrArg Alarm.key⟩
    rw [List.inj_on_of_nodup_map keyed.keyed here member same]
  unfold without erase disarm
  rw [entries, alarms]

/-- As long as no alarm rings, every deadline is ahead. -/
theorem IsArmed.ahead_of_silent (armed : table.IsArmed) (silent : table.ring? now = none) :
    ∀ entry ∈ table.entries, now < entry.deadline := by
  intro entry member
  obtain ⟨alarm, next, due⟩ := armed.exists_next member
  unfold ring? at silent
  rw [next] at silent
  dsimp only at silent
  split at silent
  · cases silent
  · next ahead => exact Nat.lt_of_lt_of_le (Nat.lt_of_not_le ahead) due

/-- An alarm that rings takes the entry with it that it belongs to. -/
theorem IsArmed.leave_rung_eq (armed : table.IsArmed)
    (ringing : table.ring? now = some (alarm, rung)) :
    ∃ entry ∈ table.entries, entry.sync = alarm.sync ∧ entry.deadline ≤ now ∧
      rung.takeExpired alarm.sync now = (.fired entry, table.without entry) := by
  obtain ⟨entry, found, due, leaves⟩ := armed.leave_rung ringing
  obtain ⟨member, same⟩ := find?_sync found
  refine ⟨entry, member, same, due, ?_⟩
  rw [leaves, ← same, armed.leave_eq_without member]

/-- A ping has no caller. -/
theorem tickets_without (pinged : entry.waiter = .ping) :
    tickets (table.without entry).entries = tickets table.entries := by
  unfold without
  simp only [tickets_eq, List.filterMap_filter]
  refine List.filterMap_congr fun other _ => ?_
  by_cases same : other = entry
  · subst same
    simp [pinged, Waiter.ticket?]
  · simp [same]

end Pending.Table

namespace Engine

variable {now : Time} {engine : Engine}

/-- An engine whose deadlines are ahead leaves everything as it is. -/
theorem handleAlarm_of_silent (silent : engine.pending.ring? now = none) :
    engine.handleAlarm now = (engine, []) := by
  unfold handleAlarm
  rw [silent]

/-- The engine without an entry whose caller has been told. -/
def timedOut (entry : Entry) (engine : Engine) : Engine :=
  { engine with
    pending := engine.pending.without entry
    board := { engine.board with outstanding := engine.board.outstanding - 1 } }

/-- The engine that has lost its peer and tries to get another. -/
def startedAnew (engine : Engine) : Engine :=
  { engine with
    phase := .connecting
    generation := engine.generation + 1
    pending := { engine.pending with entries := [], alarms := [] }
    inFlight := none
    link := none
    attempting := true
    pingAt := none
    board := { engine.board with
      phase := .connecting
      outstanding := engine.board.outstanding - (tickets engine.pending.entries).length
      writing := false } }

theorem handleAlarm_of_caller {entry : Entry} {ticket : Nat} {alarm : Alarm} {rung : Table}
    (ringing : engine.pending.ring? now = some (alarm, rung))
    (fired : rung.takeExpired alarm.sync now = (.fired entry, engine.pending.without entry))
    (waits : entry.waiter = .caller ticket) :
    engine.handleAlarm now =
      (engine.timedOut entry, [.expired alarm.sync, .resolved ticket .timeout]) := by
  unfold handleAlarm
  rw [ringing]
  dsimp only
  rw [fired]
  dsimp only
  rw [waits]
  rfl

/-- What the engine says when it dismisses some requests. -/
def dismissals (entries : List Entry) : List Effect :=
  (if entries.isEmpty then [] else [.noted (.dismissing entries.length)]) ++
    (tickets entries).map fun ticket => .resolved ticket .error

theorem reconnect_eq {socket : Nat} (connected : engine.phase = .connected)
    (linked : engine.link = some socket) (idle : engine.attempting = false) :
    engine.reconnect =
      (engine.startedAnew, .closed socket :: dismissals engine.pending.entries ++
        [.noted (.connecting (engine.generation + 1)), .dialed (engine.generation + 1)]) := by
  have isOpen : engine.phase ≠ .shuttingDown := by simp [connected]
  unfold reconnect
  rw [if_neg isOpen]
  simp [teardown, release, dismissAll, Table.drain, beginConnect, setPhase, publishWriting,
    Reaction.andThen, linked, idle, connected, startedAnew, dismissals]

theorem handleAlarm_of_ping {entry : Entry} {alarm : Alarm} {rung : Table} {socket : Nat}
    (ringing : engine.pending.ring? now = some (alarm, rung))
    (fired : rung.takeExpired alarm.sync now = (.fired entry, engine.pending.without entry))
    (waits : entry.waiter = .ping) (connected : engine.phase = .connected)
    (linked : engine.link = some socket) (idle : engine.attempting = false) :
    engine.handleAlarm now =
      (engine.startedAnew, .expired alarm.sync :: .warned (.pingFailed .timeout) ::
        .closed socket :: dismissals (engine.pending.without entry).entries ++
          [.noted (.connecting (engine.generation + 1)), .dialed (engine.generation + 1)]) := by
  let left : Engine := { engine with pending := engine.pending.without entry }
  have anew : left.reconnect = _ := reconnect_eq connected linked idle
  have same : left.startedAnew = engine.startedAnew := by
    simp [left, startedAnew, Table.tickets_without waits]
  have fails : left.pingDone now .timeout =
      (left.emit (.warned (.pingFailed .timeout))).andThen reconnect := if_pos connected
  unfold handleAlarm
  rw [ringing]
  dsimp only
  rw [fired]
  dsimp only
  rw [waits]
  change ((left.pingDone now .timeout).1, _ :: (left.pingDone now .timeout).2) = _
  rw [fails]
  change (left.reconnect.1, _ :: _ :: left.reconnect.2) = _
  rw [anew, same]
  rfl

end Engine

namespace Turn

variable {turn : Turn}

/-- The deadline of a caller comes in a turn: the caller is told, its entry leaves, and nothing
else changes, neither on the connection nor with anybody else who waits. -/
structure TimesOut (turn : Turn) (entry : Entry) (ticket : Nat) : Prop where
  waited : entry ∈ turn.before.engine.pending.entries
  waiter : entry.waiter = .caller ticket
  due : entry.deadline ≤ turn.time
  after : turn.after = { turn.before with engine := turn.before.engine.timedOut entry }
  counted : turn.before.board.outstanding = turn.after.board.outstanding + 1
  effects : turn.effects = [.expired entry.sync, .resolved ticket .timeout]

/-- The deadline of a ping comes in a turn: the connection leaves the generation, everybody who
waits is dismissed, and a new attempt begins.  The queue and the mailbox stay as they are. -/
structure LosesPeer (turn : Turn) (entry : Entry) : Prop where
  waited : entry ∈ turn.before.engine.pending.entries
  waiter : entry.waiter = .ping
  due : entry.deadline ≤ turn.time
  after : turn.after = { turn.before with engine := turn.before.engine.startedAnew }
  counted : turn.before.board.outstanding =
    turn.after.board.outstanding + (tickets turn.before.engine.pending.entries).length
  effects : ∃ socket, turn.before.engine.link = some socket ∧
    turn.effects = [.expired entry.sync, .warned (.pingFailed .timeout), .closed socket] ++
      Engine.dismissals (turn.before.engine.pending.without entry).entries ++
      [.noted (.connecting (turn.before.engine.generation + 1)),
        .dialed (turn.before.engine.generation + 1)]
  dismissed : resolvedIn turn.effects = tickets turn.before.engine.pending.entries
  /-- Nobody is told that the time was up. -/
  untimed : ∀ ticket outcome, .resolved ticket outcome ∈ turn.effects → outcome = .error

/-- What becomes of a connection whose engine looks after its alarms. -/
inductive MindsAlarms (turn : Turn) : Prop where
  /-- Every deadline is ahead. -/
  | silent (ahead : ∀ entry ∈ turn.before.engine.pending.entries, turn.time < entry.deadline)
      (unchanged : turn.after = turn.before) (quiet : turn.effects = [])
  | timesOut {entry : Entry} {ticket : Nat} (expired : turn.TimesOut entry ticket)
  | losesPeer {entry : Entry} (lost : turn.LosesPeer entry)

/-- An engine that looks after its alarms and goes on leaves the connection around it as it is. -/
theorem of_alarm {after : Engine} {effects : List Effect} (heard : turn.heard? = some .alarm)
    (reacts : turn.before.engine.handleAlarm turn.time = (after, effects))
    (running : after.life = .running) :
    turn.after = { turn.before with engine := after } ∧ turn.effects = effects := by
  have awake := running_of_heard heard
  have moves := move_of_alarm (stimulus?_of_heard? heard)
  have step : turn.before.engine.step turn.time .alarm = (after, effects) := by
    unfold Engine.step
    rw [awake]
    exact reacts
  have made : turn.before.make turn.time turn.move =
      ({ turn.before with engine := after }, effects) := by
    rw [moves]
    exact Connection.react_of_step awake step running
  exact ⟨congrArg Prod.fst made, congrArg Prod.snd made⟩

theorem resolvedIn_dismissals (entries : List Entry) :
    resolvedIn (Engine.dismissals entries) = tickets entries := by
  unfold Engine.dismissals
  rw [resolvedIn_append, (AreSilent.dismissing entries).resolvedIn, resolvedIn_map_resolved]
  rfl

theorem error_of_mem_dismissals {entries : List Entry} {ticket : Nat} {outcome : Outcome}
    (member : .resolved ticket outcome ∈ Engine.dismissals entries) : outcome = .error := by
  unfold Engine.dismissals at member
  rcases List.mem_append.mp member with noted | told
  · split at noted <;> simp at noted
  · obtain ⟨other, -, same⟩ := List.mem_map.mp told
    cases same
    rfl

section Rung

variable {alarm : Alarm} {rung : Table} {entry : Entry}

theorem timesOut_of_fired {ticket : Nat} (heard : turn.heard? = some .alarm)
    (ringing : turn.before.engine.pending.ring? turn.time = some (alarm, rung))
    (fired : rung.takeExpired alarm.sync turn.time =
      (.fired entry, turn.before.engine.pending.without entry))
    (waited : entry ∈ turn.before.engine.pending.entries) (named : entry.sync = alarm.sync)
    (due : entry.deadline ≤ turn.time) (waiter : entry.waiter = .caller ticket)
    (counted : (tickets turn.before.engine.pending.entries).length ≤
      turn.before.engine.board.outstanding) : turn.TimesOut entry ticket := by
  obtain ⟨after, effects⟩ := of_alarm heard (Engine.handleAlarm_of_caller ringing fired waiter)
    (running_of_heard heard)
  have here : ticket ∈ tickets turn.before.engine.pending.entries := by
    rw [Pending.tickets_eq]
    exact List.mem_filterMap.mpr ⟨entry, waited, by simp [waiter, Waiter.ticket?]⟩
  have positive : 0 < (tickets turn.before.engine.pending.entries).length :=
    List.length_pos_of_mem here
  rw [← named] at effects
  refine ⟨waited, waiter, due, after, ?_, effects⟩
  rw [after]
  change turn.before.engine.board.outstanding = turn.before.engine.board.outstanding - 1 + 1
  omega

theorem losesPeer_of_fired {turns : List Turn} (heard : turn.heard? = some .alarm)
    (coherent : turn.before.IsCoherent turns)
    (ringing : turn.before.engine.pending.ring? turn.time = some (alarm, rung))
    (fired : rung.takeExpired alarm.sync turn.time =
      (.fired entry, turn.before.engine.pending.without entry))
    (waited : entry ∈ turn.before.engine.pending.entries) (named : entry.sync = alarm.sync)
    (due : entry.deadline ≤ turn.time) (waiter : entry.waiter = .ping)
    (counted : (tickets turn.before.engine.pending.entries).length ≤
      turn.before.engine.board.outstanding) : turn.LosesPeer entry := by
  have connected := coherent.pinged entry waited waiter
  obtain ⟨socket, linked⟩ := Option.isSome_iff_exists.mp (coherent.connected.mp connected)
  have idle : turn.before.engine.attempting = false := by
    rw [← Bool.not_eq_true, ← coherent.connecting, connected]
    simp
  obtain ⟨after, effects⟩ := of_alarm heard
    (Engine.handleAlarm_of_ping ringing fired waiter connected linked idle)
    (running_of_heard heard)
  rw [← named] at effects
  refine ⟨waited, waiter, due, after, ?_, ⟨socket, linked, effects⟩, ?_, ?_⟩
  · rw [after]
    exact (Nat.sub_add_cancel counted).symm
  · rw [effects, ← Table.tickets_without waiter, ← resolvedIn_dismissals]
    simp [resolvedIn, List.filterMap_cons, Effect.resolved?]
  · intro ticket outcome told
    rw [effects] at told
    simp only [List.mem_append, List.mem_cons, reduceCtorEq, false_or, List.not_mem_nil,
      or_false] at told
    exact error_of_mem_dismissals told

end Rung

/-- Whoever looks after the alarms finds at most one deadline that has come. -/
theorem mindsAlarms (heard : turn.heard? = some .alarm)
    (armed : turn.before.engine.pending.IsArmed) {turns : List Turn}
    (coherent : turn.before.IsCoherent turns)
    (counted : (tickets turn.before.engine.pending.entries).length ≤
      turn.before.engine.board.outstanding) : turn.MindsAlarms := by
  cases ringing : turn.before.engine.pending.ring? turn.time with
  | none =>
      obtain ⟨after, effects⟩ :=
        of_alarm heard (Engine.handleAlarm_of_silent ringing) (running_of_heard heard)
      exact .silent (armed.ahead_of_silent ringing) after effects
  | some rings =>
      obtain ⟨alarm, rung⟩ := rings
      obtain ⟨entry, waited, named, due, fired⟩ := armed.leave_rung_eq ringing
      cases waiter : entry.waiter with
      | caller ticket =>
          exact .timesOut (timesOut_of_fired heard ringing fired waited named due waiter counted)
      | ping =>
          exact .losesPeer
            (losesPeer_of_fired heard coherent ringing fired waited named due waiter counted)

/-- A turn changes nothing and tells nobody; what it leaves is a trace. -/
structure PassesBy (turn : Turn) : Prop where
  unchanged : turn.after = turn.before
  traced : ∀ effect ∈ turn.effects, ∃ note, effect = .noted note

/-- In a turn the engine takes a request that asks for an id. -/
def Claims (turn : Turn) (sync : UInt32) : Prop :=
  ∃ stimulus waiter, turn.heard? = some stimulus ∧ stimulus.Asks sync waiter

end Turn

/-- Whether no entry of a connection waits for an id. -/
def Connection.Lacks (sync : UInt32) (connection : Connection) : Prop :=
  ∀ entry ∈ connection.engine.pending.entries, entry.sync ≠ sync

/-- A reaction brings in no id that it is not asked for. -/
theorem Engine.Reacts.lacks {now : Time} {engine after : Engine} {stimulus : Stimulus}
    {effects : List Effect} {sync : UInt32} (reacts : engine.Reacts now stimulus effects after)
    (lacks : ∀ entry ∈ engine.pending.entries, entry.sync ≠ sync)
    (unasked : ∀ waiter, ¬stimulus.Asks sync waiter) :
    ∀ entry ∈ after.pending.entries, entry.sync ≠ sync := by
  have vacant (emptied : after.pending.entries = []) :
      ∀ entry ∈ after.pending.entries, entry.sync ≠ sync := by
    rw [emptied]
    exact List.forall_mem_nil _
  have fewer (other : UInt32) : ∀ entry ∈ (engine.pending.erase other).entries,
      entry.sync ≠ sync := fun entry member => lacks entry (List.mem_of_mem_filter member)
  cases reacts with
  | cut cause running torn => exact vacant torn.emptied
  | shutDown asked stopped torn => exact vacant torn.emptied
  | collapse uncut unasked collapsed same emptied => exact vacant emptied
  | goOn uncut other goes =>
      cases goes.shifts with
      | still same undismissed =>
          have syncs := (Pending.same_of_claims same).1
          intro entry member equal
          have there : sync ∈ engine.pending.entries.map Entry.sync := by
            rw [← syncs, ← equal]
            exact List.mem_map_of_mem member
          obtain ⟨old, here, named⟩ := List.mem_map.mp there
          exact lacks old here named
      | @entered other waiter write asked entries =>
          rw [entries]
          intro entry member
          rcases List.mem_append.mp member with old | new
          · exact fewer other entry old
          · rw [List.mem_singleton.mp new]
            rintro rfl
            exact unasked waiter asked
      | answered heard found entries =>
          rw [entries]
          exact fewer _
      | expired heard found due entries =>
          rw [entries]
          exact fewer _

namespace Turn

variable {turn : Turn} {sync : UInt32}

theorem lacks_after (sound : turn.before.IsSound) (distinct : turn.before.engine.pending.IsDistinct)
    (lacks : turn.before.Lacks sync) (unclaimed : ¬turn.Claims sync) : turn.after.Lacks sync := by
  unfold Connection.Lacks
  cases turn.becomes sound with
  | idle board unheard like engine silent =>
      rw [engine]
      exact lacks
  | heard stimulus board more hears awake like engine effects farewell =>
      rw [engine]
      refine (Engine.step_reacts turn.time awake distinct stimulus).lacks lacks ?_
      exact fun waiter asked => unclaimed ⟨stimulus, waiter, hears, asked⟩

/-- A response to an id for which nobody waits, whichever generation it comes from. -/
theorem step_of_lacks {engine : Engine} {packet : Wire.Packet} (awake : engine.IsAwake)
    (lacks : ∀ entry ∈ engine.pending.entries, entry.sync ≠ packet.header.sync) (now : Time)
    (generation : Nat) :
    ∃ note, engine.step now (.report generation (.frame packet)) = (engine, [.noted note]) := by
  have absent : engine.pending.find? packet.header.sync = none :=
    List.find?_eq_none.mpr fun entry member => by simpa using lacks entry member
  unfold Engine.step
  rw [awake.running]
  dsimp only
  split
  · refine ⟨.unknownSync packet.header.sync packet.header.msg, ?_⟩
    simp only [Engine.handleReport, Engine.handleFrame, Table.resolve_of_absent absent]
    rfl
  · exact ⟨.staleReport, rfl⟩

/-- A response to an id for which nobody waits is passed by. -/
theorem passesBy (sound : turn.before.IsSound) (lacks : turn.before.Lacks sync) {generation : Nat}
    {packet : Wire.Packet} (told : turn.stimulus? = some (.report generation (.frame packet)))
    (named : packet.header.sync = sync) : turn.PassesBy := by
  have moves := move_of_reported told
  have made : turn.before.make turn.time turn.move =
      turn.before.react turn.time (.report generation (.frame packet)) := by
    rw [moves]
    rfl
  by_cases running : turn.before.engine.life = .running
  · subst named
    obtain ⟨note, step⟩ := step_of_lacks (sound.awake running) lacks turn.time generation
    rw [Connection.react_of_step running step running] at made
    refine ⟨congrArg Prod.fst made, fun effect member => ⟨note, ?_⟩⟩
    have said : turn.effects = [.noted note] := congrArg Prod.snd made
    rw [said] at member
    exact List.mem_singleton.mp member
  · rw [Connection.react, if_neg running] at made
    refine ⟨congrArg Prod.fst made, fun effect member => ?_⟩
    have said : turn.effects = [] := congrArg Prod.snd made
    rw [said] at member
    cases member

theorem TimesOut.lacks {entry : Entry} {ticket : Nat} (timesOut : turn.TimesOut entry ticket)
    (distinct : turn.before.engine.pending.IsDistinct) : turn.after.Lacks entry.sync := by
  intro other member same
  rw [timesOut.after] at member
  obtain ⟨here, differs⟩ := List.mem_filter.mp member
  have one : other = entry := List.inj_on_of_nodup_map distinct here timesOut.waited same
  simp [one] at differs

end Turn

/-- In turns that follow each other, a response to an id is passed by as long as no request has
asked for the id. -/
def LetPass (sync : UInt32) (turns : List Turn) : Prop :=
  ∀ between turn later, turns = between ++ turn :: later →
    (∀ earlier ∈ between, ¬earlier.Claims sync) → ∀ generation packet,
      turn.stimulus? = some (.report generation (.frame packet)) → packet.header.sync = sync →
        turn.PassesBy

theorem Connection.letPass {connection : Connection} {moves : List (Time × Move)} {sync : UInt32}
    (held : ∀ turn ∈ connection.turns moves,
      turn.before.IsSound ∧ turn.before.engine.pending.IsDistinct)
    (lacks : connection.Lacks sync) : LetPass sync (connection.turns moves) := by
  induction moves generalizing connection with
  | nil =>
      intro between turn later split
      simp [turns] at split
  | cons head rest ih =>
      obtain ⟨time, move⟩ := head
      let first : Turn := ⟨time, move, connection⟩
      have shape : connection.turns ((time, move) :: rest) = first :: first.after.turns rest := rfl
      rw [shape] at held ⊢
      obtain ⟨⟨sound, distinct⟩, later⟩ := List.forall_mem_cons.mp held
      intro between turn behind split unclaimed
      cases between with
      | nil =>
          obtain ⟨rfl, -⟩ := List.cons.inj split
          exact fun generation packet told named => Turn.passesBy sound lacks told named
      | cons earlier between =>
          obtain ⟨rfl, others⟩ := List.cons.inj split
          obtain ⟨mine, theirs⟩ := List.forall_mem_cons.mp unclaimed
          exact ih later (first.lacks_after sound distinct lacks mine) between turn behind others
            theirs

/-- In turns that follow each other, a deadline concerns its own caller only, unless it is that of
a ping, and a response that comes too late is passed by. -/
structure AreLocal (turns : List Turn) : Prop where
  alarms : ∀ turn ∈ turns, turn.heard? = some .alarm → turn.MindsAlarms
  late : ∀ past turn later entry ticket, turns = past ++ turn :: later →
    turn.TimesOut entry ticket → LetPass entry.sync later

namespace Connection

/-- What follows a turn begins where it has led. -/
theorem turns_behind {connection : Connection} {moves : List (Time × Move)} {past later : List Turn}
    {turn : Turn} (split : connection.turns moves = past ++ turn :: later) :
    ∃ rest, later = turn.after.turns rest := by
  induction moves generalizing connection past with
  | nil => simp [turns] at split
  | cons head rest ih =>
      obtain ⟨time, move⟩ := head
      cases past with
      | nil =>
          obtain ⟨rfl, behind⟩ := List.cons.inj split
          exact ⟨rest, behind.symm⟩
      | cons first past =>
          obtain ⟨-, behind⟩ := List.cons.inj split
          exact ih behind

theorem isKept_isArmed : IsKept fun _ engine => engine.pending.IsArmed where
  shown _ armed := armed
  onset _ onset armed := onset.isArmed armed
  tick _ tick armed := tick.isArmed armed
  ends _ armed := armed

/-- However late a turn comes, the alarms are those of the requests that wait. -/
theorem isArmed_of_mem_turns {endpoint : Endpoint} {settings : Settings}
    {moves : List (Time × Move)} {turn : Turn}
    (member : turn ∈ (start endpoint settings).turns moves) :
    turn.before.engine.pending.IsArmed := by
  obtain ⟨past, -, before⟩ := turns_prefix member
  rw [before]
  exact isKept_isArmed.run endpoint settings Table.isArmed_empty past

/-- In every run in which the world keeps to what the engine has told it, deadlines are local. -/
theorem areLocal (endpoint : Endpoint) (settings : Settings) (moves : List (Time × Move))
    (apt : ∀ turn ∈ (start endpoint settings).turns moves, turn.IsApt) :
    AreLocal ((start endpoint settings).turns moves) := by
  constructor
  case alarms =>
    intro turn member heard
    obtain ⟨_, _, sound, ledger⟩ := accounts_of_mem_turns member
    obtain ⟨past, leads, before⟩ := turns_prefix member
    have coherent : ∃ turns, turn.before.IsCoherent turns := by
      have front : past <+: moves := (List.prefix_append _ _).trans leads
      have early : ∀ turn ∈ (start endpoint settings).turns past, turn.IsApt :=
        fun turn member => apt turn (mem_turns_of_front front member)
      have cohere := isCoherent_of_apt endpoint settings past early
      rw [← before] at cohere
      have running := turn.running_of_heard heard
      exact ⟨_, cohere.resolve_left fun collapsed => nomatch running.symm.trans collapsed⟩
    obtain ⟨turns, coherent⟩ := coherent
    refine turn.mindsAlarms heard (isArmed_of_mem_turns member) coherent ?_
    rw [ledger.counted]
    omega
  case late =>
    intro past turn later entry ticket split timesOut
    have within : ∀ other ∈ turn :: later, other ∈ (start endpoint settings).turns moves := by
      rw [split]
      exact fun other member => List.mem_append_right _ member
    obtain ⟨-, distinct⟩ := sound_distinct_of_mem_turns (within turn List.mem_cons_self)
    obtain ⟨rest, rfl⟩ := turns_behind split
    refine turn.after.letPass (fun other member => ?_) (timesOut.lacks distinct)
    exact sound_distinct_of_mem_turns (within other (List.mem_cons_of_mem _ member))

end Connection

end RequestMux.Client
