import RequestMux.Proofs.Client.Expiry
import RequestMux.Proofs.Client.Parting
import RequestMux.Proofs.Client.Pinging
import RequestMux.Proofs.Client.Silencing
import RequestMux.Proofs.Network.Enactment

/-!
# Deadlines and phases in every order

What is said here of a connection holds in whatever order it is used, its mailbox is served, its
tasks report and its timers come due, as long as the world keeps to what the engine has told it.
A simulation takes one of these orders: it enacts a run of its connection, so that the same holds
after every schedule.
-/

namespace RequestMux.Network

open Client (Connection Docket Due Engine Move Telling Time Turn duesIn longestDelay tellingsIn)

/-- The request that the engine takes, due when its patience is at an end. -/
def Sight.due? (patience : Nat) : Sight → Option Due
  | .heard time stimulus => stimulus.due? (time + patience)
  | _ => none

/-- A caller is told. -/
def Sight.telling? : Sight → Option Telling
  | .engine time effect => effect.telling? time
  | _ => none

theorem duesIn_eq (patience : Nat) (turns : List Turn) :
    (turns.flatMap sightsIn).filterMap (Sight.due? patience) = duesIn patience turns := by
  rw [List.filterMap_flatMap, duesIn, List.filterMap_eq_flatMap_toList]
  refine List.flatMap_congr fun turn _ => ?_
  have silent :
      (turn.effects.map (Sight.engine turn.time)).filterMap (Sight.due? patience) = [] := by
    simp [List.filterMap_map, Function.comp_def, Sight.due?]
  rw [sightsIn, List.filterMap_append, silent, List.append_nil, Turn.due?]
  cases turn.stimulus? with
  | none => rfl
  | some stimulus =>
      change [Sight.heard turn.time stimulus].filterMap _ = (stimulus.due? _).toList
      rw [List.filterMap_eq_flatMap_toList]
      exact List.append_nil _

theorem tellingsIn_eq (turns : List Turn) :
    (turns.flatMap sightsIn).filterMap Sight.telling? = tellingsIn turns := by
  rw [List.filterMap_flatMap]
  refine List.flatMap_congr fun turn _ => ?_
  have silent :
      (turn.stimulus?.toList.map (Sight.heard turn.time)).filterMap Sight.telling? = [] := by
    simp [List.filterMap_map, Function.comp_def, Sight.telling?]
  rw [sightsIn, List.filterMap_append, silent, List.nil_append, List.filterMap_map]
  rfl

/-- What tells nothing of the engine counts for neither. -/
theorem filterMap_spoken {Item : Type} {select : Sight → Option Item} (record : List Sight)
    (spoken : ∀ sight, sight.isSpoken = false → select sight = none) :
    (record.filter Sight.isSpoken).filterMap select = record.filterMap select := by
  rw [List.filterMap_filter]
  refine List.filterMap_congr fun sight _ => ?_
  cases said : sight.isSpoken with
  | true => rfl
  | false => exact (spoken sight said).symm

namespace Simulation

/-- What holds after every run in which the world keeps to what the engine has told it holds wherever
the run that a simulation goes through is broken off. -/
theorem holds_wherever (endpoint : Endpoint) (settings : Settings)
    {motive : List (Time × Move) → Prop}
    (holds : ∀ moves, (∀ turn ∈ (Connection.start endpoint settings).turns moves, turn.IsApt) →
      motive moves)
    (source : SyncSource) (plans : List Plan) (fallback : Plan) (schedule : List Doing) :
    let beginning := Connection.start endpoint settings
    let simulation := (start endpoint settings source plans fallback).after schedule
    ∃ moves, beginning.run moves = simulation.connection ∧
      simulation.record.filter Sight.isSpoken = (beginning.turns moves).flatMap sightsIn ∧
      (∀ turn ∈ beginning.turns moves, turn.IsApt) ∧ ∀ past, past <+: moves → motive past := by
  intro beginning simulation
  obtain ⟨⟨moves, enacts⟩, -⟩ :=
    enacts_of_start endpoint settings source plans fallback schedule
  exact ⟨moves, enacts.connection.symm, enacts.spoken, enacts.apt,
    fun past front => holds past (enacts.apt_of_prefix front)⟩

/-- A run in an order that no simulation takes: a socket, a deadline and a ping come while something
waits in the mailbox. -/
def crossing : List (Time × Move) :=
  [(0, .submit (Field.pack 1 7 0 []) (some 0)), (0, .serve),
    (0, .submit (Field.pack 1 8 0 []) (some 1)), (1, .report 0 (.connected 0)), (1000, .alarm),
    (1000, .serve), (1500, .report 0 .written), (1500, .report 0 .written),
    (1600, .report 0 (.frame (Field.pack 1 8 0 []))), (5001, .disablePing), (5001, .ping 1),
    (5001, .serve), (6001, .alarm), (6002, .report 1 (.connected 1))]

/-- A request that the engine takes at some time is due one read timeout later.  In every run in
which no turn comes behind a deadline, a docket accounts for all requests and for all callers who
were told: each request has ended by its deadline, and exactly then if it timed out; or it still
waits in the table under that deadline; or the engine has broken down, which it does only where no
alarm can be set.  A caller who was told otherwise was dismissed because the engine had stopped
before it took the write.  So it is after every schedule; then no deadline in the table has passed,
and when all is at rest all of them are ahead. -/
theorem requests_end_in_time (endpoint : Endpoint) (settings : Settings) :
    let beginning := Connection.start endpoint settings
    let timeout := settings.effectiveReadTimeout.toNat
    (∀ moves : List (Time × Move),
      (∀ turn ∈ beginning.turns moves, ∀ entry ∈ turn.before.engine.pending.entries,
        turn.time ≤ entry.deadline) →
      (∃ docket : Docket, docket.Settles (duesIn timeout (beginning.turns moves))
        (tellingsIn (beginning.turns moves)) (beginning.run moves).engine) ∧
      ((beginning.run moves).engine.life = .collapsed → longestDelay < timeout)) ∧
    ∀ (source : SyncSource) (plans : List Plan) (fallback : Plan) (schedule : List Doing),
      let simulation := (start endpoint settings source plans fallback).after schedule
      (∃ docket : Docket, docket.Settles (simulation.record.filterMap (Sight.due? timeout))
        (simulation.record.filterMap Sight.telling?) simulation.connection.engine) ∧
      (simulation.connection.engine.life = .collapsed → longestDelay < timeout) ∧
      (∀ entry ∈ simulation.connection.engine.pending.entries, simulation.now ≤ entry.deadline) ∧
      (simulation.isAtRest simulation.now = true →
        ∀ entry ∈ simulation.connection.engine.pending.entries,
          simulation.now < entry.deadline) := by
  intro beginning timeout
  have settles (moves : List (Time × Move))
      (timely : ∀ turn ∈ beginning.turns moves, turn.IsTimely) :
      (∃ docket : Docket, docket.Settles (duesIn timeout (beginning.turns moves))
        (tellingsIn (beginning.turns moves)) (beginning.run moves).engine) ∧
      ((beginning.run moves).engine.life = .collapsed → longestDelay < timeout) :=
    ⟨Connection.requests_settle endpoint settings moves timely,
      (Client.Lifecycle.run endpoint settings moves).overdue⟩
  refine ⟨fun moves ahead => ?_, fun source plans fallback schedule => ?_⟩
  · exact settles moves fun turn member =>
      ⟨Connection.isArmed_of_mem_turns member, ahead turn member⟩
  intro simulation
  obtain ⟨⟨moves, enacts⟩, timely⟩ :=
    enacts_of_start endpoint settings source plans fallback schedule
  have spoken : simulation.record.filter Sight.isSpoken =
      (beginning.turns moves).flatMap sightsIn := enacts.spoken
  have dues : simulation.record.filterMap (Sight.due? timeout) =
      duesIn timeout (beginning.turns moves) := by
    rw [← duesIn_eq, ← spoken, filterMap_spoken]
    intro sight silent
    cases sight with
    | heard _ _ => cases silent
    | _ => rfl
  have tellings : simulation.record.filterMap Sight.telling? =
      tellingsIn (beginning.turns moves) := by
    rw [← tellingsIn_eq, ← spoken, filterMap_spoken]
    intro sight silent
    cases sight with
    | engine _ _ => cases silent
    | _ => rfl
  have ran : simulation.connection = beginning.run moves := enacts.connection
  obtain ⟨settled, overdue⟩ := settles moves enacts.timely
  refine ⟨?_, ?_, timely.ahead, fun rests entry member => ?_⟩
  · rw [dues, tellings, ran]
    exact settled
  · rw [ran]
    exact overdue
  · exact lt_deadline_of_isAtRest rests timely.armed member

/-- One caller times out although something waits in the mailbox, the other has a response. -/
theorem requests_end_in_time_out_of_turn :
    let beginning := Connection.start ⟨.dotted [127, 0, 0, 1], 3301⟩ .standard
    (∀ turn ∈ beginning.turns crossing, ∀ entry ∈ turn.before.engine.pending.entries,
      turn.time ≤ entry.deadline) ∧
    duesIn 1000 (beginning.turns crossing) = [⟨0, 1000⟩, ⟨1, 2000⟩] ∧
    (tellingsIn (beginning.turns crossing)).map Telling.time = [1000, 1600] ∧
    ∃ docket : Docket, docket.Settles (duesIn 1000 (beginning.turns crossing))
      (tellingsIn (beginning.turns crossing)) (beginning.run crossing).engine := by
  intro beginning
  have ahead : ∀ turn ∈ beginning.turns crossing, ∀ entry ∈ turn.before.engine.pending.entries,
      turn.time ≤ entry.deadline := by decide
  exact ⟨ahead, by decide, by decide,
    ((requests_end_in_time ⟨.dotted [127, 0, 0, 1], 3301⟩ .standard).1 crossing ahead).1⟩

/-- In every run in which the world keeps to what the engine has told it, the parts of the
connection fit together, unless the engine has broken down, which it does only where no alarm can
be set.  After every schedule, the connection has gone through such a run, of which all that the
engine heard and did was seen; so wherever that run is broken off, the parts fit together. -/
theorem states_cohere (endpoint : Endpoint) (settings : Settings) :
    let beginning := Connection.start endpoint settings
    (∀ moves, (∀ turn ∈ beginning.turns moves, turn.IsApt) →
      (beginning.run moves).engine.life = .collapsed ∧
          longestDelay < settings.effectiveReadTimeout.toNat ∨
        (beginning.run moves).IsCoherent (beginning.turns moves)) ∧
    ∀ (source : SyncSource) (plans : List Plan) (fallback : Plan) (schedule : List Doing),
      let simulation := (start endpoint settings source plans fallback).after schedule
      ∃ moves, beginning.run moves = simulation.connection ∧
        simulation.record.filter Sight.isSpoken = (beginning.turns moves).flatMap sightsIn ∧
        (∀ turn ∈ beginning.turns moves, turn.IsApt) ∧
        ∀ past, past <+: moves →
          (beginning.run past).engine.life = .collapsed ∧
              longestDelay < settings.effectiveReadTimeout.toNat ∨
            (beginning.run past).IsCoherent (beginning.turns past) := by
  intro beginning
  have coheres (moves : List (Time × Move)) (apt : ∀ turn ∈ beginning.turns moves, turn.IsApt) :=
    (Client.Lifecycle.run endpoint settings moves).overdue_or
      (Connection.isCoherent_of_apt endpoint settings moves apt)
  exact ⟨coheres, holds_wherever endpoint settings coheres⟩

/-- A socket is served while a write waits in the mailbox, and a deadline has passed meanwhile. -/
theorem states_cohere_out_of_turn :
    let beginning := Connection.start ⟨.dotted [127, 0, 0, 1], 3301⟩ .standard
    let moves := crossing.take 5
    (∀ turn ∈ beginning.turns moves, turn.IsApt) ∧
      (beginning.run moves).engine.phase = .connected ∧
      (beginning.run moves).mailbox = [.write (Field.pack 1 8 0 []) (some 1)] ∧
      (beginning.run moves).engine.inFlight.isSome = true ∧
      (beginning.run moves).IsCoherent (beginning.turns moves) := by
  intro beginning moves
  have apt : ∀ turn ∈ beginning.turns moves, turn.IsApt := by decide
  refine ⟨apt, by decide, by decide, by decide, ?_⟩
  have cohere := (states_cohere ⟨.dotted [127, 0, 0, 1], 3301⟩ .standard).1 moves apt
  exact cohere.resolve_left fun broken => absurd broken.2 (by decide)

/-- In every run in which the world keeps to what the engine has told it, the engine has at most one
ping, scheduled or waiting for its response, and exactly one as long as a socket is served, an
interval is set and the engine has not been told to send none; unless it has broken down, which it
does only where no alarm can be set.  After every schedule, the connection has gone through such a
run, of which all that the engine heard and did was seen; so this holds wherever that run is broken
off. -/
theorem pings_persist (endpoint : Endpoint) (settings : Settings) :
    let beginning := Connection.start endpoint settings
    (∀ moves, (∀ turn ∈ beginning.turns moves, turn.IsApt) →
      (beginning.run moves).engine.life = .collapsed ∧
          longestDelay < settings.effectiveReadTimeout.toNat ∨
        (beginning.run moves).IsProbing (beginning.turns moves)) ∧
    ∀ (source : SyncSource) (plans : List Plan) (fallback : Plan) (schedule : List Doing),
      let simulation := (start endpoint settings source plans fallback).after schedule
      ∃ moves, beginning.run moves = simulation.connection ∧
        simulation.record.filter Sight.isSpoken = (beginning.turns moves).flatMap sightsIn ∧
        (∀ turn ∈ beginning.turns moves, turn.IsApt) ∧
        ∀ past, past <+: moves →
          (beginning.run past).engine.life = .collapsed ∧
              longestDelay < settings.effectiveReadTimeout.toNat ∨
            (beginning.run past).IsProbing (beginning.turns past) := by
  intro beginning
  have probes (moves : List (Time × Move)) (apt : ∀ turn ∈ beginning.turns moves, turn.IsApt) :=
    (Client.Lifecycle.run endpoint settings moves).overdue_or
      (Connection.isProbing_of_apt endpoint settings moves apt)
  exact ⟨probes, holds_wherever endpoint settings probes⟩

/-- A ping waits for its response before the engine hears that it is to send no more. -/
theorem pings_persist_out_of_turn :
    let beginning := Connection.start ⟨.dotted [127, 0, 0, 1], 3301⟩ .standard
    let moves := crossing.take 11
    (∀ turn ∈ beginning.turns moves, turn.IsApt) ∧
      (beginning.run moves).engine.pending.pings = 1 ∧
      (beginning.run moves).mailbox = [.disablePing] ∧
      (beginning.run moves).IsProbing (beginning.turns moves) := by
  intro beginning moves
  have apt : ∀ turn ∈ beginning.turns moves, turn.IsApt := by decide
  refine ⟨apt, by decide, by decide, ?_⟩
  have probing := (pings_persist ⟨.dotted [127, 0, 0, 1], 3301⟩ .standard).1 moves apt
  exact probing.resolve_left fun broken => absurd broken.2 (by decide)

/-- Whenever the engine looks after its alarms in a run in which the world keeps to what the engine
has told it, no deadline has come and nothing changes; or that of a caller has come, who is told,
and but for its entry and the number of those who wait everything stays as it is, so that a response
which comes later is passed by; or that of a ping has come, and at once everybody who waits is
dismissed, the generation is left and a new attempt begins, with the queue as it was.  After every
schedule, the connection has gone through such a run, of which all that the engine heard and did
was seen. -/
theorem timeouts_stay_local (endpoint : Endpoint) (settings : Settings) :
    let beginning := Connection.start endpoint settings
    (∀ moves, (∀ turn ∈ beginning.turns moves, turn.IsApt) →
      Client.AreLocal (beginning.turns moves)) ∧
    ∀ (source : SyncSource) (plans : List Plan) (fallback : Plan) (schedule : List Doing),
      let simulation := (start endpoint settings source plans fallback).after schedule
      ∃ moves, beginning.run moves = simulation.connection ∧
        simulation.record.filter Sight.isSpoken = (beginning.turns moves).flatMap sightsIn ∧
        (∀ turn ∈ beginning.turns moves, turn.IsApt) ∧
        Client.AreLocal (beginning.turns moves) := by
  intro beginning
  have areLocal := Connection.areLocal endpoint settings
  refine ⟨areLocal, fun source plans fallback schedule => ?_⟩
  obtain ⟨moves, ran, spoken, apt, wherever⟩ :=
    holds_wherever endpoint settings areLocal source plans fallback schedule
  exact ⟨moves, ran, spoken, apt, wherever moves (List.prefix_refl moves)⟩

/-- The deadline of a caller comes while a write waits in the mailbox, and that of a ping when no
more are to be sent. -/
theorem timeouts_stay_local_out_of_turn :
    let beginning := Connection.start ⟨.dotted [127, 0, 0, 1], 3301⟩ .standard
    (∀ turn ∈ beginning.turns crossing, turn.IsApt) ∧
      ((beginning.turns crossing).filter fun turn => turn.heard? == some .alarm).map
        (fun turn => (turn.time, turn.before.mailbox.length)) = [(1000, 1), (6001, 0)] ∧
      Client.AreLocal (beginning.turns crossing) := by
  intro beginning
  have apt : ∀ turn ∈ beginning.turns crossing, turn.IsApt := by decide
  exact ⟨apt, by decide,
    (timeouts_stay_local ⟨.dotted [127, 0, 0, 1], 3301⟩ .standard).1 crossing apt⟩

/-- From the turn on in which the engine hears that it is to send no more pings, in a run in which
the world keeps to what the engine has told it, no ping joins the queue, whatever socket is served.
The connection starts anew only because a read, a write or an attempt has failed, or because it was
told to; and once at most, on the socket that was served in that turn, because the one ping that was
waiting then has had no response.  After every schedule, the connection has gone through such a run,
of which all that the engine heard and did was seen. -/
theorem disabled_pings_stay_unsent (endpoint : Endpoint) (settings : Settings) :
    let beginning := Connection.start endpoint settings
    (∀ moves, (∀ turn ∈ beginning.turns moves, turn.IsApt) →
      ∀ past turn future, beginning.turns moves = past ++ turn :: future →
        turn.heard? = some (.command .disablePing) → Client.EndsPings past turn future) ∧
    ∀ (source : SyncSource) (plans : List Plan) (fallback : Plan) (schedule : List Doing),
      let simulation := (start endpoint settings source plans fallback).after schedule
      ∃ moves, beginning.run moves = simulation.connection ∧
        simulation.record.filter Sight.isSpoken = (beginning.turns moves).flatMap sightsIn ∧
        (∀ turn ∈ beginning.turns moves, turn.IsApt) ∧
        ∀ past turn future, beginning.turns moves = past ++ turn :: future →
          turn.heard? = some (.command .disablePing) → Client.EndsPings past turn future := by
  intro beginning
  have ends (moves : List (Time × Move)) (apt : ∀ turn ∈ beginning.turns moves, turn.IsApt)
      (past : List Turn) (turn : Turn) (future : List Turn)
      (split : beginning.turns moves = past ++ turn :: future)
      (heard : turn.heard? = some (.command .disablePing)) : Client.EndsPings past turn future :=
    Connection.endsPings_of_apt endpoint settings moves apt split heard
  refine ⟨ends, fun source plans fallback schedule => ?_⟩
  obtain ⟨moves, ran, spoken, apt, wherever⟩ :=
    holds_wherever endpoint settings ends source plans fallback schedule
  exact ⟨moves, ran, spoken, apt, wherever moves (List.prefix_refl moves)⟩

/-- The engine hears that it is to send no more pings while one waits, which then costs the
socket; the next socket has none. -/
theorem disabled_pings_stay_unsent_out_of_turn :
    let beginning := Connection.start ⟨.dotted [127, 0, 0, 1], 3301⟩ .standard
    let turns := beginning.turns crossing
    let turn : Turn := ⟨5001, .serve, beginning.run (crossing.take 11)⟩
    (∀ turn ∈ turns, turn.IsApt) ∧ turns = turns.take 11 ++ turn :: turns.drop 12 ∧
      turn.heard? = some (.command .disablePing) ∧ turn.before.engine.pending.pings = 1 ∧
      (beginning.run crossing).engine.link = some 1 ∧
      (beginning.run crossing).engine.pingAt = none ∧
      Client.EndsPings (turns.take 11) turn (turns.drop 12) := by
  intro beginning turns turn
  have apt : ∀ turn ∈ turns, turn.IsApt := by decide
  have split : turns = turns.take 11 ++ turn :: turns.drop 12 := by decide
  have heard : turn.heard? = some (.command .disablePing) := by decide
  exact ⟨apt, split, heard, by decide, by decide, by decide,
    (disabled_pings_stay_unsent ⟨.dotted [127, 0, 0, 1], 3301⟩ .standard).1 crossing apt _ _ _ split
      heard⟩

/-- The ping that waits when pings are disabled still costs the socket: the engine hears of nothing
that has failed, and of nobody who asks for another. -/
theorem awaited_ping_outlives_disabled_pings :
    let settings : Settings := { Settings.standard with
      readTimeout := 10, pingInterval := some 5 }
    let simulation := (start ⟨.dotted [127, 0, 0, 1], 3301⟩ settings .fresh []
      ⟨.accept, 0, false, none, ⟨[], []⟩⟩).after
        [.operate (.send (Field.pack 1 7 0 [])), .operate (.elapse 5), .operate .disablePing,
          .operate (.elapse 10)]
    [.heard 5 (.command .disablePing), .heard 15 .alarm, .engine 15 (.expired 1),
      .engine 15 (.warned (.pingFailed .timeout)), .engine 15 (.closed 0), .closed 0,
      .engine 15 (.noted (.connecting 1)), .engine 15 (.dialed 1), .accepted 1 true,
      .heard 15 (.report 1 (.connected 1)), .engine 15 (.attached 1),
      .engine 15 (.noted (.connected 1))] <:+ simulation.record := by
  decide +kernel

end Simulation

end RequestMux.Network
