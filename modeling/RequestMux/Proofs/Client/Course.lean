import RequestMux.Client.Connection
import RequestMux.Proofs.Client.Table

/-!
# The course of a reaction

A reaction of a running engine starts with an onset, which is what its stimulus
alone brings about, and goes on in ticks, which are the same few small changes
whatever the stimulus was.  An invariant of the engine and its history is an
invariant of onsets and ticks.
-/

namespace RequestMux.Client

open Pending (Alarm Entry Expiry Table Waiter displaced)

/-- The ticket that comes with a stimulus. -/
def Stimulus.ticket? : Stimulus → Option Nat
  | .command (.write _ ticket) => ticket
  | _ => none

/-- Whether a stimulus may bring nothing about but ticks. -/
def Stimulus.isPlain : Stimulus → Bool
  | .command (.write _ none) => true
  | .command .reconnect => true
  | .alarm => true
  | _ => false

/-- Whether a stimulus asks for an entry with this id and this waiter. -/
def Stimulus.Asks (stimulus : Stimulus) (sync : UInt32) (waiter : Waiter) : Prop :=
  match stimulus with
  | .command (.write packet (some ticket)) => sync = packet.header.sync ∧ waiter = .caller ticket
  | .ping id => sync = id ∧ waiter = .ping
  | _ => False

theorem Stimulus.ticket?_of_isPlain {stimulus : Stimulus} (plain : stimulus.isPlain = true) :
    stimulus.ticket? = none := by
  cases stimulus with
  | command command =>
      cases command with
      | write packet ticket =>
          cases ticket with
          | none => rfl
          | some ticket => cases plain
      | _ => rfl
  | _ => rfl

theorem Stimulus.Asks.ticket? {stimulus : Stimulus} {sync : UInt32} {waiter : Waiter}
    (asked : stimulus.Asks sync waiter) : waiter.ticket? = stimulus.ticket? := by
  cases stimulus with
  | command command =>
      cases command with
      | write packet ticket =>
          cases ticket with
          | none => exact asked.elim
          | some ticket =>
              obtain ⟨-, rfl⟩ := asked
              rfl
      | _ => exact asked.elim
  | ping id =>
      obtain ⟨-, rfl⟩ := asked
      rfl
  | _ => exact asked.elim

/-- Whether an effect only says something. -/
def Effect.isRemark : Effect → Bool
  | .warned _ => true
  | .noted _ => true
  | _ => false

namespace Engine

/-- Whether an engine takes stimuli and has not begun to shut down. -/
structure IsAwake (engine : Engine) : Prop where
  running : engine.life = .running
  open_ : engine.phase ≠ .shuttingDown

/-- Tell some callers their outcome. -/
def tell (tickets : List Nat) (outcome : Outcome) (engine : Engine) : Reaction :=
  ({ engine with
      board := { engine.board with outstanding := engine.board.outstanding - tickets.length } },
    tickets.map fun ticket => .resolved ticket outcome)

/-- The entry that a request made now is given. -/
def entryFor (now : Time) (sync : UInt32) (waiter : Waiter) (engine : Engine) : Entry :=
  engine.pending.newEntry sync (now + engine.patience) engine.nextJob waiter

/-- The engine with a new entry in its table, and the caller told whose entry had to go. -/
def enter (entry : Entry) (talk : List Effect) (engine : Engine) : Reaction :=
  let registered := engine.pending.register entry
  let told := tell (displaced registered.1).toList .error { engine with pending := registered.2 }
  (told.1, .registered entry :: talk ++ told.2)

/-- The engine without an entry, and the caller told who waited for it. -/
def discharge (entry : Entry) (table : Table) (outcome : Outcome) (engine : Engine) : Reaction :=
  tell entry.waiter.ticket?.toList outcome { engine with pending := table }

/-- The buffer that comes back after a failed write, if it was cut off part-way. -/
def returned (part : Bool) (engine : Engine) : List QueuedWrite :=
  if part then engine.inFlight.toList else []

/-- The engine with nothing with the writer, and the buffer back that was cut off. -/
def takeBack (part : Bool) (engine : Engine) : Reaction :=
  ({ engine with inFlight := none, queue := engine.returned part ++ engine.queue },
    (engine.returned part).map .requeued)

end Engine

/-- What a stimulus alone brings about. -/
inductive Onset (now : Time) (engine : Engine) : Stimulus → List Effect → Engine → Prop where
  /-- Nothing, before the ticks. -/
  | plain {stimulus : Stimulus} (told : stimulus.isPlain = true) :
      Onset now engine stimulus [] engine
  | disablePing :
      Onset now engine (.command .disablePing) []
        { engine with pingEnabled := false, pingAt := none }
  | shutDown :
      Onset now engine (.command .shutdown) engine.shutDown.2 engine.shutDown.1
  /-- A request enters the table. -/
  | enter {stimulus : Stimulus} {sync : UInt32} {waiter : Waiter} (talk : List Effect)
      (pingAt : Option Time) (asked : stimulus.Asks sync waiter)
      (said : ∀ effect ∈ talk, effect.isRemark = true)
      (possible : engine.patience ≤ longestDelay) :
      Onset now engine stimulus (engine.enter (engine.entryFor now sync waiter) talk).2
        { (engine.enter (engine.entryFor now sync waiter) talk).1 with pingAt }
  /-- No alarm can be set for a request. -/
  | collapse {stimulus : Stimulus} {sync : UInt32} {waiter : Waiter}
      (asked : stimulus.Asks sync waiter) (impossible : longestDelay < engine.patience) :
      Onset now engine stimulus (engine.collapse stimulus.ticket?.toList).2
        (engine.collapse stimulus.ticket?.toList).1
  | attach (socket : Nat) :
      Onset now engine (.report engine.generation (.connected socket))
        [.attached socket, .noted (.connected engine.generation)]
        { engine.setPhase .connected with link := some socket, attempting := false }
  | redial (failure : IoFailure) :
      Onset now engine (.report engine.generation (.connectFailed failure))
        (.warned (.connectFailed failure) :: engine.beginConnect.2) engine.beginConnect.1
  /-- A frame answers a request. -/
  | answer {packet : Wire.Packet} {entry : Entry} {table : Table}
      (found : engine.pending.resolve packet.header.sync = (some entry, table)) :
      Onset now engine (.report engine.generation (.frame packet))
        (.answered entry packet :: (engine.discharge entry table (.ok packet)).2)
        (engine.discharge entry table (.ok packet)).1
  /-- Nobody waits for a frame. -/
  | unknown (packet : Wire.Packet) (effect : Effect) (said : effect.isRemark = true) :
      Onset now engine (.report engine.generation (.frame packet)) [effect] engine
  | readFailed (fault : ClientError) :
      Onset now engine (.report engine.generation (.readFailed fault))
        [.warned (.readFailed fault)] engine
  | written :
      Onset now engine (.report engine.generation .written)
        (engine.inFlight.toList.map .delivered) { engine with inFlight := none }
  | writeFailed (failure : IoFailure) (part : Bool) :
      Onset now engine (.report engine.generation (.writeFailed failure part))
        (.warned (.writeFailed failure) :: (engine.takeBack part).2 ++
          (engine.takeBack part).1.release.2)
        (engine.takeBack part).1.release.1
  /-- A report comes too late. -/
  | stale (generation : Nat) (report : Report) (old : generation ≠ engine.generation) :
      Onset now engine (.report generation report) (engine.ignoreReport report).2 engine
  /-- An alarm rings for nobody, or too early. -/
  | ring {alarm : Alarm} {rung table : Table} {expiry : Expiry}
      (ringing : engine.pending.ring? now = some (alarm, rung))
      (taken : rung.takeExpired alarm.sync now = (expiry, table))
      (early : ∀ entry, expiry ≠ .fired entry) :
      Onset now engine .alarm [] { engine with pending := table }
  /-- A deadline has come. -/
  | expire {alarm : Alarm} {entry : Entry} {rung table : Table}
      (ringing : engine.pending.ring? now = some (alarm, rung))
      (fired : rung.takeExpired alarm.sync now = (.fired entry, table)) :
      Onset now engine .alarm
        (.expired alarm.sync :: (engine.discharge entry table .timeout).2)
        (engine.discharge entry table .timeout).1

/-- A small change that may follow. -/
inductive Tick (now : Time) (engine : Engine) : List Effect → Engine → Prop where
  | remark (effect : Effect) (said : effect.isRemark = true) : Tick now engine [effect] engine
  | reschedule : Tick now engine [] (engine.schedulePing now)
  | publish : Tick now engine [] engine.publishWriting
  | dial (idle : engine.phase = .disconnected) :
      Tick now engine engine.beginConnect.2 engine.beginConnect.1
  | push (octets : Bytes) (counted : Bool) :
      Tick now engine (engine.push octets counted).2 (engine.push octets counted).1
  | hand {socket : Nat} {write : QueuedWrite} {rest : List QueuedWrite}
      (free : engine.inFlight = none) (linked : engine.link = some socket)
      (first : engine.queue = write :: rest) :
      Tick now engine [.handed socket write]
        ({ engine with inFlight := some write, queue := rest }.publishWriting)
  | release : Tick now engine engine.release.2 engine.release.1
  | dismiss : Tick now engine engine.dismissAll.2 engine.dismissAll.1

/-- Any number of ticks of an engine that is awake. -/
inductive Ticks (now : Time) : Engine → List Effect → Engine → Prop where
  | done (engine : Engine) : Ticks now engine [] engine
  | next {engine middle after : Engine} {first later : List Effect} (awake : engine.IsAwake)
      (tick : Tick now engine first middle) (ticks : Ticks now middle later after) :
      Ticks now engine (first ++ later) after

/-- An onset and the ticks behind it. -/
def Course (now : Time) (stimulus : Stimulus) (engine : Engine) (effects : List Effect)
    (after : Engine) : Prop :=
  ∃ first middle later, Onset now engine stimulus first middle ∧
    Ticks now middle later after ∧ effects = first ++ later

namespace Tick

/-- No tick ends the life of an engine, and none shuts it down. -/
theorem isAwake {now : Time} {engine after : Engine} {effects : List Effect}
    (awake : engine.IsAwake) (tick : Tick now engine effects after) : after.IsAwake := by
  obtain ⟨running, isOpen⟩ := awake
  cases tick with
  | dial => exact ⟨running, by simp [Engine.beginConnect, Engine.setPhase]⟩
  | release => exact ⟨running, by simp [Engine.release, Engine.setPhase, Engine.publishWriting, isOpen]⟩
  | _ => exact ⟨running, isOpen⟩

end Tick

namespace Ticks

theorem single {now : Time} {engine after : Engine} {effects : List Effect}
    (awake : engine.IsAwake) (tick : Tick now engine effects after) :
    Ticks now engine effects after := by
  simpa using Ticks.next awake tick (.done after)

theorem isAwake {now : Time} {engine after : Engine} {effects : List Effect}
    (awake : engine.IsAwake) (ticks : Ticks now engine effects after) : after.IsAwake := by
  induction ticks with
  | done => exact awake
  | next _ tick _ ih => exact ih (tick.isAwake awake)

theorem trans {now : Time} {engine middle after : Engine} {first later : List Effect}
    (ticks : Ticks now engine first middle) (more : Ticks now middle later after) :
    Ticks now engine (first ++ later) after := by
  induction ticks with
  | done => exact more
  | next awake tick _ ih =>
      rw [List.append_assoc]
      exact .next awake tick (ih more)

theorem forall_effects (p : Effect → Prop) {now : Time} {engine after : Engine}
    {effects : List Effect}
    (each : ∀ {engine effects after}, Tick now engine effects after → ∀ effect ∈ effects, p effect)
    (ticks : Ticks now engine effects after) : ∀ effect ∈ effects, p effect := by
  induction ticks with
  | done => exact nofun
  | next _ tick _ ih =>
      intro effect member
      rcases List.mem_append.mp member with early | late
      · exact each tick effect early
      · exact ih effect late

/-- Reactions of ticks follow each other. -/
theorem andThen {now : Time} {engine : Engine} {reaction : Reaction}
    {next : Engine → Reaction} (ticks : Ticks now engine reaction.2 reaction.1)
    (more : Ticks now reaction.1 (next reaction.1).2 (next reaction.1).1) :
    Ticks now engine (reaction.andThen next).2 (reaction.andThen next).1 :=
  ticks.trans more

end Ticks

namespace Engine

variable {now : Time} {engine : Engine}

theorem pumpWrites_ticks (awake : engine.IsAwake) :
    Ticks now engine engine.pumpWrites.2 engine.pumpWrites.1 := by
  unfold pumpWrites
  split
  · next free linked first => exact .single awake (.hand free linked first)
  · exact .single awake .publish

theorem beginConnect_ticks (awake : engine.IsAwake) (idle : engine.phase = .disconnected) :
    Ticks now engine engine.beginConnect.2 engine.beginConnect.1 :=
  .single awake (.dial idle)

theorem enqueue_ticks (awake : engine.IsAwake) (octets : Bytes) (counted : Bool) :
    Ticks now engine (engine.enqueue octets counted).2 (engine.enqueue octets counted).1 := by
  have pushed : (engine.push octets counted).1.IsAwake := ⟨awake.running, awake.open_⟩
  refine Ticks.andThen (.single awake (.push octets counted)) ?_
  unfold dispatch
  split
  · next idle => exact beginConnect_ticks pushed idle
  · exact .done _
  · exact pumpWrites_ticks pushed
  · next closing => exact absurd closing pushed.open_

theorem release_idle (awake : engine.IsAwake) : engine.release.1.phase = .disconnected := by
  simp [release, setPhase, publishWriting, awake.open_]

/-- A reconnect releases what the engine has, and goes on in ticks. -/
theorem reconnect_ticks_of_release {now : Time} (awake : engine.IsAwake) :
    ∃ later, Ticks now engine.release.1 later engine.reconnect.1 ∧
      engine.reconnect.2 = engine.release.2 ++ later := by
  have released : engine.release.1.IsAwake := Tick.isAwake awake (.release : Tick now engine _ _)
  have dismissed : engine.release.1.dismissAll.1.IsAwake := ⟨released.running, released.open_⟩
  unfold reconnect teardown
  rw [if_neg awake.open_]
  refine ⟨_, (Ticks.single released .dismiss).trans
    (beginConnect_ticks dismissed (release_idle awake)), ?_⟩
  exact List.append_assoc _ _ _

theorem reconnect_ticks (awake : engine.IsAwake) :
    Ticks now engine engine.reconnect.2 engine.reconnect.1 := by
  obtain ⟨later, ticks, effects⟩ := reconnect_ticks_of_release awake
  rw [effects]
  exact .next awake .release ticks

/-- What becomes of a ping takes only ticks. -/
theorem pingDone_ticks (awake : engine.IsAwake) (outcome : Outcome) :
    Ticks now engine (engine.pingDone now outcome).2 (engine.pingDone now outcome).1 := by
  unfold pingDone
  split
  · split
    · exact .single awake .reschedule
    · exact Ticks.andThen (.single awake (.remark _ rfl)) (reconnect_ticks awake)
  · exact .done engine

/-- To give an outcome is to tell the caller, if there is one; a ping has ticks behind it. -/
theorem complete_course (now : Time) (awake : engine.IsAwake) (entry : Entry) (table : Table)
    (outcome : Outcome) :
    ∃ later, Ticks now (engine.discharge entry table outcome).1 later
        (complete now entry.waiter outcome { engine with pending := table }).1 ∧
      (complete now entry.waiter outcome { engine with pending := table }).2 =
        (engine.discharge entry table outcome).2 ++ later := by
  have left : ({ engine with pending := table } : Engine).IsAwake := ⟨awake.running, awake.open_⟩
  unfold discharge
  cases entry.waiter with
  | caller ticket => exact ⟨[], .done _, rfl⟩
  | ping => exact ⟨_, pingDone_ticks left outcome, rfl⟩

/-- A request that takes over an id lets its caller be told, or has the next ping scheduled. -/
theorem yieldTo_course (now : Time) (awake : engine.IsAwake) (entry : Entry) (sync : UInt32) :
    let registered := engine.pending.register entry
    let yielded := yieldTo now sync registered.1 { engine with pending := registered.2 }
    ∃ talk later, (∀ effect ∈ talk, Effect.isRemark effect = true) ∧
      Ticks now (engine.enter entry talk).1 later yielded.1 ∧
      .registered entry :: yielded.2 = (engine.enter entry talk).2 ++ later := by
  intro registered yielded
  have entered : ({ engine with pending := registered.2 } : Engine).IsAwake :=
    ⟨awake.running, awake.open_⟩
  simp only [yielded, yieldTo, enter]
  change ∃ talk later, _ ∧ Ticks now (tell (displaced registered.1).toList _ _).1 _ _ ∧ _
  cases registered.1 with
  | none => exact ⟨[], [], by simp, .done _, rfl⟩
  | some replaced =>
      unfold displaced
      simp only [Option.map_some, Option.bind_some]
      cases replaced.waiter with
      | caller ticket => exact ⟨[.warned (.syncReused sync)], [], by simp [Effect.isRemark], .done _, rfl⟩
      | ping => exact ⟨[], [], by simp, .single entered .reschedule, rfl⟩

theorem write_course (awake : engine.IsAwake) (packet : Wire.Packet) (ticket : Option Nat) :
    Course now (.command (.write packet ticket)) engine
      (engine.write now packet ticket).2 (engine.write now packet ticket).1 := by
  cases ticket with
  | none => exact ⟨[], engine, _, .plain rfl, enqueue_ticks awake packet.data true, rfl⟩
  | some ticket =>
      by_cases impossible : longestDelay < engine.patience
      · have fails : engine.write now packet (some ticket) = engine.collapse [ticket] :=
          if_pos impossible
        rw [fails]
        exact ⟨_, _, [], .collapse ⟨rfl, rfl⟩ impossible, .done _, (List.append_nil _).symm⟩
      · let entry := engine.entryFor now packet.header.sync (.caller ticket)
        let registered := engine.pending.register entry
        let yielded := yieldTo now packet.header.sync registered.1
          { engine with pending := registered.2 }
        have written : engine.write now packet (some ticket) =
            Reaction.andThen (yielded.1, .registered entry :: yielded.2)
              (enqueue packet.data true) := if_neg impossible
        obtain ⟨talk, later, said, ticks, effects⟩ :=
          yieldTo_course now awake entry packet.header.sync
        have entered : (engine.enter entry talk).1.IsAwake := ⟨awake.running, awake.open_⟩
        have sent := ticks.trans (enqueue_ticks (ticks.isAwake entered) packet.data true)
        rw [written]
        refine ⟨_, _, _, .enter talk engine.pingAt ⟨rfl, rfl⟩ said (Nat.le_of_not_lt impossible),
          sent, ?_⟩
        rw [← List.append_assoc, ← effects]
        rfl

theorem sendPing_course (awake : engine.IsAwake) (sync : UInt32) :
    Course now (.ping sync) engine
      (engine.sendPing now sync).2 (engine.sendPing now sync).1 := by
  let quiet : Engine := { engine with pingAt := none }
  by_cases impossible : longestDelay < engine.patience
  · have fails : engine.sendPing now sync = engine.collapse [] := if_pos impossible
    rw [fails]
    exact ⟨_, _, [], .collapse ⟨rfl, rfl⟩ impossible, .done _, (List.append_nil _).symm⟩
  · let entry := engine.entryFor now sync .ping
    let entered : Engine := { (engine.enter entry []).1 with pingAt := none }
    let octets := (Field.Packer.withSync Wire.Header.pingMsg sync).finish.data
    have yields (replaced : Option Entry) (table : Table) :
        let told := tell (displaced replaced).toList .error { engine with pending := table }
        yieldToPing replaced { quiet with pending := table } =
          ({ told.1 with pingAt := none }, told.2) := by
      unfold yieldToPing displaced
      cases replaced with
      | none => rfl
      | some other =>
          simp only [Option.map_some, Option.bind_some]
          cases other.waiter <;> rfl
    let registered := engine.pending.register entry
    let yielded := yieldToPing registered.1 { quiet with pending := registered.2 }
    have sends : engine.sendPing now sync =
        Reaction.andThen (yielded.1, .registered entry :: yielded.2) (enqueue octets false) :=
      if_neg impossible
    have stillAwake : entered.IsAwake := ⟨awake.running, awake.open_⟩
    have same : yielded = (entered, _) := yields registered.1 registered.2
    rw [sends, same]
    exact ⟨_, entered, _, .enter [] none ⟨rfl, rfl⟩ (List.forall_mem_nil _)
      (Nat.le_of_not_lt impossible), enqueue_ticks stillAwake octets false, rfl⟩

theorem handleFrame_course (awake : engine.IsAwake) (packet : Wire.Packet) :
    Course now (.report engine.generation (.frame packet)) engine
      (engine.handleFrame now packet).2 (engine.handleFrame now packet).1 := by
  unfold handleFrame
  split
  · next entry table found =>
      obtain ⟨later, ticks, effects⟩ := complete_course now awake entry table (.ok packet)
      refine ⟨_, _, later, .answer found, ticks, ?_⟩
      exact congrArg (Effect.answered entry packet :: ·) effects
  · exact ⟨_, _, [], .unknown packet _ rfl, .done _, rfl⟩

theorem handleReport_course (awake : engine.IsAwake) (report : Report) :
    Course now (.report engine.generation report) engine
      (engine.handleReport now report).2 (engine.handleReport now report).1 := by
  cases report with
  | connected socket =>
      let attached : Engine :=
        { engine.setPhase .connected with link := some socket, attempting := false }
      have isAwake : attached.IsAwake := ⟨awake.running, nofun⟩
      have scheduled := Ticks.single isAwake (.reschedule : Tick now attached _ _)
      exact ⟨_, _, _, .attach socket,
        scheduled.trans (pumpWrites_ticks (scheduled.isAwake isAwake)), rfl⟩
  | connectFailed failure => exact ⟨_, _, [], .redial failure, .done _, rfl⟩
  | frame packet => exact handleFrame_course awake packet
  | readFailed fault => exact ⟨_, _, _, .readFailed fault, reconnect_ticks awake, rfl⟩
  | written =>
      have isAwake : ({ engine with inFlight := none } : Engine).IsAwake :=
        ⟨awake.running, awake.open_⟩
      exact ⟨_, _, _, .written, pumpWrites_ticks isAwake, rfl⟩
  | writeFailed failure part =>
      have isAwake : (engine.takeBack part).1.IsAwake := ⟨awake.running, awake.open_⟩
      obtain ⟨later, ticks, effects⟩ := reconnect_ticks_of_release isAwake
      refine ⟨_, _, _, .writeFailed failure part, ticks, ?_⟩
      have said : (engine.handleReport now (.writeFailed failure part)).2 =
          (.warned (.writeFailed failure) :: (engine.takeBack part).2) ++
            (engine.takeBack part).1.reconnect.2 := rfl
      rw [said, effects, List.append_assoc]

theorem handleAlarm_course (awake : engine.IsAwake) :
    Course now .alarm engine (engine.handleAlarm now).2 (engine.handleAlarm now).1 := by
  unfold handleAlarm
  split
  · exact ⟨[], engine, [], .plain rfl, .done _, rfl⟩
  · next alarm rung ringing =>
      split
      · next entry table fired =>
          obtain ⟨later, ticks, effects⟩ := complete_course now awake entry table .timeout
          exact ⟨_, _, later, .expire ringing fired, ticks,
            congrArg (Effect.expired alarm.sync :: ·) effects⟩
      · next expiry table early taken =>
          exact ⟨_, _, [], .ring ringing taken early, .done _, rfl⟩

theorem handleCommand_course (awake : engine.IsAwake) (command : Command) :
    Course now (.command command) engine
      (engine.handleCommand now command).2 (engine.handleCommand now command).1 := by
  cases command with
  | write packet ticket => exact write_course awake packet ticket
  | reconnect => exact ⟨[], engine, _, .plain rfl, reconnect_ticks awake, rfl⟩
  | disablePing => exact ⟨[], _, [], .disablePing, .done _, rfl⟩
  | shutdown => exact ⟨_, _, [], .shutDown, .done _, (List.append_nil _).symm⟩

/-- Every reaction of an engine that is awake takes a course. -/
theorem step_course (now : Time) (awake : engine.IsAwake) (stimulus : Stimulus) :
    Course now stimulus engine (engine.step now stimulus).2 (engine.step now stimulus).1 := by
  unfold step
  rw [awake.running]
  cases stimulus with
  | command command => exact handleCommand_course awake command
  | report generation report =>
      dsimp only
      split
      · next current =>
          subst current
          exact handleReport_course awake report
      · next old =>
          refine ⟨_, _, [], .stale generation report old, ?_, (List.append_nil _).symm⟩
          cases report <;> exact .done engine
  | alarm => exact handleAlarm_course awake
  | ping sync => exact sendPing_course awake sync

end Engine

section Kinds

variable (p : Effect → Prop) (engine : Engine)

/-! What may be among the effects of a reaction. -/

theorem Engine.forall_beginConnect (noted : ∀ note, p (.noted note))
    (dialed : ∀ generation, p (.dialed generation)) : ∀ effect ∈ engine.beginConnect.2, p effect := by
  intro effect member
  simp only [Engine.beginConnect, List.mem_cons, List.not_mem_nil, or_false] at member
  rcases member with rfl | rfl
  · exact noted _
  · exact dialed _

theorem Engine.forall_release (closed : ∀ socket, p (.closed socket)) (hungUp : p .hungUp) :
    ∀ effect ∈ engine.release.2, p effect := by
  intro effect member
  rcases List.mem_append.mp member with closing | givingUp
  · obtain ⟨socket, -, rfl⟩ := List.mem_map.mp closing
    exact closed socket
  · split at givingUp
    · rw [List.mem_singleton.mp givingUp]
      exact hungUp
    · cases givingUp

theorem Engine.forall_dismissAll (noted : ∀ note, p (.noted note))
    (dismissed : ∀ ticket, p (.resolved ticket .error)) :
    ∀ effect ∈ engine.dismissAll.2, p effect := by
  intro effect member
  rcases List.mem_append.mp member with talk | told
  · split at talk
    · cases talk
    · rw [List.mem_singleton.mp talk]
      exact noted _
  · obtain ⟨ticket, -, rfl⟩ := List.mem_map.mp told
    exact dismissed ticket

theorem Engine.forall_shutDown (closed : ∀ socket, p (.closed socket)) (hungUp : p .hungUp)
    (noted : ∀ note, p (.noted note)) (dismissed : ∀ ticket, p (.resolved ticket .error)) :
    ∀ effect ∈ engine.shutDown.2, p effect := by
  intro effect member
  rcases List.mem_append.mp member with torn | last
  · rcases List.mem_append.mp torn with releasing | dismissing
    · exact forall_release p _ closed hungUp effect releasing
    · exact forall_dismissAll p _ noted dismissed effect dismissing
  · rw [List.mem_singleton.mp last]
    exact noted .shutDown

theorem Engine.forall_collapse (forgotten : List Nat) (closed : ∀ socket, p (.closed socket))
    (abandoned : ∀ ticket, p (.abandoned ticket)) :
    ∀ effect ∈ (engine.collapse forgotten).2, p effect := by
  intro effect member
  rcases List.mem_append.mp member with forgetting | closing
  · obtain ⟨ticket, -, rfl⟩ := List.mem_map.mp forgetting
    exact abandoned ticket
  · obtain ⟨socket, -, rfl⟩ := List.mem_map.mp closing
    exact closed socket

theorem Engine.forall_tell (told : List Nat) (outcome : Outcome)
    (resolved : ∀ ticket, p (.resolved ticket outcome)) :
    ∀ effect ∈ (engine.tell told outcome).2, p effect := by
  intro effect member
  obtain ⟨ticket, -, rfl⟩ := List.mem_map.mp member
  exact resolved ticket

theorem Engine.forall_ignoreReport (report : Report) (noted : ∀ note, p (.noted note))
    (closed : ∀ socket, p (.closed socket)) : ∀ effect ∈ (engine.ignoreReport report).2, p effect := by
  intro effect member
  cases report with
  | connected socket =>
      simp only [Engine.ignoreReport, List.mem_cons, List.not_mem_nil, or_false] at member
      rcases member with rfl | rfl
      · exact noted _
      · exact closed socket
  | _ =>
      rw [List.mem_singleton.mp member]
      exact noted _

end Kinds

/-- An effect that neither enters nor answers a request, moves no buffer, starts no attempt and
attaches no socket. -/
def Effect.isIdle : Effect → Bool
  | .resolved _ _ | .abandoned _ | .warned _ | .noted _ | .expired _ | .hungUp | .closed _ => true
  | _ => false

theorem Effect.isIdle_of_isRemark {effect : Effect} (said : effect.isRemark = true) :
    effect.isIdle = true := by
  cases effect with
  | warned _ => rfl
  | noted _ => rfl
  | _ => cases said

/-- The effects that a stimulus may bring about at once. -/
inductive Onset.Brings (now : Time) (stimulus : Stimulus) (engine : Engine) : Effect → Prop where
  | idle {effect : Effect} (quiet : effect.isIdle = true) : Brings now stimulus engine effect
  | registered {sync : UInt32} {waiter : Waiter} (asked : stimulus.Asks sync waiter) :
      Brings now stimulus engine (.registered (engine.entryFor now sync waiter))
  | attached {socket : Nat} (connected : stimulus = .report engine.generation (.connected socket)) :
      Brings now stimulus engine (.attached socket)
  | answered {entry : Entry} {packet : Wire.Packet}
      (heard : stimulus = .report engine.generation (.frame packet))
      (found : engine.pending.find? packet.header.sync = some entry) :
      Brings now stimulus engine (.answered entry packet)
  | delivered {write : QueuedWrite} (done : stimulus = .report engine.generation .written)
      (inFlight : engine.inFlight = some write) : Brings now stimulus engine (.delivered write)
  | requeued {failure : IoFailure} {write : QueuedWrite}
      (failed : stimulus = .report engine.generation (.writeFailed failure true))
      (inFlight : engine.inFlight = some write) : Brings now stimulus engine (.requeued write)
  | dialed {failure : IoFailure}
      (failed : stimulus = .report engine.generation (.connectFailed failure)) :
      Brings now stimulus engine (.dialed engine.generation)

theorem Onset.brings {now : Time} {stimulus : Stimulus} {engine after : Engine}
    {effects : List Effect} (onset : Onset now engine stimulus effects after) {effect : Effect}
    (member : effect ∈ effects) : Brings now stimulus engine effect := by
  have remarks {effect : Effect} (said : effect.isRemark = true) : Brings now stimulus engine effect :=
    .idle (Effect.isIdle_of_isRemark said)
  let idle (effect : Effect) : Prop := effect.isIdle = true
  cases onset with
  | plain => cases member
  | disablePing => cases member
  | ring => cases member
  | shutDown =>
      apply Brings.idle
      exact Engine.forall_shutDown idle engine (fun _ => rfl) rfl (fun _ => rfl) (fun _ => rfl) effect
        member
  | enter talk pingAt asked said possible =>
      rcases List.mem_append.mp member with spoken | told
      · rcases List.mem_cons.mp spoken with rfl | remark
        · exact .registered asked
        · exact remarks (said effect remark)
      · exact .idle (Engine.forall_tell idle _ _ .error (fun _ => rfl) effect told)
  | collapse =>
      apply Brings.idle
      exact Engine.forall_collapse idle engine _ (fun _ => rfl) (fun _ => rfl) effect member
  | attach socket =>
      rcases List.mem_cons.mp member with rfl | noted
      · exact .attached rfl
      · rw [List.mem_singleton.mp noted]
        exact .idle rfl
  | redial failure =>
      rcases List.mem_cons.mp member with rfl | dialing
      · exact .idle rfl
      · rcases List.mem_cons.mp dialing with rfl | dialed
        · exact .idle rfl
        · rw [List.mem_singleton.mp dialed]
          exact .dialed rfl
  | answer found =>
      rcases List.mem_cons.mp member with rfl | told
      · exact .answered rfl (Table.resolve_some found).1
      · exact .idle (Engine.forall_tell idle _ _ (.ok _) (fun _ => rfl) effect told)
  | unknown packet remark said =>
      rw [List.mem_singleton.mp member]
      exact remarks said
  | readFailed fault =>
      rw [List.mem_singleton.mp member]
      exact .idle rfl
  | written =>
      obtain ⟨write, here, rfl⟩ := List.mem_map.mp member
      exact .delivered rfl (Option.mem_toList.mp here)
  | writeFailed failure part =>
      rcases List.mem_append.mp member with before | releasing
      · rcases List.mem_cons.mp before with rfl | returned
        · exact .idle rfl
        · obtain ⟨write, here, rfl⟩ := List.mem_map.mp returned
          cases part with
          | false => cases here
          | true => exact .requeued rfl (Option.mem_toList.mp here)
      · exact .idle (Engine.forall_release idle _ (fun _ => rfl) rfl effect releasing)
  | stale generation report old =>
      apply Brings.idle
      exact Engine.forall_ignoreReport idle engine report (fun _ => rfl) (fun _ => rfl) effect member
  | expire ringing fired =>
      rcases List.mem_cons.mp member with rfl | told
      · exact .idle rfl
      · exact .idle (Engine.forall_tell idle _ _ .timeout (fun _ => rfl) effect told)

/-- The effects that a tick may bring about. -/
inductive Tick.Brings (engine : Engine) : Effect → Prop where
  | idle {effect : Effect} (quiet : effect.isIdle = true) : Brings engine effect
  | enqueued (octets : Bytes) (counted : Bool) :
      Brings engine (.enqueued ⟨engine.nextJob, octets, counted⟩)
  | handed {socket : Nat} (write : QueuedWrite) (linked : engine.link = some socket) :
      Brings engine (.handed socket write)
  | dialed (vacant : engine.phase = .disconnected) : Brings engine (.dialed engine.generation)

theorem Tick.brings {now : Time} {engine after : Engine} {effects : List Effect}
    (tick : Tick now engine effects after) {effect : Effect} (member : effect ∈ effects) :
    Brings engine effect := by
  let idle (effect : Effect) : Prop := effect.isIdle = true
  cases tick with
  | remark remark said =>
      rw [List.mem_singleton.mp member]
      exact .idle (Effect.isIdle_of_isRemark said)
  | reschedule => cases member
  | publish => cases member
  | dial vacant =>
      rcases List.mem_cons.mp member with rfl | dialed
      · exact .idle rfl
      · rw [List.mem_singleton.mp dialed]
        exact .dialed vacant
  | push octets counted =>
      rw [List.mem_singleton.mp member]
      exact .enqueued octets counted
  | hand free linked first =>
      rw [List.mem_singleton.mp member]
      exact .handed _ linked
  | release => exact .idle (Engine.forall_release idle engine (fun _ => rfl) rfl effect member)
  | dismiss =>
      apply Brings.idle
      exact Engine.forall_dismissAll idle engine (fun _ => rfl) (fun _ => rfl) effect member

namespace Onset

/-- An onset that leaves the engine running leaves it awake. -/
theorem isAwake {now : Time} {stimulus : Stimulus} {engine after : Engine}
    {effects : List Effect} (awake : engine.IsAwake)
    (onset : Onset now engine stimulus effects after) (running : after.life = .running) :
    after.IsAwake := by
  cases onset with
  | shutDown => cases running
  | collapse => cases running
  | attach => exact ⟨running, nofun⟩
  | redial => exact ⟨running, nofun⟩
  | writeFailed failure part =>
      have left : (engine.takeBack part).1.IsAwake := ⟨awake.running, awake.open_⟩
      exact Tick.isAwake left (.release : Tick now _ _ _)
  | _ => exact ⟨running, awake.open_⟩

end Onset

namespace Course

variable {now : Time} {stimulus : Stimulus} {engine after : Engine} {effects : List Effect}

/-- A course leaves a running engine awake. -/
theorem isAwake (awake : engine.IsAwake) (course : Course now stimulus engine effects after)
    (running : after.life = .running) : after.IsAwake := by
  obtain ⟨first, middle, later, onset, ticks, -⟩ := course
  cases ticks with
  | done => exact onset.isAwake awake running
  | next middleAwake tick ticks => exact (Ticks.next middleAwake tick ticks).isAwake middleAwake

/-- What the onset brings about and ticks keep holds when the course is over. -/
theorem holds {motive : List Effect → Engine → Prop}
    (course : Course now stimulus engine effects after) (history : List Effect)
    (start : ∀ {first middle}, Onset now engine stimulus first middle →
      motive (history ++ first) middle)
    (keep : ∀ {past before more next}, before.IsAwake → Tick now before more next →
      motive past before → motive (past ++ more) next) :
    motive (history ++ effects) after := by
  obtain ⟨first, middle, later, onset, ticks, rfl⟩ := course
  have held := start onset
  rw [← List.append_assoc]
  generalize history ++ first = past at held ⊢
  clear onset
  induction ticks generalizing past with
  | done => simpa using held
  | next awake tick _ ih =>
      rw [← List.append_assoc]
      exact ih _ (keep awake tick held)

end Course

end RequestMux.Client
