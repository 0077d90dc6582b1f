import RequestMux.Proofs.Client.Closing
import RequestMux.Proofs.Network.Standing
import RequestMux.Proofs.Network.Tidiness

/-!
# What goes on behind a shutdown

With nobody to take reports, without an attempt and without timers, what is left behind a shutdown
are tasks that were in the line already and what peers send.  Neither comes to anything, and as no
socket is served any more, nothing goes out.
-/

namespace RequestMux.Network

open Client (Command Connection Effect Engine Outcome Report Time)
open Wire (Piece)

/-- Effects that call nobody leave no attempt, if there was none or they give it up. -/
theorem Scene.attempt_performAll {scene : Scene} {now : Time} {effects : List Effect}
    (undialed : ∀ effect ∈ effects, ∀ generation, effect ≠ .dialed generation)
    (idle : scene.attempt = none ∨ .hungUp ∈ effects) :
    (scene.performAll now effects).attempt = none := by
  induction effects generalizing scene with
  | nil => exact idle.resolve_right List.not_mem_nil
  | cons effect rest ih =>
      refine ih (fun other member => undialed other (List.mem_cons_of_mem effect member)) ?_
      rcases idle with none | hung
      · left
        cases effect with
        | dialed generation => exact absurd rfl (undialed _ List.mem_cons_self generation)
        | hungUp => rfl
        | _ => exact none
      · rcases List.mem_cons.mp hung with rfl | later
        · exact .inl rfl
        · exact .inr later

/-- What may still be seen when these tasks are left in the line: reports that nobody takes, callers
who learn what their task was told before, callers who are refused, and what peers do. -/
inductive Sight.IsLate (tasks : List Task) : Sight → Prop where
  | heard (time : Time) (generation : Nat) (report : Report) :
      IsLate tasks (.heard time (.report generation report))
  | learned (time : Time) {ticket : Nat} {outcome : Outcome}
      (told : .awaiter ticket outcome ∈ tasks) :
      IsLate tasks (.result time ticket (.outcome outcome))
  | refused (time : Time) (ticket : Nat) :
      IsLate tasks (.result time ticket (.refused .shuttingDown))
  | arrived (socket : Nat) (pieces : List Piece) : IsLate tasks (.arrived socket pieces)
  | ended (socket : Nat) : IsLate tasks (.ended socket)

namespace Simulation

/-- Whether nothing is left that could act on the network. -/
structure IsOver (simulation : Simulation) : Prop where
  closed : simulation.connection.IsClosed
  idle : simulation.attempt = none
  unused : ∀ (number : Nat) (socket : Socket), simulation.sockets[number]? = some socket →
    socket.isOpen = true → socket.IsUnused

/-- One simulation comes from another with nothing but what is late. -/
structure Trails (before after : Simulation) : Prop where
  connection : after.connection = before.connection
  gone : after.IsOver
  awaiters : ∀ ticket outcome, .awaiter ticket outcome ∈ after.tasks →
    .awaiter ticket outcome ∈ before.tasks
  seen : ∃ more, after.seen = more ++ before.seen ∧ ∀ sight ∈ more, sight.IsLate before.tasks

namespace Trails

variable {before middle after simulation : Simulation}

/-- The network changes, and nothing is seen of it. -/
theorem of_quiet (gone : before.IsOver) (connection : after.connection = before.connection)
    (attempt : after.attempt = before.attempt)
    (unused : ∀ (number : Nat) (socket : Socket), after.sockets[number]? = some socket →
      socket.isOpen = true → socket.IsUnused)
    (awaiters : ∀ ticket outcome, .awaiter ticket outcome ∈ after.tasks →
      .awaiter ticket outcome ∈ before.tasks)
    (seen : after.seen = before.seen) : before.Trails after where
  connection := connection
  gone := ⟨connection ▸ gone.closed, attempt.trans gone.idle, unused⟩
  awaiters := awaiters
  seen := ⟨[], seen, List.forall_mem_nil _⟩

theorem refl (gone : simulation.IsOver) : simulation.Trails simulation :=
  of_quiet gone rfl rfl gone.unused (fun _ _ => id) rfl

theorem trans (first : before.Trails middle) (second : middle.Trails after) :
    before.Trails after := by
  obtain ⟨earlier, seen, late⟩ := first.seen
  obtain ⟨later, more, alsoLate⟩ := second.seen
  refine ⟨second.connection.trans first.connection, second.gone, fun ticket outcome member =>
    first.awaiters ticket outcome (second.awaiters ticket outcome member), later ++ earlier, ?_,
    fun sight member => ?_⟩
  · rw [more, seen, List.append_assoc]
  · rcases List.mem_append.mp member with new | old
    · cases alsoLate sight new with
      | learned time told => exact .learned time (first.awaiters _ _ told)
      | heard time generation report => exact .heard time generation report
      | refused time ticket => exact .refused time ticket
      | arrived socket pieces => exact .arrived socket pieces
      | ended socket => exact .ended socket
    · exact late sight old

theorem see (gone : simulation.IsOver) {sight : Sight} (late : sight.IsLate simulation.tasks) :
    simulation.Trails (simulation.see sight) where
  connection := rfl
  gone := ⟨gone.closed, gone.idle, gone.unused⟩
  awaiters _ _ := id
  seen := ⟨[sight], rfl, fun _ member => List.mem_singleton.mp member ▸ late⟩

theorem wake (gone : simulation.IsOver) {task : Task}
    (unheard : ∀ ticket outcome, task ≠ .awaiter ticket outcome) :
    simulation.Trails (simulation.wake task) := by
  unfold Simulation.wake
  split
  · exact refl gone
  · refine of_quiet gone rfl rfl gone.unused (fun ticket outcome member => ?_) rfl
    refine (List.mem_append.mp member).resolve_right fun new => ?_
    exact unheard ticket outcome (List.mem_singleton.mp new).symm

theorem onSocket (gone : simulation.IsOver) (place : Nat) {change : Socket → Socket}
    (keeps : ∀ socket ∈ simulation.sockets[place]?, (change socket).isOpen = true →
      socket.isOpen = true ∧ (socket.IsUnused → (change socket).IsUnused)) :
    simulation.Trails (simulation.onSocket place change) := by
  refine of_quiet gone rfl rfl (fun number socket there isOpen => ?_) (fun _ _ => id) rfl
  obtain ⟨prior, old, ⟨rfl, rfl⟩ | ⟨-, rfl⟩⟩ := of_modify there
  · obtain ⟨wasOpen, unused⟩ := keeps prior old isOpen
    exact unused (gone.unused number prior old wasOpen)
  · exact gone.unused number socket old isOpen

end Trails

namespace IsOver

variable {simulation : Simulation}

/-- Nobody is left to take a report. -/
theorem report (gone : simulation.IsOver) (generation : Nat) (report : Report) :
    simulation.report generation report = simulation := by
  unfold Simulation.report isRunning
  rw [gone.closed.life]
  rfl

theorem stimulate (gone : simulation.IsOver) (generation : Nat) (report : Report) :
    simulation.Trails (simulation.stimulate (.report generation report)) := by
  have nothing : simulation.stimulate (.report generation report) =
      simulation.hear (.report generation report) := by
    unfold Simulation.stimulate
    rw [gone.closed.react]
    rfl
  rw [nothing]
  exact .see gone (.heard _ _ _)

theorem takeReports (gone : simulation.IsOver) : simulation.Trails simulation.takeReports := by
  have each (reports : List (Nat × Report)) (simulation : Simulation) (gone : simulation.IsOver) :
      simulation.Trails (reports.foldl
        (fun simulation entry => simulation.stimulate (.report entry.1 entry.2)) simulation) := by
    induction reports generalizing simulation with
    | nil => exact .refl gone
    | cons entry rest ih =>
        have one := gone.stimulate entry.1 entry.2
        exact one.trans (ih _ one.gone)
  have emptied : simulation.Trails { simulation with reports := [] } :=
    .of_quiet gone rfl rfl gone.unused (fun _ _ => id) rfl
  exact emptied.trans (each simulation.reports _ emptied.gone)

theorem dial (gone : simulation.IsOver) : simulation.dial = simulation := by
  unfold Simulation.dial
  rw [gone.idle]

theorem runReader (gone : simulation.IsOver) (number : Nat) :
    simulation.Trails (simulation.runReader number) := by
  unfold Simulation.runReader
  split
  · exact .refl gone
  · next socket found =>
      obtain ⟨there, isOpen⟩ := openSocket?_eq_some found
      have moved : simulation.Trails (simulation.onSocket number fun _ => socket.read.1) := by
        refine .onSocket gone number ?_
        rintro other member -
        cases there.symm.trans member
        exact ⟨isOpen, fun unused => ⟨unused.held, unused.waiting⟩⟩
      have untaken (reports : List Report) (simulation : Simulation) (gone : simulation.IsOver) :
          reports.foldl (fun simulation report => simulation.report socket.generation report)
            simulation = simulation := by
        induction reports with
        | nil => rfl
        | cons report rest ih => rw [List.foldl_cons, gone.report, ih]
      dsimp only
      rw [untaken _ _ moved.gone]
      exact moved

theorem runWriter (gone : simulation.IsOver) (number : Nat) :
    simulation.Trails (simulation.runWriter number) := by
  unfold Simulation.runWriter
  split
  · exact .refl gone
  · next socket found =>
      obtain ⟨there, isOpen⟩ := openSocket?_eq_some found
      rw [(gone.unused number socket there isOpen).write]
      refine .onSocket gone number ?_
      rintro other member -
      cases there.symm.trans member
      exact ⟨isOpen, id⟩

/-- Every task that was left in the line comes to nothing, or lets a caller learn what it was told
before. -/
theorem runTask (gone : simulation.IsOver) {task : Task} {rest : List Task}
    (first : simulation.tasks = task :: rest) :
    simulation.Trails ({ simulation with tasks := rest }.runTask task) := by
  have taken : simulation.Trails { simulation with tasks := rest } :=
    .of_quiet gone rfl rfl gone.unused
      (fun _ _ member => first ▸ List.mem_cons_of_mem task member) rfl
  cases task with
  | engine => exact taken.trans taken.gone.takeReports
  | dial =>
      change simulation.Trails (Simulation.dial _)
      rw [taken.gone.dial]
      exact taken
  | reader number => exact taken.trans (taken.gone.runReader number)
  | writer number => exact taken.trans (taken.gone.runWriter number)
  | awaiter ticket outcome =>
      have told : .awaiter ticket outcome ∈ simulation.tasks := first ▸ List.mem_cons_self
      refine ⟨rfl, ⟨gone.closed, gone.idle, gone.unused⟩, taken.awaiters,
        [.result simulation.now ticket (.outcome outcome)], rfl, fun sight member => ?_⟩
      rw [List.mem_singleton.mp member]
      exact .learned _ told

theorem nextTimer? (gone : simulation.IsOver) : simulation.nextTimer? = none := by
  have alarm : simulation.alarmDue? = none := by
    unfold alarmDue? Client.Pending.Table.nextAlarm?
    rw [gone.closed.alarms]
    rfl
  have attempt : simulation.attemptDue? = none := by
    unfold attemptDue?
    rw [gone.idle]
    rfl
  have ping : simulation.pingDue? = none := gone.closed.pingAt
  unfold Simulation.nextTimer?
  rw [alarm, attempt, ping]
  rfl

theorem step? (gone : simulation.IsOver) {horizon : Time} {next : Simulation}
    (stepped : simulation.step? horizon = some next) : simulation.Trails next := by
  unfold Simulation.step? at stepped
  split at stepped
  · next command rest waiting => exact nomatch waiting.symm.trans gone.closed.mailbox
  · next task rest _ first =>
      cases stepped
      exact gone.runTask first
  · rw [gone.nextTimer?] at stepped
    cases stepped

theorem run (gone : simulation.IsOver) (horizon : Time) (fuel : Nat) :
    simulation.Trails (simulation.run horizon fuel) := by
  induction fuel generalizing simulation with
  | zero => exact .refl gone
  | succ fuel ih =>
      unfold Simulation.run
      split
      · exact .refl gone
      · next next stepped =>
          have one := gone.step? stepped
          exact one.trans (ih one.gone)

theorem elapse (gone : simulation.IsOver) (span : Time) :
    simulation.Trails (simulation.elapse span) := by
  have ran := gone.run (simulation.now + span) stepLimit
  unfold Simulation.elapse
  dsimp only
  split
  · exact ran.trans (.of_quiet ran.gone rfl rfl ran.gone.unused (fun _ _ => id) rfl)
  · exact ran

theorem throughHandle (gone : simulation.IsOver) {act : Simulation → Answer × Simulation}
    (acts : simulation.Trails (act simulation).2) :
    simulation.Trails (simulation.throughHandle act).2 := by
  unfold Simulation.throughHandle
  split
  · exact acts
  · exact .refl gone

theorem submit (gone : simulation.IsOver) (packet : Wire.Packet) (ticket : Option Nat) :
    simulation.submit packet ticket = (.flag false, simulation) := by
  unfold Simulation.submit
  rw [gone.closed.submit]
  rfl

theorem request (gone : simulation.IsOver) (ticket : Nat) (packet : Wire.Packet) :
    simulation.request ticket packet =
      simulation.see (.result simulation.now ticket (.refused .shuttingDown)) := by
  unfold Simulation.request
  rw [gone.closed.submit]
  rfl

theorem byPeer (gone : simulation.IsOver) (socket : Option Nat) {sight : Nat → Sight}
    {change : Socket → Socket} (late : ∀ number, (sight number).IsLate simulation.tasks)
    (keeps : ∀ socket, (change socket).isOpen = socket.isOpen ∧
      (change socket).writer = socket.writer) :
    simulation.Trails (simulation.byPeer socket sight change).2 := by
  unfold Simulation.byPeer
  split
  · exact .refl gone
  · next found _ =>
      split
      · have changed : simulation.Trails (simulation.onSocket found.number change) := by
          refine .onSocket gone found.number fun socket _ isOpen => ⟨(keeps socket).1 ▸ isOpen, ?_⟩
          rintro ⟨held, waiting⟩
          exact ⟨(keeps socket).2 ▸ held, (keeps socket).2 ▸ waiting⟩
        have seen := changed.trans (.see changed.gone (late found.number))
        exact seen.trans (.wake seen.gone nofun)
      · exact .refl gone

/-- Nothing that is done with a simulation that is over brings about more than what is late. -/
theorem act (gone : simulation.IsOver) (operation : Operation) :
    simulation.Trails (simulation.act operation).2 := by
  have same {after : Simulation} (equal : after = simulation) : simulation.Trails after :=
    equal.symm ▸ .refl gone
  cases operation with
  | write ticket packet => exact gone.throughHandle (same (congrArg Prod.snd (gone.submit _ _)))
  | send packet => exact gone.throughHandle (same (congrArg Prod.snd (gone.submit _ _)))
  | request ticket packet =>
      refine gone.throughHandle ?_
      rw [gone.request]
      exact .see gone (.refused _ _)
  | shutdown =>
      exact gone.throughHandle (same (congrArg simulation.withConnection gone.closed.shutdown))
  | gentleShutdown =>
      exact gone.throughHandle
        (same (congrArg (simulation.withConnection ·.2) gone.closed.gentleShutdown))
  | reconnect =>
      exact gone.throughHandle (same (congrArg simulation.withConnection gone.closed.reconnect))
  | disablePing =>
      exact gone.throughHandle (same (congrArg simulation.withConnection gone.closed.disablePing))
  | drop =>
      refine gone.throughHandle ?_
      rw [gone.closed.shutdown]
      exact .of_quiet gone rfl rfl gone.unused (fun _ _ => id) rfl
  | describe => exact gone.throughHandle (.refl gone)
  | elapse span => exact gone.elapse span
  | peerSend socket pieces =>
      exact gone.byPeer socket (fun number => .arrived number pieces)
        fun socket => ⟨socket.isOpen_arrive pieces, socket.writer_arrive pieces⟩
  | peerClose socket => exact gone.byPeer socket .ended fun _ => ⟨rfl, rfl⟩
  | unblock socket =>
      change simulation.Trails (simulation.release socket).2
      unfold Simulation.release
      split
      · exact .refl gone
      · next found _ =>
          split
          · have released :
                simulation.Trails (simulation.onSocket found.number Socket.release) := by
              refine .onSocket gone found.number fun _ _ isOpen => ⟨isOpen, fun unused => ?_⟩
              exact ⟨congrArg (Option.map _) unused.held, unused.waiting⟩
            exact released.trans (.wake released.gone nofun)
          · exact .refl gone
  | prepare socket script =>
      change simulation.Trails (simulation.prepare socket script).2
      unfold Simulation.prepare
      split
      · exact .refl gone
      · next found _ =>
          exact .onSocket gone found.number fun _ _ isOpen =>
            ⟨isOpen, fun unused => ⟨unused.held, unused.waiting⟩⟩
  | plan plans => exact .of_quiet gone rfl rfl gone.unused (fun _ _ => id) rfl
  | nothing => exact .refl gone

theorem next (gone : simulation.IsOver) (doing : Doing) :
    simulation.Trails (simulation.next doing) := by
  cases doing with
  | operate operation => exact gone.act operation
  | step horizon =>
      unfold Simulation.next
      dsimp only
      cases stepped : simulation.step? horizon with
      | none => exact .refl gone
      | some after => exact gone.step? stepped

theorem after (gone : simulation.IsOver) (schedule : List Doing) :
    simulation.Trails (simulation.after schedule) := by
  induction schedule generalizing simulation with
  | nil => exact .refl gone
  | cons doing rest ih =>
      have one := gone.next doing
      exact one.trans (ih one.gone)

end IsOver

/-- What a handle that was not given up answers when its connection takes nothing any more. -/
structure TurnsAway (simulation : Simulation) : Prop where
  write : ∀ ticket packet, simulation.act (.write ticket packet) = (.flag false, simulation)
  send : ∀ packet, simulation.act (.send packet) = (.flag false, simulation)
  request : ∀ ticket packet, simulation.act (.request ticket packet) =
    (.nothing, simulation.see (.result simulation.now ticket (.refused .shuttingDown)))
  reconnect : simulation.act .reconnect = (.nothing, simulation)
  disablePing : simulation.act .disablePing = (.nothing, simulation)
  gentleShutdown : simulation.act .gentleShutdown = (.flag true, simulation)

theorem IsOver.turnsAway {simulation : Simulation} (gone : simulation.IsOver)
    (handled : simulation.handled = true) : simulation.TurnsAway := by
  have through (act : Simulation → Answer × Simulation) {answer : Answer × Simulation}
      (answers : act simulation = answer) : simulation.throughHandle act = answer :=
    (if_pos handled).trans answers
  have posts {connection : Connection} (same : connection = simulation.connection) :
      (Answer.nothing, simulation.withConnection connection) = (.nothing, simulation) :=
    congrArg (fun connection => (Answer.nothing, simulation.withConnection connection)) same
  constructor
  case write =>
    intro ticket packet
    exact through (·.submit packet (some ticket)) (gone.submit packet (some ticket))
  case send => exact fun packet => through (·.submit packet none) (gone.submit packet none)
  case request =>
    intro ticket packet
    refine through (fun simulation => (.nothing, simulation.request ticket packet)) ?_
    exact congrArg (Prod.mk Answer.nothing) (gone.request ticket packet)
  case reconnect =>
    exact through (fun simulation =>
      (.nothing, simulation.withConnection simulation.connection.reconnect))
      (posts gone.closed.reconnect)
  case disablePing =>
    exact through (fun simulation =>
      (.nothing, simulation.withConnection simulation.connection.disablePing))
      (posts gone.closed.disablePing)
  case gentleShutdown =>
    refine through (fun simulation => (.flag simulation.connection.gentleShutdown.1,
      simulation.withConnection simulation.connection.gentleShutdown.2)) ?_
    rw [gone.closed.gentleShutdown]
    rfl

/-- A simulation whose engine has taken a shutdown is over. -/
theorem isOver_serve {simulation : Simulation} (sound : simulation.connection.IsSound)
    (wired : simulation.scene.IsWired) (tidy : simulation.scene.IsTidy) {rest : List Command}
    (asked : simulation.connection.mailbox = .shutdown :: rest)
    (running : simulation.connection.engine.life = .running)
    (closed : (simulation.connection.serve simulation.now).1.IsClosed) :
    (simulation.serve .shutdown).IsOver := by
  let last := simulation.serve .shutdown
  have same : last.connection = (simulation.connection.serve simulation.now).1 :=
    connection_accept _ _
  have isClosed : last.connection.IsClosed := same ▸ closed
  have follows := serve_follows sound .shutdown asked
  refine ⟨isClosed, ?_, fun number socket there isOpen => ?_⟩
  · obtain ⟨-, more, -, effects, farewell⟩ :=
      simulation.connection.takeOver_cases rest simulation.connection.engine.shutDown
    have scene := scene_accept (simulation.hear (.command .shutdown))
      (simulation.connection.serve simulation.now)
    have left : last.attempt = (Scene.performAll simulation.now
        (simulation.connection.serve simulation.now).2
        (simulation.hear (.command .shutdown)).scene).attempt := congrArg Scene.attempt scene
    rw [left, Connection.serve_shutdown running asked, effects]
    refine Scene.attempt_performAll (fun effect member generation => ?_) ?_
    · rcases List.mem_append.mp member with ending | added
      · exact Engine.forall_shutDown (· ≠ .dialed generation) _ (fun _ => nofun) nofun
          (fun _ => nofun) (fun _ => nofun) effect ending
      · rintro rfl
        cases Client.Life.isIdle_of_isFarewell (farewell _ added)
    · change simulation.attempt = none ∨ _
      cases here : simulation.attempt with
      | none => exact .inl rfl
      | some attempt =>
          -- the engine knows of every attempt of its own, and gives it up
          have attempting : simulation.connection.engine.attempting = true :=
            ((wired.live running).dialed attempt here).2
          have givesUp : Effect.hungUp ∈ simulation.connection.engine.shutDown.2 := by
            refine List.mem_append_left _ (List.mem_append_left _ (List.mem_append_right _ ?_))
            change Effect.hungUp ∈ if simulation.connection.engine.attempting then [.hungUp] else []
            rw [attempting]
            exact List.mem_singleton_self _
          exact .inr (List.mem_append_left _ givesUp)
  · refine (tidy.beats wired follows.beats number socket there isOpen).resolve_left ?_
    exact fun linked => nomatch linked.symm.trans isClosed.link

/-- Wherever a simulation has come to, and whatever is asked and done with it later: when a shutdown
is the next command, it is taken in the next step.  In that step everybody who waits is told that
there will be no response, be it for a request in the table or for one still in the mailbox, and
nothing is left of the connection.  It never changes again: the engine does nothing more, no socket
accepts a byte, no attempt starts and no ping is sent, nobody is told anything anew, and the handle
turns everybody away. -/
theorem shutdown_is_final (endpoint : Endpoint) (settings : Settings) (source : SyncSource)
    (plans : List Plan) (fallback : Plan) (schedule : List Doing) (rest : List Command)
    (asked : ((start endpoint settings source plans fallback).after schedule).connection.mailbox =
      .shutdown :: rest) :
    let simulation := (start endpoint settings source plans fallback).after schedule
    let last := simulation.serve .shutdown
    let waiting := Client.Pending.tickets simulation.connection.engine.pending.entries ++
      Connection.callers rest
    (∀ horizon, simulation.step? horizon = some last) ∧
      last.record.filterMap Sight.telling? = simulation.record.filterMap Sight.telling? ++
        waiting.map (fun ticket => ⟨ticket, .error, simulation.now⟩) ∧
      last.connection.IsClosed ∧
      ∀ later, (last.after later).connection = last.connection ∧
        (∃ more, (last.after later).seen = more ++ last.seen ∧
          ∀ sight ∈ more, sight.IsLate last.tasks) ∧
        ((last.after later).handled = true → (last.after later).TurnsAway) := by
  intro simulation last waiting
  let began := start endpoint settings source plans fallback
  have follows := after_follows (isSound_start endpoint settings source plans fallback) schedule
  have running : simulation.connection.engine.life = .running := by
    by_contra ceased
    exact nomatch asked.symm.trans (follows.sound.idle ceased)
  have wired : simulation.scene.IsWired :=
    (Scene.IsWired.start endpoint settings source plans fallback).beats follows.beats
  have unopened : began.scene.IsTidy := nofun
  have tidy : simulation.scene.IsTidy :=
    unopened.beats (.start endpoint settings source plans fallback) follows.beats
  obtain ⟨⟨moves, enacts⟩, -⟩ :=
    enacts_of_start endpoint settings source plans fallback schedule
  have ran : simulation.connection = (Connection.start endpoint settings).run moves :=
    enacts.connection
  have closed : (simulation.connection.serve simulation.now).1.IsClosed := by
    have accounts := Connection.Accounts.run endpoint settings moves
    have lifecycle := Client.Lifecycle.run endpoint settings moves
    dsimp only at accounts lifecycle
    rw [← ran] at accounts lifecycle
    have kept := lifecycle.kept fun collapsed => nomatch running.symm.trans collapsed
    exact Connection.isClosed_serve_shutdown accounts kept running asked
  have gone : last.IsOver := isOver_serve follows.sound wired tidy asked running closed
  have tellings (simulation : Simulation) : simulation.record.filterMap Sight.telling? =
      simulation.spoken.filterMap Sight.telling? := by
    refine (filterMap_spoken simulation.record fun sight silent => ?_).symm
    cases sight with
    | engine _ _ => cases silent
    | _ => rfl
  have said : last.spoken = simulation.spoken ++ .heard simulation.now (.command .shutdown) ::
      (simulation.connection.serve simulation.now).2.map (.engine simulation.now) :=
    spoken_accept_hear simulation (.command .shutdown) _
  have told : Client.tellingsOf simulation.now
      (simulation.connection.serve simulation.now).2 = _ :=
    Connection.tellingsOf_serve_shutdown running asked
  refine ⟨fun horizon => ?_, ?_, gone.closed, fun later => ?_⟩
  · unfold step?
    rw [asked]
  · rw [tellings last, tellings simulation, said, List.filterMap_append]
    change _ ++ List.filterMap Sight.telling? (List.map _ _) = _
    rw [List.filterMap_map]
    exact congrArg _ told
  · have trails := gone.after later
    exact ⟨trails.connection, trails.seen, trails.gone.turnsAway⟩

/-- A shutdown while an attempt is under way: both callers are told, and the attempt, which the peer
would accept, comes to nothing. -/
theorem shutdown_is_final_while_connecting :
    let schedule : List Doing := [.operate (.request 0 (Field.pack 1 7 0 [])), .step 0, .step 0,
      .operate (.write 1 (Field.pack 1 8 0 [])), .operate .shutdown, .operate .reconnect, .step 0]
    let simulation := (start ⟨.dotted [127, 0, 0, 1], 3301⟩ .standard .fresh []
      ⟨.accept, 5, false, none, ⟨[], []⟩⟩).after schedule
    let last := simulation.serve .shutdown
    simulation.attempt.isSome = true ∧ simulation.connection.mailbox = .shutdown :: [.reconnect] ∧
      last.record.filterMap Sight.telling? = [⟨0, .error, 0⟩, ⟨1, .error, 0⟩] ∧
      last.connection.IsClosed ∧ (last.after [.operate (.elapse 10)]).TurnsAway := by
  intro schedule simulation last
  have handled : (last.after [.operate (.elapse 10)]).handled = true := by decide +kernel
  have final := shutdown_is_final ⟨.dotted [127, 0, 0, 1], 3301⟩ .standard .fresh []
    ⟨.accept, 5, false, none, ⟨[], []⟩⟩ schedule [.reconnect] (by decide +kernel)
  exact ⟨by decide +kernel, by decide +kernel, by decide +kernel, final.2.2.1,
    (final.2.2.2 [.operate (.elapse 10)]).2.2 handled⟩

end Simulation

end RequestMux.Network
