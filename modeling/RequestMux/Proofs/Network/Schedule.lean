import RequestMux.Proofs.Network.Beats
import RequestMux.Proofs.Network.Voice

/-!
# Schedules

Every step of a simulation and every operation on it is a sequence of beats, so that
what beats keep holds after every schedule of steps and operations.
-/

namespace RequestMux.Network

open Client (Command Connection Effect Report Stimulus Time)

namespace Simulation

/-- Whatever a simulation makes the connection hear takes beats. -/
theorem beats_stimulate {simulation : Simulation} (sound : simulation.connection.IsSound)
    {stimulus : Stimulus} {inbox rest : List (Nat × Report)} (takes : Takes stimulus inbox rest) :
    Beats (simulation.scene.withInbox inbox) ((simulation.stimulate stimulus).scene.withInbox rest) := by
  unfold stimulate Connection.react
  split
  · next running => exact beats_hearing (sound.awake running) takes simulation.connection.mailbox
  · next ceased =>
      have missed : (simulation.hear stimulus).scene.withInbox rest =
          (simulation.scene.withInbox rest).note [.heard simulation.now stimulus] :=
        congrArg (Scene.withInbox rest) (scene_see simulation _)
      rw [scene_accept]
      change Beats _ ((simulation.hear stimulus).scene.withInbox rest)
      rw [missed]
      exact .single (.miss ceased takes)

theorem sound_stimulate {simulation : Simulation} (sound : simulation.connection.IsSound)
    (stimulus : Stimulus) : (simulation.stimulate stimulus).connection.IsSound := by
  unfold stimulate
  rw [connection_accept]
  exact sound.react simulation.now stimulus

theorem inbox_of_hear (simulation : Simulation) (stimulus : Stimulus)
    (reaction : Connection × List Effect) :
    ((simulation.hear stimulus).accept reaction).scene.inbox = simulation.scene.inbox := by
  rw [scene_accept]
  exact Scene.performAll_inbox _ _ _

theorem withInbox_of_hear (simulation : Simulation) (stimulus : Stimulus)
    (reaction : Connection × List Effect) :
    ((simulation.hear stimulus).accept reaction).scene.withInbox simulation.scene.inbox =
      ((simulation.hear stimulus).accept reaction).scene := by
  rw [← inbox_of_hear simulation stimulus reaction]
  rfl

/-- A simulation whose connection is sound and whose sockets are numbered. -/
structure IsSound (simulation : Simulation) : Prop where
  connection : simulation.connection.IsSound
  numbered : simulation.scene.IsNumbered

/-- One simulation comes from another in beats, and is as sound. -/
structure Follows (before after : Simulation) : Prop where
  beats : Beats before.scene after.scene
  sound : after.connection.IsSound

namespace Follows

theorem refl {simulation : Simulation} (sound : simulation.connection.IsSound) :
    simulation.Follows simulation :=
  ⟨.refl, sound⟩

theorem trans {first second third : Simulation} (one : first.Follows second)
    (other : second.Follows third) : first.Follows third :=
  ⟨one.beats.trans other.beats, other.sound⟩

/-- What leaves the scene and the connection alone follows. -/
theorem of_same {before after : Simulation} (sound : before.connection.IsSound)
    (scene : after.scene = before.scene) (connection : after.connection = before.connection) :
    before.Follows after :=
  ⟨scene ▸ .refl, connection ▸ sound⟩

theorem isSound {before after : Simulation} (follows : before.Follows after)
    (sound : before.IsSound) : after.IsSound :=
  ⟨follows.sound, follows.beats.isNumbered sound.numbered⟩

end Follows

variable {simulation : Simulation}

theorem serve_follows (sound : simulation.connection.IsSound) (command : Command)
    {rest : List Command} (waiting : simulation.connection.mailbox = command :: rest) :
    simulation.Follows (simulation.serve command) := by
  have running : simulation.connection.engine.life = .running := by
    by_contra ceased
    rw [sound.idle ceased] at waiting
    cases waiting
  have takes : Takes (.command command) simulation.scene.inbox simulation.scene.inbox := rfl
  have served : simulation.connection.serve simulation.now =
      simulation.connection.takeOver rest
        (simulation.connection.engine.step simulation.now (.command command)) := by
    unfold Connection.serve
    rw [waiting]
  refine ⟨?_, ?_⟩
  · have heard := beats_hearing (sound.awake running) takes rest
    rw [← served, withInbox_of_hear] at heard
    exact heard
  · unfold serve
    rw [connection_accept]
    exact sound.serve simulation.now

theorem stimulate_follows (sound : simulation.connection.IsSound) {stimulus : Stimulus}
    (takes : Takes stimulus simulation.scene.inbox simulation.scene.inbox) :
    simulation.Follows (simulation.stimulate stimulus) := by
  refine ⟨?_, sound_stimulate sound stimulus⟩
  have heard := beats_stimulate sound takes
  unfold stimulate at heard ⊢
  rw [withInbox_of_hear] at heard
  exact heard

/-- The engine takes its reports one by one. -/
theorem takeReports_follows (sound : simulation.connection.IsSound) :
    simulation.Follows simulation.takeReports := by
  have each (reports : List (Nat × Report)) (simulation : Simulation)
      (sound : simulation.connection.IsSound) (empty : simulation.scene.inbox = []) :
      let after := reports.foldl
        (fun simulation entry => simulation.stimulate (.report entry.1 entry.2)) simulation
      Beats (simulation.scene.withInbox reports) after.scene ∧ after.connection.IsSound := by
    induction reports generalizing simulation with
    | nil =>
        have same : simulation.scene.withInbox [] = simulation.scene := by
          rw [← empty]
          rfl
        exact ⟨same ▸ .refl, sound⟩
    | cons entry rest ih =>
        obtain ⟨generation, report⟩ := entry
        have takes : Takes (.report generation report) ((generation, report) :: rest) rest := rfl
        have heard := beats_stimulate sound takes
        have still : (simulation.stimulate (.report generation report)).scene.inbox = [] :=
          (inbox_of_hear _ _ _).trans empty
        obtain ⟨beats, last⟩ := ih _ (sound_stimulate sound _) still
        exact ⟨heard.trans beats, last⟩
  obtain ⟨beats, last⟩ := each simulation.reports { simulation with reports := [] } sound rfl
  exact ⟨beats, last⟩

/-- A socket that closes at once was never open. -/
theorem modify_last (sockets : List Socket) (last : Socket) (change : Socket → Socket) :
    (sockets ++ [last]).modify sockets.length change = sockets ++ [change last] := by
  rw [List.modify_eq_take_drop, List.take_left', List.drop_left']
  · rfl
  · rfl
  · rfl

theorem acceptSocket_beats {attempt : Attempt} (here : simulation.attempt = some attempt)
    (plan : Plan) (reportAt : Time) :
    Beats simulation.scene (simulation.acceptSocket attempt.generation plan reportAt).scene := by
  let socket := Socket.fresh simulation.sockets.length attempt.generation
    simulation.settings.maxPayload plan.echo plan.script
  let accepted := { simulation with sockets := simulation.sockets ++ [socket] }.see
    (.accepted simulation.sockets.length simulation.settings.nodelay)
  have seen : accepted.scene =
      ({ simulation.scene with sockets := simulation.sockets ++ [socket] } : Scene).note
        [.accepted simulation.sockets.length simulation.settings.nodelay] := scene_see _ _
  have closed : (accepted.close simulation.sockets.length).scene =
      ({ simulation.scene with
          sockets := simulation.sockets ++ [{ socket with isOpen := false }] } : Scene).note
        [.accepted simulation.sockets.length simulation.settings.nodelay,
          .closed simulation.sockets.length] := by
    rw [scene_close, seen]
    simp only [Scene.obey, Scene.onSocket, Scene.note, modify_last, List.append_assoc]
    rfl
  have rejected (left : Option Attempt)
      (later : ∀ other ∈ left, other.generation = attempt.generation) :
      Beats simulation.scene
        ({ accepted.close simulation.sockets.length with attempt := left } : Simulation).scene := by
    have scene : ({ accepted.close simulation.sockets.length with attempt := left } :
        Simulation).scene = _ :=
      congrArg (fun scene : Scene => { scene with attempt := left }) closed
    rw [scene]
    exact .single (.reject here later simulation.settings.nodelay plan.echo plan.script)
  unfold acceptSocket
  dsimp only
  cases plan.setupFailure with
  | some failure =>
      refine rejected (some ⟨attempt.generation, .failing reportAt failure⟩) ?_
      rintro other ⟨⟩
      rfl
  | none =>
      dsimp only
      split
      · next running =>
          have runs : simulation.scene.engine.life = .running := beq_iff_eq.mp running
          have mailed : ({ accepted with attempt := none } : Simulation).scene = _ :=
            congrArg (fun scene : Scene => { scene with attempt := none }) seen
          rw [scene_report]
          change Beats _ (({ accepted with attempt := none } : Simulation).scene.mail _ _)
          rw [mailed]
          exact .single (.accept here runs simulation.settings.nodelay plan.echo plan.script)
      · exact rejected none nofun

theorem proceed_beats {attempt : Attempt} (here : simulation.attempt = some attempt) :
    Beats simulation.scene (simulation.proceed attempt).scene := by
  unfold proceed
  split
  · exact .refl
  · exact acceptSocket_beats here _ _
  · next failure stage =>
      rw [scene_report]
      exact .single (.fail here failure)

theorem dial_beats (simulation : Simulation) : Beats simulation.scene simulation.dial.scene := by
  unfold dial
  split
  · exact .refl
  · next attempt here =>
      let begun : Attempt := { attempt with
        stage := (simulation.plans.head?.getD simulation.fallback).begin simulation.now
          simulation.settings.connectTimeout.toNat }
      let dialed := { simulation with
        plans := simulation.plans.tail
        attempts := simulation.attempts + 1
        attempt := some begun }.see (.attempt simulation.now simulation.attempts)
      have noted : dialed.scene = { simulation.scene with attempt := some begun } :=
        (scene_see _ _).trans (Scene.note_nil _)
      have commenced : Beats simulation.scene dialed.scene := by
        rw [noted]
        exact .single (.commence here _)
      dsimp only
      split
      · split
        · exact commenced.trans (proceed_beats rfl)
        · exact commenced
      · exact commenced

theorem openSocket?_eq_some {number : Nat} {socket : Socket}
    (found : simulation.openSocket? number = some socket) :
    simulation.scene.sockets[number]? = some socket ∧ socket.isOpen = true :=
  Option.filter_eq_some_iff.mp found

theorem runReader_beats (simulation : Simulation) (number : Nat) :
    Beats simulation.scene (simulation.runReader number).scene := by
  unfold runReader
  split
  · exact .refl
  · next socket found =>
      obtain ⟨there, isOpen⟩ := openSocket?_eq_some found
      rw [scene_reports]
      exact .single (.read there isOpen)

theorem runWriter_beats (simulation : Simulation) (number : Nat) :
    Beats simulation.scene (simulation.runWriter number).scene := by
  unfold runWriter
  split
  · exact .refl
  · next socket found =>
      obtain ⟨there, isOpen⟩ := openSocket?_eq_some found
      let written := socket.write
      let moved := simulation.onSocket number fun _ => written.socket
      let sent := if written.sent.isEmpty then moved else moved.see (.sent number written.sent)
      let answered := if written.echo.isEmpty then sent
        else (sent.see (.arrived number written.echo)).wake (.reader number)
      have sentScene : sent.scene =
          moved.scene.note (if written.sent.isEmpty then [] else [.sent number written.sent]) := by
        unfold sent
        split
        · exact (Scene.note_nil _).symm
        · exact scene_see _ _
      have seen : answered.scene = moved.scene.note (written.sights number) := by
        unfold answered Socket.Written.sights
        rw [← Scene.note_note, ← sentScene]
        split
        · exact (Scene.note_nil _).symm
        · exact (scene_wake _ _).trans (scene_see _ _)
      have beat : Beat simulation.scene (answered.scene.mail socket.generation
          socket.write.report.toList) := by
        rw [seen]
        exact .write there isOpen
      change Beats _ (Simulation.scene (socket.write.report.elim answered fun report =>
        answered.report socket.generation report))
      cases report : socket.write.report with
      | none =>
          rw [report, Option.toList_none, Scene.mail_nil] at beat
          exact .single beat
      | some report =>
          rw [report] at beat
          rw [Option.elim_some, scene_report]
          exact .single beat

/-- Every task runs in beats. -/
theorem runTask_follows (sound : simulation.connection.IsSound) (task : Task) :
    simulation.Follows (simulation.runTask task) := by
  cases task with
  | engine => exact takeReports_follows sound
  | dial => exact ⟨dial_beats simulation, connection_of_voice (voice_dial simulation) ▸ sound⟩
  | reader number =>
      exact ⟨runReader_beats simulation number,
        connection_of_voice (voice_runReader simulation number) ▸ sound⟩
  | writer number =>
      exact ⟨runWriter_beats simulation number,
        connection_of_voice (voice_runWriter simulation number) ▸ sound⟩
  | awaiter ticket outcome =>
      exact .of_same sound ((scene_see _ _).trans (Scene.note_nil _)) rfl

theorem fireTimer_follows (sound : simulation.connection.IsSound) :
    simulation.Follows simulation.fireTimer := by
  have pinged : simulation.Follows simulation.firePing := by
    let allocated := simulation.allocate.2
    have same : simulation.Follows allocated := .of_same sound rfl rfl
    exact same.trans (stimulate_follows same.sound rfl)
  unfold fireTimer
  split
  · exact stimulate_follows sound rfl
  · split
    · next attempt here =>
        split
        · exact ⟨proceed_beats here, connection_of_voice (voice_proceed simulation attempt) ▸ sound⟩
        · exact pinged
    · exact pinged

theorem step?_follows (sound : simulation.connection.IsSound) {horizon : Time}
    {next : Simulation} (stepped : simulation.step? horizon = some next) :
    simulation.Follows next := by
  unfold step? at stepped
  split at stepped
  · next command rest waiting =>
      cases stepped
      exact serve_follows sound command waiting
  · next task rest _ _ =>
      cases stepped
      have taken : simulation.Follows { simulation with tasks := rest } := .of_same sound rfl rfl
      exact taken.trans (runTask_follows taken.sound task)
  · split at stepped
    · cases stepped
    · next time _ =>
        split at stepped
        · cases stepped
          have later : simulation.Follows { simulation with now := max simulation.now time } :=
            .of_same sound rfl rfl
          exact later.trans (fireTimer_follows later.sound)
        · cases stepped

theorem run_follows (sound : simulation.connection.IsSound) (horizon : Time) (fuel : Nat) :
    simulation.Follows (simulation.run horizon fuel) := by
  induction fuel generalizing simulation with
  | zero => exact .refl sound
  | succ fuel ih =>
      unfold run
      split
      · exact .refl sound
      · next next stepped =>
          have one := step?_follows sound stepped
          exact one.trans (ih one.sound)

theorem elapse_follows (sound : simulation.connection.IsSound) (span : Time) :
    simulation.Follows (simulation.elapse span) := by
  have ran := run_follows sound (simulation.now + span) stepLimit
  unfold elapse
  dsimp only
  split
  · exact ran.trans (.of_same ran.sound rfl rfl)
  · exact ran

/-- The handle changes no more of the engine than the board. -/
theorem withConnection_follows {connection : Connection} (sound : connection.IsSound)
    (shown : ∃ board, connection.engine = { simulation.connection.engine with board }) :
    simulation.Follows (simulation.withConnection connection) := by
  obtain ⟨board, engine⟩ := shown
  have beat : Beat simulation.scene _ := .show_ simulation.scene board
  refine ⟨.single ?_, sound⟩
  have same : (simulation.withConnection connection).scene =
      simulation.scene.withEngine { simulation.scene.engine with board } :=
    congrArg (Scene.mk · _ _ _ _) engine
  rw [same]
  exact beat

theorem submit_shown (connection : Connection) (packet : Wire.Packet) (ticket : Option Nat) :
    ∃ board, (connection.submit packet ticket).2.engine = { connection.engine with board } := by
  rcases connection.submit_cases packet ticket with rejected | ⟨-, taken⟩
  · rw [rejected]
    exact ⟨_, rfl⟩
  · rw [taken]
    exact ⟨_, rfl⟩

theorem shutdown_shown (connection : Connection) :
    ∃ board, connection.shutdown.engine = { connection.engine with board } := by
  rw [Connection.shutdown, Connection.post_engine]
  exact ⟨_, rfl⟩

theorem gentleShutdown_shown (connection : Connection) :
    ∃ board, connection.gentleShutdown.2.engine = { connection.engine with board } := by
  unfold Connection.gentleShutdown
  split
  · exact ⟨_, rfl⟩
  · split
    · exact ⟨_, rfl⟩
    · exact shutdown_shown connection

theorem post_shown (connection : Connection) (command : Command) :
    ∃ board, (connection.post command).engine = { connection.engine with board } := by
  rw [Connection.post_engine]
  exact ⟨_, rfl⟩

theorem throughHandle_follows (sound : simulation.connection.IsSound)
    {act : Simulation → Answer × Simulation} (acts : simulation.Follows (act simulation).2) :
    simulation.Follows (simulation.throughHandle act).2 := by
  unfold throughHandle
  split
  · exact acts
  · exact .refl sound

theorem request_follows (sound : simulation.connection.IsSound) (ticket : Nat)
    (packet : Wire.Packet) : simulation.Follows (simulation.request ticket packet) := by
  unfold request
  dsimp only
  split
  · have submitted : simulation.Follows (simulation.withConnection
        (simulation.connection.submit packet (some ticket)).2) :=
      withConnection_follows (sound.make simulation.now (.submit packet (some ticket)))
        (submit_shown _ _ _)
    exact submitted.trans (.of_same submitted.sound rfl rfl)
  · exact .of_same sound ((scene_see _ _).trans (Scene.note_nil _)) rfl

theorem byPeer_follows (sound : simulation.IsSound) (socket : Option Nat) {sight : Nat → Sight}
    {change : Socket → Socket}
    (beat : ∀ number found, simulation.scene.sockets[number]? = some found → found.isOpen = true →
      Beat simulation.scene ((simulation.scene.onSocket number change).note [sight number]))
    (recorded : ∀ number, (sight number).isRecorded = true) :
    simulation.Follows (simulation.byPeer socket sight change).2 := by
  unfold byPeer
  split
  · exact .refl sound.connection
  · next found there =>
      split
      · next isOpen =>
          obtain ⟨number, -, here⟩ := Option.bind_eq_some_iff.mp there
          have same : found.number = number := sound.numbered number found here
          have seen : ((simulation.onSocket found.number change).see (sight found.number)).scene =
              (simulation.scene.onSocket number change).note [sight number] := by
            rw [scene_see, same, List.filter_cons_of_pos (recorded number)]
            rfl
          refine ⟨?_, ?_⟩
          · rw [scene_wake, seen]
            exact .single (beat number found here isOpen)
          · rw [connection_of_voice (voice_wake _ _)]
            exact sound.connection
      · exact .refl sound.connection

/-- Every operation takes beats. -/
theorem act_follows (sound : simulation.IsSound) (operation : Operation) :
    simulation.Follows (simulation.act operation).2 := by
  have connected := sound.connection
  have submits (packet : Wire.Packet) (ticket : Option Nat) :
      simulation.Follows (simulation.submit packet ticket).2 :=
    withConnection_follows (connected.make simulation.now (.submit packet ticket))
      (submit_shown _ _ _)
  have shuts : simulation.Follows (simulation.withConnection simulation.connection.shutdown) :=
    withConnection_follows connected.shutdown (shutdown_shown _)
  cases operation with
  | write ticket packet => exact throughHandle_follows connected (submits packet (some ticket))
  | send packet => exact throughHandle_follows connected (submits packet none)
  | request ticket packet =>
      exact throughHandle_follows connected (request_follows connected ticket packet)
  | shutdown => exact throughHandle_follows connected shuts
  | gentleShutdown =>
      refine throughHandle_follows connected ?_
      exact withConnection_follows (connected.make simulation.now .gentleShutdown)
        (gentleShutdown_shown _)
  | reconnect =>
      exact throughHandle_follows connected
        (withConnection_follows (connected.post .reconnect) (post_shown _ _))
  | disablePing =>
      exact throughHandle_follows connected
        (withConnection_follows (connected.post .disablePing) (post_shown _ _))
  | drop => exact throughHandle_follows connected (shuts.trans (.of_same shuts.sound rfl rfl))
  | describe => exact throughHandle_follows connected (.refl connected)
  | elapse span => exact elapse_follows connected span
  | peerSend socket pieces =>
      exact byPeer_follows sound socket (fun _ _ there isOpen => .arrive there isOpen pieces)
        fun _ => rfl
  | peerClose socket =>
      exact byPeer_follows sound socket (fun _ _ there isOpen => .finish there isOpen) fun _ => rfl
  | unblock socket =>
      change simulation.Follows (simulation.release socket).2
      unfold release
      split
      · exact .refl connected
      · split
        · refine ⟨?_, ?_⟩
          · rw [scene_wake]
            exact .single (.release _ _)
          · rw [connection_of_voice (voice_wake _ _)]
            exact connected
        · exact .refl connected
  | prepare socket script =>
      change simulation.Follows (simulation.prepare socket script).2
      unfold prepare
      split
      · exact .refl connected
      · exact ⟨.single (.prepare _ _ _), connected⟩
  | plan plans => exact .of_same connected rfl rfl
  | nothing => exact .refl connected

end Simulation

/-- What can be done with a simulation: an operation, or one step within a horizon. -/
inductive Doing where
  | operate (operation : Operation)
  | step (horizon : Time)
  deriving DecidableEq, Repr

namespace Simulation

def next (simulation : Simulation) : Doing → Simulation
  | .operate operation => (simulation.act operation).2
  | .step horizon => (simulation.step? horizon).getD simulation

/-- The simulation after a schedule of operations and steps, in any order. -/
def after (simulation : Simulation) (schedule : List Doing) : Simulation :=
  schedule.foldl next simulation

theorem next_follows {simulation : Simulation} (sound : simulation.IsSound) (doing : Doing) :
    simulation.Follows (simulation.next doing) := by
  cases doing with
  | operate operation => exact act_follows sound operation
  | step horizon =>
      unfold next
      dsimp only
      cases stepped : simulation.step? horizon with
      | none => exact .refl sound.connection
      | some after => exact step?_follows sound.connection stepped

theorem after_follows {simulation : Simulation} (sound : simulation.IsSound)
    (schedule : List Doing) : simulation.Follows (simulation.after schedule) := by
  induction schedule generalizing simulation with
  | nil => exact .refl sound.connection
  | cons doing rest ih =>
      have one := next_follows sound doing
      exact one.trans (ih (one.isSound sound))

theorem isSound_start (endpoint : Endpoint) (settings : Settings) (source : SyncSource)
    (plans : List Plan) (fallback : Plan) :
    (start endpoint settings source plans fallback).IsSound :=
  ⟨.start endpoint settings, nofun⟩

/-- What holds at the start and is kept by beats holds after every schedule. -/
theorem after_holds {motive : Scene → Prop} (endpoint : Endpoint) (settings : Settings)
    (source : SyncSource) (plans : List Plan) (fallback : Plan)
    (began : motive (start endpoint settings source plans fallback).scene)
    (kept : ∀ {scene next}, Beat scene next → motive scene → motive next)
    (schedule : List Doing) :
    motive ((start endpoint settings source plans fallback).after schedule).scene := by
  have beats := (after_follows (isSound_start endpoint settings source plans fallback) schedule).beats
  generalize ((start endpoint settings source plans fallback).after schedule).scene = last at beats ⊢
  induction beats with
  | refl => exact began
  | tail _ beat ih => exact kept beat ih

/-- What operations do, with nothing running in between. -/
def acts (simulation : Simulation) (operations : List Operation) : Simulation :=
  operations.foldl (fun simulation operation => (simulation.act operation).2) simulation

/-- What operations answer. -/
def answers (simulation : Simulation) : List Operation → List Answer
  | [] => []
  | operation :: later =>
    (simulation.act operation).1 :: (simulation.act operation).2.answers later

theorem batch_eq (simulation : Simulation) (operations : List Operation) :
    simulation.batch operations =
      (simulation.answers operations, (simulation.acts operations).settle) := by
  have folded (given : List Answer) (simulation : Simulation) :
      operations.foldl (fun (state : List Answer × Simulation) operation =>
          ((state.2.act operation).1 :: state.1, (state.2.act operation).2)) (given, simulation) =
        ((simulation.answers operations).reverse ++ given, simulation.acts operations) := by
    induction operations generalizing given simulation with
    | nil => rfl
    | cons operation later ih =>
        rw [List.foldl_cons, ih, answers, List.reverse_cons, List.append_assoc]
        rfl
  unfold batch
  dsimp only
  rw [folded, List.append_nil, List.reverse_reverse]

theorem acts_eq_after (simulation : Simulation) (operations : List Operation) :
    simulation.acts operations = simulation.after (operations.map .operate) := by
  rw [after, List.foldl_map]
  rfl

/-- Steps up to a limit are a schedule. -/
theorem run_eq_after (horizon : Time) (fuel : Nat) (simulation : Simulation) :
    ∃ schedule, simulation.run horizon fuel = simulation.after schedule := by
  induction fuel generalizing simulation with
  | zero => exact ⟨[], rfl⟩
  | succ fuel ih =>
      cases stepped : simulation.step? horizon with
      | none => exact ⟨[], by rw [run, stepped]; rfl⟩
      | some next =>
          obtain ⟨schedule, ran⟩ := ih next
          refine ⟨.step horizon :: schedule, ?_⟩
          have first : simulation.next (.step horizon) = next :=
            congrArg (fun stepped : Option Simulation => stepped.getD simulation) stepped
          rw [run, stepped, after, List.foldl_cons, first]
          exact ran

/-- A batch of operations, and all that can run afterwards, are a schedule. -/
theorem batch_eq_after (simulation : Simulation) (operations : List Operation) :
    ∃ schedule, (simulation.batch operations).2 = simulation.after schedule := by
  obtain ⟨schedule, ran⟩ :=
    run_eq_after (simulation.acts operations).now stepLimit (simulation.acts operations)
  refine ⟨operations.map .operate ++ schedule, ?_⟩
  rw [batch_eq]
  dsimp only
  rw [settle, ran, acts_eq_after, after, after, after, List.foldl_append]

end Simulation

end RequestMux.Network
