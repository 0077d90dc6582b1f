import RequestMux.Proofs.Client.Generations
import RequestMux.Proofs.Network.Standing

/-!
# The generations of attempts and sockets

Whatever an attempt or a socket reports carries the generation in which the attempt was started.
So the engine knows the reports of what it has left, and takes no notice of them.
-/

namespace RequestMux.Network

open Client (Connection Effect Engine IsSuccession Report Stimulus Time Turn)

/-- Where a list that was extended is cut, the cut is in the list or behind it. -/
theorem append_cut {Item : Type} {items more past later : List Item} {item : Item}
    (cut : items ++ more = past ++ item :: later) :
    (∃ rest, items = past ++ item :: rest) ∨
      ∃ front, past = items ++ front ∧ more = front ++ item :: later := by
  rcases List.append_eq_append_iff.mp cut with ⟨front, before, behind⟩ | ⟨rest, before, behind⟩
  · exact .inr ⟨front, before, behind⟩
  · cases rest with
    | nil => exact .inr ⟨[], by simpa using before.symm, by simpa using behind.symm⟩
    | cons first rest =>
        obtain ⟨rfl, -⟩ := List.cons.inj behind
        exact .inl ⟨rest, before⟩

/-- Whether there is an attempt, or a socket of this generation, that sends a report. -/
def Sends (sockets : List Socket) (generation : Nat) (report : Report) : Prop :=
  (∃ failure, report = .connectFailed failure) ∨
    ∃ number socket, sockets[number]? = some socket ∧ socket.generation = generation ∧
      ∀ other, report = .connected other → other = number

namespace Sends

variable {sockets : List Socket} {generation number : Nat} {report : Report}

theorem push (sends : Sends sockets generation report) (socket : Socket) :
    Sends (sockets ++ [socket]) generation report := by
  refine sends.imp_right fun ⟨number, sender, there, same, named⟩ => ?_
  have bound := (List.getElem?_eq_some_iff.mp there).1
  exact ⟨number, sender, (List.getElem?_append_left bound).trans there, same, named⟩

theorem modify {change : Socket → Socket} (sends : Sends sockets generation report)
    (same : ∀ socket ∈ sockets[number]?, (change socket).generation = socket.generation) :
    Sends (sockets.modify number change) generation report := by
  refine sends.imp_right fun ⟨place, sender, there, current, named⟩ => ?_
  have altered : Socket.Alters (some number) sockets (sockets.modify number change) :=
    .modify _ _ _ same fun unserved => absurd rfl unserved
  obtain ⟨after, here, alike⟩ := altered.forward there
  exact ⟨place, after, here, alike.trans current, named⟩

end Sends

/-- Whether all attempts, sockets and reports carry a generation in which an attempt was started
before. -/
structure Scene.IsStamped (scene : Scene) : Prop where
  attempt : ∀ attempt ∈ scene.attempt, .dialed attempt.generation ∈ effectsIn scene.record
  socket : ∀ (number : Nat) (socket : Socket), scene.sockets[number]? = some socket →
    .dialed socket.generation ∈ effectsIn scene.record
  mailed : ∀ entry ∈ scene.inbox, .dialed entry.1 ∈ effectsIn scene.record ∧
    Sends scene.sockets entry.1 entry.2
  heard : ∀ past time generation report later,
    scene.record = past ++ .heard time (.report generation report) :: later →
      .dialed generation ∈ effectsIn past ∧ Sends scene.sockets generation report

namespace Scene.IsStamped

variable {scene : Scene} {now : Time}

/-- What the engine is told is noted behind the attempt from which it comes. -/
theorem note (stamped : scene.IsStamped) {sights : List Sight}
    (known : ∀ time generation report, .heard time (.report generation report) ∈ sights →
      .dialed generation ∈ effectsIn scene.record ∧ Sends scene.sockets generation report) :
    (scene.note sights).IsStamped := by
  have grown {effect : Effect} (member : effect ∈ effectsIn scene.record) :
      effect ∈ effectsIn (scene.note sights).record := by
    change effect ∈ effectsIn (scene.record ++ sights)
    rw [effectsIn_append]
    exact List.mem_append_left _ member
  refine ⟨fun attempt here => grown (stamped.attempt attempt here),
    fun number socket there => grown (stamped.socket number socket there),
    fun entry member => (stamped.mailed entry member).imp_left grown,
    fun past time generation report later cut => ?_⟩
  rcases append_cut cut with ⟨rest, before⟩ | ⟨front, rfl, rfl⟩
  · exact stamped.heard past time generation report rest before
  · obtain ⟨dialed, sends⟩ := known time generation report
      (List.mem_append_right _ List.mem_cons_self)
    rw [effectsIn_append]
    exact ⟨List.mem_append_left _ dialed, sends⟩

theorem onSocket (stamped : scene.IsStamped) (number : Nat) (change : Socket → Socket)
    (same : ∀ socket ∈ scene.sockets[number]?, (change socket).generation = socket.generation) :
    (scene.onSocket number change).IsStamped where
  attempt := stamped.attempt
  socket place socket there := by
    obtain ⟨prior, here, ⟨rfl, rfl⟩ | ⟨-, rfl⟩⟩ := of_modify there
    · exact same prior here ▸ stamped.socket place prior here
    · exact stamped.socket place socket here
  mailed entry member := (stamped.mailed entry member).imp_right fun sends => sends.modify same
  heard past time generation report later cut :=
    (stamped.heard past time generation report later cut).imp_right fun sends => sends.modify same

/-- A socket comes from an attempt of its generation. -/
theorem push (stamped : scene.IsStamped) {socket : Socket} (left : Option Attempt)
    (dialed : .dialed socket.generation ∈ effectsIn scene.record)
    (later : ∀ attempt ∈ left, attempt.generation = socket.generation) :
    ({ scene with attempt := left, sockets := scene.sockets ++ [socket] } : Scene).IsStamped where
  attempt attempt here := later attempt here ▸ dialed
  socket place other there := by
    rcases of_push there with old | ⟨-, rfl⟩
    · exact stamped.socket place other old
    · exact dialed
  mailed entry member := (stamped.mailed entry member).imp_right fun sends => sends.push socket
  heard past time generation report later cut :=
    (stamped.heard past time generation report later cut).imp_right fun sends => sends.push socket

theorem withAttempt (stamped : scene.IsStamped) (left : Option Attempt)
    (dialed : ∀ attempt ∈ left, .dialed attempt.generation ∈ effectsIn scene.record) :
    ({ scene with attempt := left } : Scene).IsStamped :=
  ⟨dialed, stamped.socket, stamped.mailed, stamped.heard⟩

theorem withInbox (stamped : scene.IsStamped) {rest : List (Nat × Report)}
    (fewer : rest ⊆ scene.inbox) : (scene.withInbox rest).IsStamped :=
  ⟨stamped.attempt, stamped.socket, fun entry member => stamped.mailed entry (fewer member),
    stamped.heard⟩

theorem withEngine (stamped : scene.IsStamped) (engine : Engine) :
    (scene.withEngine engine).IsStamped :=
  ⟨stamped.attempt, stamped.socket, stamped.mailed, stamped.heard⟩

theorem mail (stamped : scene.IsStamped) {generation : Nat} {reports : List Report}
    (dialed : .dialed generation ∈ effectsIn scene.record)
    (sends : ∀ report ∈ reports, Sends scene.sockets generation report) :
    (scene.mail generation reports).IsStamped := by
  unfold Scene.mail
  split
  · refine ⟨stamped.attempt, stamped.socket, fun entry member => ?_, stamped.heard⟩
    rcases List.mem_append.mp member with old | new
    · exact stamped.mailed entry old
    · obtain ⟨report, sent, rfl⟩ := List.mem_map.mp new
      exact ⟨dialed, sends report sent⟩
  · exact stamped

theorem perform (stamped : scene.IsStamped) (effect : Effect) :
    (scene.perform now effect).IsStamped := by
  have noted : (scene.note [.engine now effect]).IsStamped :=
    stamped.note fun time generation report member => nomatch List.mem_singleton.mp member
  cases effect with
  | handed number write => exact noted.onSocket number _ fun _ _ => rfl
  | dialed generation =>
      refine noted.withAttempt _ ?_
      rintro attempt ⟨⟩
      change _ ∈ effectsIn (scene.record ++ [.engine now (.dialed generation)])
      rw [effectsIn_append]
      exact List.mem_append_right _ List.mem_cons_self
  | hungUp => exact noted.withAttempt none nofun
  | closed number =>
      refine (noted.onSocket number (fun socket => { socket with isOpen := false })
        fun _ _ => rfl).note fun time generation report member => ?_
      cases List.mem_singleton.mp member
  | _ => exact noted

theorem performAll (stamped : scene.IsStamped) (effects : List Effect) :
    (scene.performAll now effects).IsStamped := by
  induction effects generalizing scene with
  | nil => exact stamped
  | cons effect rest ih => exact ih (stamped.perform effect)

/-- What the engine takes from the inbox was sent. -/
theorem hears (stamped : scene.IsStamped) {stimulus : Stimulus} {rest : List (Nat × Report)}
    (takes : Takes stimulus scene.inbox rest) :
    ((scene.withInbox rest).note [.heard now stimulus]).IsStamped := by
  have fewer : rest ⊆ scene.inbox := by
    cases stimulus with
    | report generation report =>
        rw [show scene.inbox = (generation, report) :: rest from takes]
        exact List.subset_cons_self _ _
    | _ =>
        rw [show scene.inbox = rest from takes]
        exact List.Subset.refl _
  refine (stamped.withInbox fewer).note fun time generation report member => ?_
  obtain ⟨rfl, rfl⟩ := Sight.heard.inj (List.mem_singleton.mp member)
  refine stamped.mailed (generation, report) ?_
  rw [show scene.inbox = (generation, report) :: rest from takes]
  exact List.mem_cons_self

/-- A socket whose task has run reports under its own generation. -/
theorem work (stamped : scene.IsStamped) {number : Nat} {socket : Socket}
    (there : scene.sockets[number]? = some socket) (changed : Socket)
    (same : changed.generation = socket.generation) (sights : List Sight)
    (silent : ∀ time stimulus, .heard time stimulus ∉ sights) {reports : List Report}
    (plain : ∀ report ∈ reports, ∀ number, report ≠ .connected number) :
    (((scene.onSocket number fun _ => changed).note sights).mail socket.generation
      reports).IsStamped := by
  have moved : (scene.onSocket number fun _ => changed).IsStamped := by
    refine stamped.onSocket number _ fun other member => ?_
    cases there.symm.trans member
    exact same
  have noted := moved.note fun time generation report member => absurd member (silent time _)
  have here : (scene.onSocket number fun _ => changed).sockets[number]? = some changed := by
    change (scene.sockets.modify number fun _ => changed)[number]? = _
    rw [List.getElem?_modify, there]
    simp
  refine noted.mail ?_ fun report member => .inr ⟨number, changed, here, same, ?_⟩
  · exact same ▸ noted.socket number changed here
  · exact fun other connected => absurd connected (plain report member other)

/-- Every beat keeps the stamps. -/
theorem beat (stamped : scene.IsStamped) {after : Scene} (beat : Beat scene after) :
    after.IsStamped := by
  have unheard {sights : List Sight} {scene : Scene} (stamped : scene.IsStamped)
      (silent : ∀ time stimulus, .heard time stimulus ∉ sights) : (scene.note sights).IsStamped :=
    stamped.note fun time generation report member => absurd member (silent time _)
  cases beat with
  | show_ board => exact stamped.withEngine _
  | hear awake takes onset => exact ((stamped.hears takes).performAll _).withEngine _
  | miss ceased takes => exact stamped.hears takes
  | tick awake tick => exact (stamped.performAll _).withEngine _
  | farewell said => exact stamped.performAll _
  | @commence attempt here stage =>
      refine stamped.withAttempt _ ?_
      rintro later ⟨⟩
      exact stamped.attempt attempt here
  | @fail attempt here failure =>
      refine (stamped.withAttempt none nofun).mail (stamped.attempt attempt here) fun report member => ?_
      exact .inl ⟨failure, List.mem_singleton.mp member⟩
  | @accept attempt here running nodelay echo script =>
      let socket := Socket.fresh scene.sockets.length attempt.generation
        scene.engine.settings.maxPayload echo script
      have dialed : .dialed socket.generation ∈ effectsIn scene.record :=
        stamped.attempt attempt here
      have noted : Scene.IsStamped (Scene.note [.accepted scene.sockets.length nodelay]
          { scene with attempt := none, sockets := scene.sockets ++ [socket] }) :=
        unheard (stamped.push none dialed nofun) fun time stimulus member =>
          nomatch List.mem_singleton.mp member
      have last : (scene.sockets ++ [socket])[scene.sockets.length]? = some socket := by simp
      refine noted.mail (noted.socket _ socket last) fun report member => ?_
      rw [List.mem_singleton.mp member]
      exact .inr ⟨_, socket, last, rfl, fun other same => (Report.connected.inj same).symm⟩
  | @reject attempt left here later nodelay echo script =>
      refine unheard (stamped.push left (stamped.attempt attempt here) later) ?_
      simp
  | @read number socket there isOpen =>
      have plain (report : Report) (member : report ∈ socket.read.2) (number : Nat) :
          report ≠ .connected number := by
        rcases Socket.mem_read member with ⟨_, rfl⟩ | ⟨_, rfl⟩ <;> exact nofun
      have worked := stamped.work there socket.read.1 rfl [] (fun _ _ => List.not_mem_nil) plain
      rw [note_nil] at worked
      exact worked
  | @write number socket there isOpen =>
      refine stamped.work there socket.write.socket socket.generation_write
        (socket.write.sights number) ?_ fun report member number => ?_
      · intro time stimulus
        unfold Socket.Written.sights
        split <;> split <;> simp
      · rcases Socket.mem_write (Option.mem_toList.mp member) with rfl | ⟨_, _, rfl⟩ <;> exact nofun
  | @arrive number socket there isOpen pieces =>
      refine unheard (stamped.onSocket number _ fun socket _ => socket.generation_arrive pieces) ?_
      exact fun time stimulus member => nomatch List.mem_singleton.mp member
  | finish there isOpen =>
      refine unheard (stamped.onSocket _ _ fun _ _ => rfl) ?_
      exact fun time stimulus member => nomatch List.mem_singleton.mp member
  | release number => exact stamped.onSocket number _ fun _ _ => rfl
  | prepare number script => exact stamped.onSocket number _ fun _ _ => rfl

theorem start (endpoint : Endpoint) (settings : Settings) (source : SyncSource) (plans : List Plan)
    (fallback : Plan) :
    (Simulation.start endpoint settings source plans fallback).scene.IsStamped where
  attempt := nofun
  socket := nofun
  mailed := nofun
  heard _ _ _ _ _ cut := nomatch List.append_eq_nil_iff.mp cut.symm

end Scene.IsStamped

/-- What the engine was seen to do in some turns is what it did in them. -/
theorem effectsIn_turns (turns : List Turn) :
    effectsIn (turns.flatMap sightsIn) = Client.history turns := by
  rw [effectsIn, List.filterMap_flatMap]
  refine List.flatMap_congr fun turn _ => ?_
  have told : (turn.stimulus?.toList.map (Sight.heard turn.time)).filterMap Sight.effect? = [] := by
    simp [List.filterMap_map, Function.comp_def, Sight.effect?]
  have done : (turn.effects.map (Sight.engine turn.time)).filterMap Sight.effect? = turn.effects := by
    simp [List.filterMap_map, Function.comp_def, Sight.effect?]
  rw [sightsIn, List.filterMap_append, told, done, List.nil_append]

theorem effectsIn_spoken (record : List Sight) :
    effectsIn (record.filter Sight.isSpoken) = effectsIn record := by
  refine filterMap_spoken record fun sight silent => ?_
  cases sight with
  | engine _ _ => cases silent
  | _ => rfl

/-- What the engine is told in a turn was seen behind all that it did before. -/
theorem record_of_turn {record : List Sight} {past later : List Turn} {turn : Turn}
    {stimulus : Stimulus}
    (spoken : record.filter Sight.isSpoken = (past ++ turn :: later).flatMap sightsIn)
    (told : turn.stimulus? = some stimulus) :
    ∃ front rest, record = front ++ .heard turn.time stimulus :: rest ∧
      effectsIn front = Client.history past := by
  have sights : sightsIn turn = .heard turn.time stimulus :: turn.effects.map (.engine turn.time) := by
    rw [sightsIn, told]
    rfl
  rw [List.flatMap_append, List.flatMap_cons, sights, List.filter_eq_append_iff] at spoken
  obtain ⟨early, late, rfl, before, behind⟩ := spoken
  rw [List.cons_append, List.filter_eq_cons_iff] at behind
  obtain ⟨between, rest, rfl, silent, -, -⟩ := behind
  refine ⟨early ++ between, rest, (List.append_assoc _ _ _).symm, ?_⟩
  have nothing : between.filter Sight.isSpoken = [] := List.filter_eq_nil_iff.mpr silent
  rw [← effectsIn_spoken, List.filter_append, before, nothing, List.append_nil, effectsIn_turns]

namespace Simulation

/-- The same reports wait, and behind them such of one generation, if any. -/
def HasMail (simulation : Simulation) (generation : Nat) (after : Simulation) : Prop :=
  ∃ reports : List Report, after.reports = simulation.reports ++ reports.map fun report =>
    (generation, report)

variable {simulation middle after : Simulation} {number generation : Nat} {socket : Socket}

namespace HasMail

theorem of_same (same : after.reports = simulation.reports) :
    simulation.HasMail generation after :=
  ⟨[], same.trans (List.append_nil _).symm⟩

theorem trans (first : simulation.HasMail generation middle)
    (second : middle.HasMail generation after) : simulation.HasMail generation after := by
  obtain ⟨reports, before⟩ := first
  obtain ⟨more, behind⟩ := second
  exact ⟨reports ++ more, by rw [behind, before, List.map_append, List.append_assoc]⟩

end HasMail

@[simp]
theorem reports_wake (simulation : Simulation) (task : Task) :
    (simulation.wake task).reports = simulation.reports := by
  unfold wake
  split <;> rfl

theorem report_hasMail (simulation : Simulation) (generation : Nat) (report : Report) :
    simulation.HasMail generation (simulation.report generation report) := by
  unfold Simulation.report
  split
  · exact ⟨[report], reports_wake _ _⟩
  · exact .of_same rfl

/-- The reader of a socket reports under the generation of the socket. -/
theorem runReader_hasMail (there : simulation.sockets[number]? = some socket) :
    simulation.HasMail socket.generation (simulation.runReader number) := by
  have each (reports : List Report) (simulation : Simulation) :
      simulation.HasMail socket.generation (reports.foldl
        (fun simulation report => simulation.report socket.generation report) simulation) := by
    induction reports generalizing simulation with
    | nil => exact .of_same rfl
    | cons report rest ih => exact (report_hasMail simulation _ report).trans (ih _)
  unfold runReader
  split
  · exact .of_same rfl
  · next found opened =>
      cases there.symm.trans (openSocket?_eq_some opened).1
      have moved : simulation.HasMail socket.generation
        (simulation.onSocket number fun _ => socket.read.1) := .of_same rfl
      exact moved.trans (each socket.read.2 _)

/-- So does its writer. -/
theorem runWriter_hasMail (there : simulation.sockets[number]? = some socket) :
    simulation.HasMail socket.generation (simulation.runWriter number) := by
  unfold runWriter
  split
  · exact .of_same rfl
  · next found opened =>
      cases there.symm.trans (openSocket?_eq_some opened).1
      let moved := simulation.onSocket number fun _ => socket.write.socket
      let sent := if socket.write.sent.isEmpty then moved
        else moved.see (.sent number socket.write.sent)
      let answered := if socket.write.echo.isEmpty then sent
        else (sent.see (.arrived number socket.write.echo)).wake (.reader number)
      have sentSame : sent.reports = simulation.reports := by
        unfold sent
        split <;> rfl
      have answeredSame : answered.reports = sent.reports := by
        unfold answered
        split
        · rfl
        · exact reports_wake _ _
      have same : simulation.HasMail socket.generation answered :=
        .of_same (answeredSame.trans sentSame)
      change simulation.HasMail socket.generation (socket.write.report.elim answered fun report =>
        answered.report socket.generation report)
      cases socket.write.report with
      | none => exact same
      | some report => exact same.trans (report_hasMail answered _ report)

/-- An attempt reports under the generation in which it was started. -/
theorem proceed_hasMail (simulation : Simulation) (attempt : Attempt) :
    simulation.HasMail attempt.generation (simulation.proceed attempt) := by
  unfold proceed
  split
  · exact .of_same rfl
  · unfold acceptSocket
    dsimp only
    split
    · exact .of_same rfl
    · split
      · refine HasMail.trans ?_ (report_hasMail _ _ _)
        exact .of_same rfl
      · exact .of_same rfl
  · exact report_hasMail { simulation with attempt := none } _ _

/-- Whether whatever reports to the engine does so under the generation in which it was begun. -/
structure AreStamped (turns : List Turn) (simulation : Simulation) : Prop where
  /-- An attempt is of the generation in which it was started. -/
  attempt : ∀ attempt ∈ simulation.attempt, ∃ turn ∈ turns, turn.Dials attempt.generation
  /-- A socket is of the generation in which its attempt was started. -/
  socket : ∀ (number : Nat) (socket : Socket), simulation.sockets[number]? = some socket →
    ∃ turn ∈ turns, turn.Dials socket.generation
  /-- The engine serves it in the same generation. -/
  attached : ∀ turn ∈ turns, ∀ number, .attached number ∈ turn.effects →
    ∃ socket : Socket, simulation.sockets[number]? = some socket ∧
      socket.generation = turn.before.engine.generation
  /-- Attempts and the two tasks of a socket report under this generation. -/
  concludes : ∀ attempt ∈ simulation.attempt,
    simulation.HasMail attempt.generation (simulation.proceed attempt)
  reads : ∀ (number : Nat) (socket : Socket), simulation.sockets[number]? = some socket →
    simulation.HasMail socket.generation (simulation.runReader number)
  writes : ∀ (number : Nat) (socket : Socket), simulation.sockets[number]? = some socket →
    simulation.HasMail socket.generation (simulation.runWriter number)
  /-- Every report that waits was sent by such an attempt or socket. -/
  waiting : ∀ entry ∈ simulation.reports, (∃ turn ∈ turns, turn.Dials entry.1) ∧
    Sends simulation.sockets entry.1 entry.2
  /-- So was every report that the engine was told, and the attempt was started before. -/
  told : ∀ past turn later, turns = past ++ turn :: later → ∀ generation report,
    turn.stimulus? = some (.report generation report) →
      (∃ earlier ∈ past, earlier.Dials generation) ∧ Sends simulation.sockets generation report

theorem areStamped_of_scene {turns : List Turn} (succession : IsSuccession turns)
    (stamped : simulation.scene.IsStamped)
    (spoken : simulation.record.filter Sight.isSpoken = turns.flatMap sightsIn) :
    simulation.AreStamped turns := by
  have starts {some : List Turn} (within : some ⊆ turns) {generation : Nat}
      (member : .dialed generation ∈ Client.history some) :
      ∃ turn ∈ some, turn.Dials generation := by
    obtain ⟨turn, here, done⟩ := List.mem_flatMap.mp member
    exact ⟨turn, here, succession.dialed turn (within here) generation done⟩
  have done : effectsIn simulation.record = Client.history turns := by
    rw [← effectsIn_spoken, spoken, effectsIn_turns]
  have begun {generation : Nat} (member : .dialed generation ∈ effectsIn simulation.record) :
      ∃ turn ∈ turns, turn.Dials generation := starts (List.Subset.refl _) (done ▸ member)
  have told (past : List Turn) (turn : Turn) (later : List Turn)
      (cut : turns = past ++ turn :: later) (generation : Nat) (report : Report)
      (told : turn.stimulus? = some (.report generation report)) :
      (∃ earlier ∈ past, earlier.Dials generation) ∧ Sends simulation.sockets generation report := by
    obtain ⟨front, rest, split, before⟩ := record_of_turn (cut ▸ spoken) told
    obtain ⟨dialed, sends⟩ := stamped.heard front turn.time generation report rest split
    rw [before] at dialed
    exact ⟨starts (cut ▸ List.subset_append_left _ _) dialed, sends⟩
  constructor
  case attempt => exact fun attempt here => begun (stamped.attempt attempt here)
  case socket => exact fun number socket there => begun (stamped.socket number socket there)
  case attached =>
    intro turn member number attached
    obtain ⟨past, later, cut⟩ := List.append_of_mem member
    obtain ⟨connected, -⟩ := succession.attached turn member number attached
    rcases (told past turn later cut _ _ connected).2 with
      ⟨failure, failed⟩ | ⟨place, socket, there, same, named⟩
    · cases failed
    · exact ⟨socket, named number rfl ▸ there, same⟩
  case concludes => exact fun attempt _ => proceed_hasMail simulation attempt
  case reads => exact fun number socket there => runReader_hasMail there
  case writes => exact fun number socket there => runWriter_hasMail there
  case waiting => exact fun entry member => (stamped.mailed entry member).imp_left begun
  case told => exact told

/-- After every schedule, the connection has gone through a run of turns, of which all that the
engine heard and did was seen.  In these turns the engine goes from one generation to the next,
which is new each time; attempts and sockets report under the generation in which they were begun;
and whatever is reported of a generation that has been left changes nothing, answers nobody and
leaves no line in the log, so that no socket makes the engine leave more than once. -/
theorem torn_sockets_stay_silent (endpoint : Endpoint) (settings : Settings) (source : SyncSource)
    (plans : List Plan) (fallback : Plan) (schedule : List Doing) :
    let simulation := (start endpoint settings source plans fallback).after schedule
    let beginning := Connection.start endpoint settings
    ∃ moves, beginning.run moves = simulation.connection ∧
      simulation.record.filter Sight.isSpoken = (beginning.turns moves).flatMap sightsIn ∧
      IsSuccession (beginning.turns moves) ∧ simulation.AreStamped (beginning.turns moves) := by
  intro simulation beginning
  obtain ⟨⟨moves, enacts⟩, -⟩ :=
    enacts_of_start endpoint settings source plans fallback schedule
  have succession := Connection.isSuccession_turns endpoint settings moves
  have stamped : simulation.scene.IsStamped :=
    after_holds endpoint settings source plans fallback
      (.start endpoint settings source plans fallback) (fun beat stamped => stamped.beat beat) schedule
  exact ⟨moves, enacts.connection.symm, enacts.spoken, succession,
    areStamped_of_scene succession stamped enacts.spoken⟩

end Simulation

end RequestMux.Network
