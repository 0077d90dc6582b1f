import RequestMux.Proofs.Network.Schedule
import RequestMux.Proofs.Network.Wiring

/-!
# Every scene is wired

Each beat keeps the order of generations, attempts, sockets and reports, so that it
holds after every schedule.
-/

namespace RequestMux.Network

open Client (Effect Engine Onset Report Stimulus Tick Time attachedIn attachedIn_append)
open Link (Reader Writer)
open Wire (Intake Piece)

namespace Socket.IsBlank

variable {socket : Socket}

/-- On a blank socket there is nothing to read. -/
theorem read (blank : socket.IsBlank) : socket.read.2 = [] ∧ socket.read.1.IsBlank := by
  have nothing : socket.reader.run socket.ended socket.pieces =
      ⟨[], none, (socket.reader.run false []).reader, []⟩ := by
    rw [blank.pieces, blank.going]
    unfold Reader.run
    split
    · rfl
    · unfold Reader.advance
      rfl
  unfold Socket.read Link.Reading.reports
  rw [nothing]
  exact ⟨rfl, rfl, blank.going, blank.held, blank.waiting⟩

/-- On a blank socket there is nothing to write. -/
theorem write (blank : socket.IsBlank) :
    socket.write.report = none ∧ socket.write.socket.IsBlank := by
  have idle : socket.writer.run socket.script = ⟨[], none, socket.writer, socket.script⟩ := by
    unfold Writer.run
    rw [blank.held, blank.waiting]
    dsimp only
    split <;> rfl
  have none : (socket.echo && !([] : Bytes).isEmpty) = false := by simp
  unfold Socket.write
  rw [idle]
  dsimp only
  rw [none, if_neg Bool.false_ne_true]
  refine ⟨rfl, ?_⟩
  unfold Socket.arrive
  split
  · exact ⟨blank.pieces, blank.going, blank.held, blank.waiting⟩
  · exact ⟨(List.append_nil _).trans blank.pieces, blank.going, blank.held, blank.waiting⟩

end Socket.IsBlank

/-- A reader reports frames and faults. -/
theorem Socket.mem_read {socket : Socket} {report : Report} (member : report ∈ socket.read.2) :
    (∃ packet, report = .frame packet) ∨ ∃ fault, report = .readFailed fault := by
  rcases List.mem_append.mp member with frame | fault
  · obtain ⟨packet, -, rfl⟩ := List.mem_map.mp frame
    exact .inl ⟨packet, rfl⟩
  · obtain ⟨error, -, rfl⟩ := List.mem_map.mp fault
    exact .inr ⟨error, rfl⟩

/-- A writer reports what became of a buffer. -/
theorem Socket.mem_write {socket : Socket} {report : Report}
    (member : report ∈ socket.write.report) :
    report = .written ∨ ∃ failure part, report = .writeFailed failure part := by
  have goes (octets : Bytes) (accepted : Nat) (waiting : List Bytes) (script : Link.Script) :
      report ∈ (Writer.goOn octets accepted waiting script).report →
        report = .written ∨ ∃ failure part, report = .writeFailed failure part := by
    unfold Writer.goOn
    dsimp only
    split
    · rintro ⟨⟩
      exact .inl rfl
    · rintro ⟨⟩
      exact .inr ⟨_, _, rfl⟩
    · exact nofun
  change report ∈ (socket.writer.run socket.script).report at member
  unfold Writer.run at member
  dsimp only at member
  split at member
  · cases member
  · split at member
    · exact goes _ _ _ _ member
    · exact goes _ _ _ _ member
    · cases member

/-- Effects that neither hand a buffer over, nor start an attempt, nor attach a socket. -/
def AreHarmless (effects : List Effect) : Prop :=
  ∀ effect ∈ effects, effect.attached? = none ∧ (∀ number write, effect ≠ .handed number write) ∧
    ∀ generation, effect ≠ .dialed generation

namespace AreHarmless

theorem of_isIdle {effect : Effect} (idle : effect.isIdle = true) :
    effect.attached? = none ∧ (∀ number write, effect ≠ .handed number write) ∧
      ∀ generation, effect ≠ .dialed generation := by
  cases effect with
  | attached _ => cases idle
  | handed _ _ => cases idle
  | dialed _ => cases idle
  | _ => exact ⟨rfl, nofun, nofun⟩

theorem of_onset {now : Time} {stimulus : Stimulus} {engine after : Engine}
    {effects : List Effect} (onset : Onset now engine stimulus effects after)
    (firm : ∀ number, stimulus ≠ .report engine.generation (.connected number))
    (sound : ∀ failure, stimulus ≠ .report engine.generation (.connectFailed failure)) :
    AreHarmless effects := by
  intro effect member
  cases onset.brings member with
  | idle quiet => exact of_isIdle quiet
  | attached connected => exact absurd connected (firm _)
  | dialed failed => exact absurd failed (sound _)
  | _ => exact ⟨rfl, nofun, nofun⟩

theorem release (engine : Engine) : AreHarmless engine.release.2 :=
  Engine.forall_release _ engine (fun _ => ⟨rfl, nofun, nofun⟩) ⟨rfl, nofun, nofun⟩

end AreHarmless

namespace Scene.IsWired

variable {scene : Scene} {now : Time}

/-- A release leaves nothing of the generation. -/
theorem release (wired : scene.IsWired) (running : scene.engine.life = .running) {engine : Engine}
    (same : wiring engine = wiring scene.engine) :
    ((scene.performAll now engine.release.2).withEngine engine.release.1).IsWired := by
  simp only [wiring, Prod.mk.injEq] at same
  obtain ⟨-, -, generation, -, attempting⟩ := same
  have performed : (scene.performAll now engine.release.2).IsWired :=
    wired.performAll (AreHarmless.release engine)
  have closing (sockets : List Nat) (scene : Scene) :
      (scene.performAll now (sockets.map .closed)).attempt = scene.attempt := by
    induction sockets generalizing scene with
    | nil => rfl
    | cons socket rest ih => exact ih (scene.perform now (.closed socket))
  have idle : (scene.performAll now engine.release.2).attempt = none := by
    change (scene.performAll now (engine.link.toList.map .closed ++ _)).attempt = none
    rw [performAll_append]
    split
    · rfl
    · next resting =>
        change (scene.performAll now (engine.link.toList.map .closed)).attempt = none
        rw [closing]
        cases here : scene.attempt with
        | none => rfl
        | some attempt =>
            have dialed := ((wired.live running).dialed attempt here).2
            exact absurd (attempting.trans dialed) resting
  refine performed.renew idle ?_ rfl
  rw [performAll_engine]
  exact congrArg (· + 1) generation

/-- What an engine that has ended takes from the inbox does not matter. -/
theorem miss (wired : scene.IsWired) {stimulus : Stimulus} {rest : List (Nat × Report)}
    (ceased : scene.engine.life ≠ .running) (takes : Takes stimulus scene.inbox rest) :
    (scene.withInbox rest).IsWired := by
  have earlier {item : Nat × Report} (member : item ∈ rest) : item ∈ scene.inbox := by
    cases stimulus with
    | report generation report =>
        rw [show scene.inbox = (generation, report) :: rest from takes]
        exact List.mem_cons_of_mem _ member
    | _ => exact (show scene.inbox = rest from takes) ▸ member
  exact ⟨wired.older, fun item member => wired.mailed item (earlier member), wired.attempted,
    fun generation number member => wired.introduced generation number (earlier member),
    wired.known, wired.once, fun running => absurd running ceased⟩

theorem hears (wired : scene.IsWired) {stimulus : Stimulus} {rest : List (Nat × Report)}
    (takes : Takes stimulus scene.inbox rest)
    (firm : ∀ number, stimulus ≠ .report scene.engine.generation (.connected number)) :
    ((scene.withInbox rest).note [.heard now stimulus]).IsWired := by
  have taken : (scene.withInbox rest).IsWired := by
    cases stimulus with
    | report generation report =>
        refine wired.pop takes fun number same => ?_
        cases same
        exact firm number rfl
    | _ =>
        cases takes
        exact wired
  exact taken.note rfl

theorem beginConnect (wired : scene.IsWired) (empty : scene.tokens = 0) :
    ((scene.performAll now scene.engine.beginConnect.2).withEngine
      scene.engine.beginConnect.1).IsWired := by
  let calling := scene.engine.beginConnect.1
  have dialed : ({ scene with
      engine := calling
      attempt := some ⟨calling.generation, .unstarted⟩ } : Scene).IsWired :=
    wired.dial empty rfl rfl rfl rfl rfl
  have unheard (effect : Effect) (idle : effect.attached? = none) :
      attachedIn (effectsIn [.engine now effect]) = [] := by
    simp [effectsIn, attachedIn, Sight.effect?, idle]
  have noted := dialed.note (unheard (.noted (.connecting scene.engine.generation)) rfl)
  exact noted.note (unheard (.dialed scene.engine.generation) rfl)

theorem onset (wired : scene.IsWired) {stimulus : Stimulus} {first : List Effect}
    {middle : Engine} {rest : List (Nat × Report)} (awake : scene.engine.IsAwake)
    (takes : Takes stimulus scene.inbox rest)
    (onset : Onset now scene.engine stimulus first middle) :
    ((((scene.withInbox rest).note [.heard now stimulus]).performAll now first).withEngine
      middle).IsWired := by
  have harmless := AreHarmless.of_onset onset
  have hears (firm : ∀ number, stimulus ≠ .report scene.engine.generation (.connected number)) :
      ((scene.withInbox rest).note [.heard now stimulus]).IsWired := wired.hears takes firm
  have plain {engine : Engine} (same : wiring engine = wiring scene.engine)
      (firm : ∀ number, stimulus ≠ .report scene.engine.generation (.connected number))
      (sound : ∀ failure, stimulus ≠ .report scene.engine.generation (.connectFailed failure)) :
      ((((scene.withInbox rest).note [.heard now stimulus]).performAll now first).withEngine
        engine).IsWired := by
    refine ((hears firm).performAll (harmless firm sound)).withEngine ?_
    rw [performAll_engine]
    exact same
  have ceased {engine : Engine} (generation : scene.engine.generation ≤ engine.generation)
      (ended : engine.life ≠ .running)
      (firm : ∀ number, stimulus ≠ .report scene.engine.generation (.connected number))
      (sound : ∀ failure, stimulus ≠ .report scene.engine.generation (.connectFailed failure)) :
      ((((scene.withInbox rest).note [.heard now stimulus]).performAll now first).withEngine
        engine).IsWired := by
    refine ((hears firm).performAll (harmless firm sound)).finish ?_ ended
    rw [performAll_engine]
    exact generation
  cases onset with
  | attach number =>
      let served : Engine :=
        { scene.engine.setPhase .connected with link := some number, attempting := false }
      have attached : attachedIn (effectsIn (((scene.withInbox rest).note [.heard now
          (.report scene.engine.generation (.connected number))]).performAll now
            [.attached number, .noted (.connected scene.engine.generation)]).record) =
          attachedIn (effectsIn scene.record) ++ [number] := by
        rw [effectsIn_performAll, attachedIn_append]
        change attachedIn (effectsIn (scene.record ++ [_])) ++ _ = _
        rw [effectsIn_append, attachedIn_append]
        exact congrArg (· ++ [number]) (List.append_nil _)
      have here : scene.inbox = (scene.engine.generation, .connected number) :: rest := takes
      have phase : served.phase = .connected := rfl
      exact wired.attach awake.running here phase rfl rfl attached
  | redial failure =>
      have live := wired.live awake.running
      have verdict : isVerdict scene.engine.generation
          (scene.engine.generation, .connectFailed failure) = true := isVerdict_iff.mpr ⟨rfl, rfl⟩
      have empty := live.of_verdict takes verdict
      have heard := hears nofun
      have unattached : attachedIn (effectsIn [.engine now (.warned (.connectFailed failure))]) = [] :=
        rfl
      exact (heard.note unattached).beginConnect empty
  | writeFailed failure part =>
      have heard := hears nofun
      have still : ∀ effect ∈ Effect.warned (.writeFailed failure) :: (scene.engine.takeBack part).2,
          effect.attached? = none ∧ (∀ number write, effect ≠ .handed number write) ∧
            ∀ generation, effect ≠ .dialed generation := by
        intro effect member
        rcases List.mem_cons.mp member with rfl | returned
        · exact ⟨rfl, nofun, nofun⟩
        · obtain ⟨write, -, rfl⟩ := List.mem_map.mp returned
          exact ⟨rfl, nofun, nofun⟩
      rw [performAll_append]
      refine (heard.performAll still).release ?_ ?_
      · rw [performAll_engine]
        exact awake.running
      · rw [performAll_engine]
        rfl
  | shutDown => exact ceased (Nat.le_succ _) nofun nofun nofun
  | collapse asked impossible =>
      refine ceased (Nat.le_refl _) nofun ?_ ?_
      · rintro number rfl
        exact asked
      · rintro failure rfl
        exact asked
  | plain told =>
      refine plain rfl ?_ ?_
      · rintro number rfl
        cases told
      · rintro failure rfl
        cases told
  | enter talk pingAt asked said possible =>
      refine plain rfl ?_ ?_
      · rintro number rfl
        exact asked
      · rintro failure rfl
        exact asked
  | stale generation report old =>
      refine plain rfl ?_ ?_
      · rintro number ⟨⟩
        exact old rfl
      · rintro failure ⟨⟩
        exact old rfl
  | disablePing => exact plain rfl nofun nofun
  | answer found => exact plain rfl nofun nofun
  | unknown packet effect said => exact plain rfl nofun nofun
  | readFailed fault => exact plain rfl nofun nofun
  | written => exact plain rfl nofun nofun
  | ring ringing taken early => exact plain rfl nofun nofun
  | expire ringing fired => exact plain rfl nofun nofun

theorem tick (wired : scene.IsWired) {effects : List Effect} {after : Engine}
    (awake : scene.engine.IsAwake) (tick : Tick now scene.engine effects after) :
    ((scene.performAll now effects).withEngine after).IsWired := by
  have plain (harmless : AreHarmless effects) (same : wiring after = wiring scene.engine) :
      ((scene.performAll now effects).withEngine after).IsWired := by
    refine (wired.performAll harmless).withEngine ?_
    rw [performAll_engine]
    exact same
  cases tick with
  | remark effect said =>
      refine plain (fun other member => ?_) rfl
      rw [List.mem_singleton.mp member]
      exact AreHarmless.of_isIdle (Effect.isIdle_of_isRemark said)
  | reschedule => exact plain nofun rfl
  | publish => exact plain nofun rfl
  | dial idle => exact wired.beginConnect ((wired.live awake.running).vacant idle)
  | push octets counted =>
      refine plain (fun other member => ?_) rfl
      rw [List.mem_singleton.mp member]
      exact ⟨rfl, nofun, nofun⟩
  | @hand number write rest free linked first =>
      refine (wired.hand linked write).withEngine ?_
      rw [perform_engine]
      rfl
  | release => exact wired.release awake.running rfl
  | dismiss =>
      exact plain (Engine.forall_dismissAll _ scene.engine (fun _ => ⟨rfl, nofun, nofun⟩)
        fun _ => ⟨rfl, nofun, nofun⟩) rfl

/-- A failed attempt is reported, unless nobody is left to tell. -/
theorem fail (wired : scene.IsWired) {attempt : Attempt} (here : scene.attempt = some attempt)
    (failure : IoFailure) :
    ({ scene with attempt := none }.mail attempt.generation [.connectFailed failure]).IsWired := by
  by_cases running : scene.engine.life = .running
  · have live := wired.live running
    obtain ⟨-, silent⟩ := live.of_attempt here
    obtain ⟨current, -⟩ := live.dialed attempt here
    rw [mail_running { scene with attempt := none } running]
    have verdict : isVerdict scene.engine.generation (attempt.generation, .connectFailed failure) =
        true := isVerdict_iff.mpr ⟨current, rfl⟩
    have tokens : ({ scene with
        attempt := none
        inbox := scene.inbox ++ [(attempt.generation, .connectFailed failure)] } : Scene).tokens =
          scene.tokens := tokens_of_concluded here verdict rfl rfl rfl
    have older {former number : Nat} (member : (former, Report.connected number) ∈
        scene.inbox ++ [(attempt.generation, .connectFailed failure)]) :
        (former, Report.connected number) ∈ scene.inbox := by
      rcases List.mem_append.mp member with old | new
      · exact old
      · cases List.mem_singleton.mp new
    refine ⟨wired.older, fun item member => ?_, nofun,
      fun former number member => wired.introduced former number (older member), wired.known,
      wired.once, fun _ => ⟨tokens ▸ live.single, fun disconnected => tokens ▸ live.vacant disconnected,
        nofun, live.linked, fun number socket there now => ?_, ?_, ?_, fun number member =>
          live.unattached number (older member)⟩⟩
    · rcases List.mem_append.mp member with old | new
      · exact wired.mailed item old
      · rw [List.mem_singleton.mp new]
        exact wired.attempted attempt here
    · exact (live.spare number socket there now).imp_right (Or.imp_left (List.mem_append_left _ ·))
    · intro before number after split
      change scene.inbox ++ [(attempt.generation, .connectFailed failure)] = _ at split
      have member : (scene.engine.generation, Report.connected number) ∈ scene.inbox := by
        refine older ?_
        rw [split]
        exact List.mem_append_right before List.mem_cons_self
      exact absurd rfl (silent _ member)
    · intro item member now
      rcases List.mem_append.mp member with old | new
      · exact absurd now (silent item old)
      · rw [List.mem_singleton.mp new]
        exact .inr (.inr ⟨failure, rfl⟩)
  · rw [mail_over { scene with attempt := none } running]
    exact wired.alter rfl rfl nofun (.refl _ _) rfl

/-- Something happens on a socket, which its task may report. -/
theorem work (wired : scene.IsWired) {number : Nat} {socket changed : Socket} {sights : List Sight}
    {reports : List Report} (there : scene.sockets[number]? = some socket)
    (same : changed.generation = socket.generation ∧ changed.isOpen = socket.isOpen)
    (blank : socket.IsBlank → reports = [] ∧ changed.IsBlank)
    (noted : attachedIn (effectsIn sights) = [])
    (plain : ∀ report ∈ reports, (∀ number, report ≠ .connected number) ∧
      ∀ failure, report ≠ .connectFailed failure) :
    (((scene.onSocket number fun _ => changed).note sights).mail socket.generation
      reports).IsWired := by
  have altered : Socket.Alters scene.engine.link scene.sockets
      (scene.sockets.modify number fun _ => changed) := by
    refine .modify _ _ _ ?_ ?_
    · intro other member
      cases there.symm.trans member
      exact same.1
    · intro _ other member closed isBlank
      cases there.symm.trans member
      exact ⟨same.2.trans closed, (blank isBlank).2⟩
  have moved : (scene.onSocket number fun _ => changed).IsWired :=
    wired.alter rfl rfl (fun attempt here => ⟨attempt, here, rfl⟩) altered rfl
  refine (moved.note noted).mail (wired.older number socket there) plain fun some running current => ?_
  rcases (wired.live running).spare number socket there current with linked | connected | ⟨-, unused⟩
  · refine .inl ?_
    change scene.engine.link.isSome = true
    rw [linked]
    rfl
  · exact .inr ⟨number, connected⟩
  · exact absurd (blank unused).1 some

/-- Every beat keeps the wiring. -/
theorem beat (wired : scene.IsWired) {after : Scene} (beat : Beat scene after) : after.IsWired := by
  have opens {number : Nat} {socket : Socket} {change : Socket → Socket}
      (there : scene.sockets[number]? = some socket) (isOpen : socket.isOpen = true)
      (same : (change socket).generation = socket.generation) {sight : Sight}
      (noted : attachedIn (effectsIn [sight]) = []) :
      ((scene.onSocket number change).note [sight]).IsWired := by
    have moved : (scene.onSocket number change).IsWired := by
      refine wired.alter rfl rfl (fun attempt here => ⟨attempt, here, rfl⟩) (.modify _ _ _ ?_ ?_) rfl
      · intro other member
        cases there.symm.trans member
        exact same
      · intro _ other member closed
        cases there.symm.trans member
        exact nomatch isOpen.symm.trans closed
    exact moved.note noted
  have adjusts (number : Nat) {change : Socket → Socket}
      (same : ∀ socket, (change socket).generation = socket.generation)
      (blank : ∀ socket : Socket, socket.isOpen = false → socket.IsBlank →
        (change socket).isOpen = false ∧ (change socket).IsBlank) :
      (scene.onSocket number change).IsWired :=
    wired.alter rfl rfl (fun attempt here => ⟨attempt, here, rfl⟩)
      (.modify _ _ _ (fun socket _ => same socket) fun _ socket _ => blank socket) rfl
  cases beat with
  | show_ board => exact wired.withEngine rfl
  | hear awake takes onset => exact wired.onset awake takes onset
  | miss ceased takes => exact (wired.miss ceased takes).note rfl
  | tick awake tick => exact wired.tick awake tick
  | farewell said =>
      exact wired.performAll fun effect member =>
        AreHarmless.of_isIdle (Client.Life.isIdle_of_isFarewell (said effect member))
  | @commence attempt here stage =>
      refine wired.alter rfl rfl ?_ (.refl _ _) rfl
      rintro later ⟨⟩
      exact ⟨attempt, here, rfl⟩
  | fail here failure => exact wired.fail here failure
  | @accept attempt here running nodelay echo script =>
      have same : (Socket.fresh scene.sockets.length attempt.generation
        scene.engine.settings.maxPayload echo script).generation = attempt.generation := rfl
      have accepted := wired.accept running here same
      rw [mail_running]
      · exact accepted.note rfl
      · exact running
  | reject here later nodelay echo script =>
      exact (wired.reject here later rfl rfl ⟨rfl, rfl, rfl, rfl⟩).note rfl
  | @read number socket there isOpen =>
      have nothing : attachedIn (effectsIn []) = [] := rfl
      have same : socket.read.1.generation = socket.generation ∧
          socket.read.1.isOpen = socket.isOpen := ⟨rfl, rfl⟩
      have plain : ∀ report ∈ socket.read.2, (∀ number, report ≠ .connected number) ∧
          ∀ failure, report ≠ .connectFailed failure := by
        intro report member
        rcases Socket.mem_read member with ⟨_, rfl⟩ | ⟨_, rfl⟩
        · exact ⟨nofun, nofun⟩
        · exact ⟨nofun, nofun⟩
      have worked := wired.work there same (fun blank => blank.read) nothing plain
      rw [note_nil] at worked
      exact worked
  | @write number socket there isOpen =>
      have quiet : attachedIn (effectsIn (socket.write.sights number)) = [] :=
        congrArg attachedIn (effectsIn_sights _ number)
      have same : socket.write.socket.generation = socket.generation ∧
          socket.write.socket.isOpen = socket.isOpen :=
        ⟨socket.generation_write, socket.isOpen_write⟩
      refine wired.work there same (fun blank => ?_) quiet fun report member => ?_
      · exact ⟨congrArg Option.toList blank.write.1, blank.write.2⟩
      · rcases Socket.mem_write (Option.mem_toList.mp member) with rfl | ⟨_, _, rfl⟩
        · exact ⟨nofun, nofun⟩
        · exact ⟨nofun, nofun⟩
  | @arrive number socket there isOpen pieces =>
      exact opens there isOpen (socket.generation_arrive pieces) rfl
  | finish there isOpen => exact opens there isOpen rfl rfl
  | release number =>
      refine adjusts number (fun _ => rfl) fun socket closed blank => ⟨closed, ?_⟩
      exact ⟨blank.pieces, blank.going, congrArg (Option.map _) blank.held, blank.waiting⟩
  | prepare number script =>
      exact adjusts number (fun _ => rfl) fun socket closed blank =>
        ⟨closed, blank.pieces, blank.going, blank.held, blank.waiting⟩

theorem beats (wired : scene.IsWired) {after : Scene} (beats : Beats scene after) : after.IsWired := by
  induction beats with
  | refl => exact wired
  | tail _ beat ih => exact ih.beat beat

theorem start (endpoint : Endpoint) (settings : Settings) (source : SyncSource) (plans : List Plan)
    (fallback : Plan) : (Simulation.start endpoint settings source plans fallback).scene.IsWired where
  older := nofun
  mailed := nofun
  attempted := nofun
  introduced := nofun
  known := nofun
  once := List.nodup_nil
  live _ := {
    single := Nat.zero_le 1
    vacant := fun _ => rfl
    dialed := nofun
    linked := nofun
    spare := nofun
    ordered := fun before number after split => by
      have empty : [] = before ++ (0, Report.connected number) :: after := split
      simp at empty
    served := nofun
    unattached := nofun }

end Scene.IsWired

end RequestMux.Network
