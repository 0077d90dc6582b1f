import RequestMux.Proofs.Network.Minding

/-!
# Attempts from their call to their end

An attempt begins when it comes to its turn in the line, goes on when its time has come, and puts its
end down for the engine.  Every step of a simulation that minds its attempts leads to one that does,
and so does every schedule: what is seen of attempts goes as bids go.
-/

namespace RequestMux.Network

open Client (Connection Report Stimulus Time)

namespace Simulation

variable {simulation after : Simulation} {timeout : Time} {bid : Bid}
  {inbox : List (Nat × Report)}

namespace Minds

/-- The end of an attempt is put down for the engine. -/
theorem report (governs : bid.Governs timeout simulation)
    (fits : bid.Fits simulation.connection.engine) (lined : simulation.IsLined)
    {generation : Nat} {start : Time} {plan : Plan} (under : bid = .underWay generation start plan)
    (silent : simulation.connection.engine.life = .running →
      ∀ entry ∈ simulation.reports, entry.1 ≠ simulation.connection.engine.generation)
    (report : Report) (ends : concludes report = true)
    (told : bid.IsVerdict timeout simulation.now report) :
    (simulation.report generation report).chronicle = simulation.chronicle ∧
      (simulation.report generation report).Minds timeout bid
        (simulation.report generation report).reports := by
  unfold Simulation.report
  split
  · next runs =>
      have running : simulation.connection.engine.life = .running := beq_iff_eq.mp runs
      subst under
      have current := fits.current running
      let mailed : Simulation :=
        { simulation with reports := simulation.reports ++ [(generation, report)] }
      have waked := Spares.wake mailed .engine nofun
      have kept : (mailed.wake .engine).seen = mailed.seen ∧
          (mailed.wake .engine).reports = mailed.reports ∧
          (mailed.wake .engine).connection = mailed.connection := by
        unfold Simulation.wake
        split <;> exact ⟨rfl, rfl, rfl⟩
      obtain ⟨seen, reports, connection⟩ := kept
      refine ⟨congrArg List.reverse seen, ?_, ?_, ?_, ?_, ?_⟩
      · rw [connection]
        exact fits
      · exact governs.congr waked.now waked.attempt waked.dial
      · exact ⟨@Spares.nodup_wake mailed lined.once .engine,
          fun _ => Spares.mem_wake.mpr (.inr rfl)⟩
      · rw [connection, reports, waked.now]
        intro _ entry member verdict
        rcases List.mem_append.mp member with old | new
        · exact absurd (isVerdict_iff.mp verdict).1 (silent running entry old)
        · rw [List.mem_singleton.mp new]
          exact told
      · rw [connection, reports]
        intro _ _ _ _ _
        exact .inr ⟨(generation, report), List.mem_append_right _ (List.mem_singleton_self _),
          isVerdict_iff.mpr ⟨current, ends⟩⟩
  · next rests =>
      have ceased : simulation.connection.engine.life ≠ .running := fun running =>
        rests (beq_iff_eq.mpr running)
      exact ⟨rfl, fits, governs, lined, fun running => absurd running ceased,
        fun running => absurd running ceased⟩

/-- The peer accepts an attempt. -/
theorem acceptSocket (minds : simulation.Minds timeout bid simulation.reports)
    (silent : simulation.connection.engine.life = .running →
      ∀ entry ∈ simulation.reports, entry.1 ≠ simulation.connection.engine.generation)
    {generation : Nat} {start : Time} {plan : Plan}
    (under : bid = .underWay generation start plan) (accepts : plan.fate = .accept)
    (early : plan.delay ≤ timeout) (punctual : simulation.now = start + plan.delay) :
    MindsFrom timeout bid simulation
      (simulation.acceptSocket generation plan (start + timeout)).reports
      (simulation.acceptSocket generation plan (start + timeout)) := by
  subst under
  have ends := Plan.failure?_of_accept accepts early
  let number := simulation.sockets.length
  let accepted := { simulation with sockets := simulation.sockets ++ [Socket.fresh number generation
    simulation.settings.maxPayload plan.echo plan.script] }.see
      (.accepted number simulation.settings.nodelay)
  have seen : accepted.chronicle =
      simulation.chronicle ++ [.accepted number simulation.settings.nodelay] := chronicle_see _ _
  have closing : (accepted.close number).chronicle = simulation.chronicle ++
      [.accepted number simulation.settings.nodelay, .closed number] := by
    change (Simulation.see _ _).chronicle = _
    rw [chronicle_see]
    change accepted.chronicle ++ _ = _
    rw [seen, List.append_assoc]
    rfl
  have quiet : (Bid.underWay generation start plan).Goes timeout
      [.accepted number simulation.settings.nodelay, .closed number]
      (.underWay generation start plan) := .pass rfl (.pass rfl (.done _))
  have apart : .dial ∉ (accepted.close number).tasks := fun member =>
    minds.governs.1 (List.mem_of_mem_filter member)
  have closes := (Spares.close number accepted).lined ⟨minds.lined.once, minds.lined.waiting⟩
  unfold Simulation.acceptSocket
  dsimp only
  cases setup : plan.setupFailure with
  | some failure =>
      -- the socket cannot be set up, and the failure is kept back until the timeout is over
      refine ⟨_, _, closing, quiet, minds.fits, ⟨apart, fun attempt member => ?_⟩,
        ⟨closes.once, closes.waiting⟩, fun running entry member verdict => ?_,
        fun _ _ _ _ _ => .inl rfl⟩
      · cases member
        refine ⟨rfl, .failing (ends.trans setup) ?_⟩
        change simulation.now ≤ start + timeout
        rw [punctual]
        exact Nat.add_le_add_left early start
      · exact absurd (isVerdict_iff.mp verdict).1 (silent running entry member)
  | none =>
      dsimp only
      split
      · let settled : Simulation := { accepted with attempt := none }
        have governs : (Bid.underWay generation start plan).Governs timeout settled :=
          ⟨minds.governs.1, nofun⟩
        obtain ⟨same, minded⟩ := Minds.report governs minds.fits
          ⟨minds.lined.once, minds.lined.waiting⟩ rfl silent (.connected number) rfl
          ⟨generation, start, plan, rfl, ends.trans setup, punctual⟩
        exact ⟨_, _, same.trans seen, .pass rfl (.done _), minded⟩
      · next rests =>
          have ceased : simulation.connection.engine.life ≠ .running := fun running =>
            rests (beq_iff_eq.mpr running)
          exact ⟨_, _, closing, quiet, minds.fits, ⟨apart, nofun⟩, ⟨closes.once, closes.waiting⟩,
            fun running => absurd running ceased, fun running => absurd running ceased⟩

/-- An attempt goes on when its time has come. -/
theorem proceed (minds : simulation.Minds timeout bid simulation.reports)
    (silent : simulation.connection.engine.life = .running →
      ∀ entry ∈ simulation.reports, entry.1 ≠ simulation.connection.engine.generation)
    {attempt : Attempt} (here : simulation.attempt = some attempt) {time : Time}
    (waits : attempt.stage.due? = some time) (come : time ≤ simulation.now) :
    MindsFrom timeout bid simulation (simulation.proceed attempt).reports
      (simulation.proceed attempt) := by
  have governs := minds.governs
  cases bid with
  | idle least => exact nomatch governs.1.symm.trans here
  | called generation time =>
      cases governs.1.symm.trans here
      cases waits
  | underWay generation start plan =>
      obtain ⟨apart, waiting⟩ := governs
      obtain ⟨rfl, reaches⟩ := waiting attempt here
      obtain ⟨generation, stage⟩ := attempt
      cases reaches with
      | accepting accepts early ahead =>
          cases waits
          exact minds.acceptSocket silent rfl accepts early (Nat.le_antisymm ahead come)
      | @failing failure fails ahead =>
          cases waits
          let settled : Simulation := { simulation with attempt := none }
          have idle : (Bid.underWay generation start plan).Governs timeout settled :=
            ⟨apart, nofun⟩
          obtain ⟨same, minded⟩ := Minds.report idle minds.fits
            ⟨minds.lined.once, minds.lined.waiting⟩ rfl
            silent (.connectFailed failure) rfl
            ⟨generation, start, plan, rfl, fails, Nat.le_antisymm ahead come⟩
          exact ⟨[], _, same.trans (List.append_nil _).symm, .done _, minded⟩

/-- An attempt that was called for begins. -/
theorem dial (minds : simulation.Minds timeout bid simulation.reports)
    (steady : simulation.IsSteady simulation.reports)
    (limit : simulation.settings.connectTimeout.toNat = timeout) {tasks : List Task}
    (first : simulation.tasks = .dial :: tasks) :
    ∃ generation, bid = .called generation simulation.now ∧
      ∃ sights last, ({ simulation with tasks }.dial).chronicle = simulation.chronicle ++
          .attempt simulation.now simulation.attempts :: sights ∧
        (Bid.underWay generation simulation.now
          (simulation.plans.head?.getD simulation.fallback)).Goes timeout sights last ∧
        ({ simulation with tasks }.dial).Minds timeout last
          ({ simulation with tasks }.dial).reports := by
  have once := minds.lined.once
  rw [first] at once
  obtain ⟨gone, distinct⟩ := List.nodup_cons.mp once
  have member : .dial ∈ simulation.tasks := first ▸ List.mem_cons_self
  have governs := minds.governs
  cases bid with
  | idle least => exact absurd member governs.2
  | underWay generation start plan => exact absurd member governs.1
  | called generation time =>
      obtain ⟨here, -, rfl⟩ := governs
      refine ⟨generation, rfl, ?_⟩
      let plan := simulation.plans.head?.getD simulation.fallback
      let popped : Simulation := { simulation with tasks }
      let dialed := popped.commence generation
      have silent (running : simulation.connection.engine.life = .running) :
          ∀ entry ∈ simulation.reports, entry.1 ≠ simulation.connection.engine.generation :=
        ((steady.wired.live running).of_attempt here).2
      have minded : dialed.Minds timeout (.underWay generation simulation.now plan)
          dialed.reports := by
        refine ⟨⟨minds.fits.calling, minds.fits.connecting, minds.fits.bounded,
          minds.fits.vacant, minds.fits.stopped⟩, ⟨gone, ?_⟩, ⟨distinct, fun some => ?_⟩, ?_,
          fun _ _ _ _ _ => .inl rfl⟩
        · rintro other ⟨⟩
          exact ⟨rfl, limit ▸ plan.reaches_begin _ _⟩
        · have waiting := minds.lined.waiting some
          rw [first] at waiting
          exact (List.mem_cons.mp waiting).resolve_left nofun
        · exact fun running entry member verdict =>
            absurd (isVerdict_iff.mp verdict).1 (silent running entry member)
      have seen : dialed.chronicle =
          simulation.chronicle ++ [.attempt simulation.now simulation.attempts] :=
        chronicle_see _ _
      have called : popped.attempt = some ⟨generation, .unstarted⟩ := here
      rcases dial_cases called with same | ⟨next, time, there, due, come, same⟩
      · rw [same]
        exact ⟨[], _, seen, .done _, minded⟩
      · rw [same]
        obtain ⟨sights, last, noted, goes, held⟩ := minded.proceed silent there due come
        refine ⟨sights, last, ?_, goes, held⟩
        rw [noted, seen, List.append_assoc]
        rfl

/-- The clock goes on while nobody is in the line, no further than the attempt waits. -/
theorem wait (minds : simulation.Minds timeout bid simulation.reports)
    (empty : simulation.tasks = []) {later : Time}
    (ahead : ∀ time, simulation.attemptDue? = some time → later ≤ time) :
    ({ simulation with now := later } : Simulation).Minds timeout bid simulation.reports := by
  have nothing : simulation.reports = [] := by
    by_contra some
    have waiting := minds.lined.waiting some
    rw [empty] at waiting
    cases waiting
  refine ⟨minds.fits, ?_, ⟨minds.lined.once, minds.lined.waiting⟩, fun _ entry member => ?_,
    minds.ends⟩
  · have governs := minds.governs
    cases bid with
    | idle least => exact governs
    | called generation time =>
        have member := governs.2.1
        rw [empty] at member
        cases member
    | underWay generation start plan =>
        refine ⟨governs.1, fun attempt here => ?_⟩
        obtain ⟨same, reaches⟩ := governs.2 attempt here
        have due : simulation.attemptDue? = attempt.stage.due? := by
          rw [attemptDue?, Option.mem_def.mp here]
          rfl
        rw [due] at ahead
        refine ⟨same, ?_⟩
        obtain ⟨former, stage⟩ := attempt
        cases reaches with
        | accepting accepts early _ => exact .accepting accepts early (ahead _ rfl)
        | failing fails _ => exact .failing fails (ahead _ rfl)
  · rw [nothing] at member
    cases member

/-- The clock has not passed the time for which the attempt waits. -/
theorem le_attemptDue (minds : simulation.Minds timeout bid inbox) {time : Time}
    (due : simulation.attemptDue? = some time) : simulation.now ≤ time := by
  obtain ⟨attempt, here, waits⟩ := Option.bind_eq_some_iff.mp due
  have governs := minds.governs
  cases bid with
  | idle least => exact nomatch governs.1.symm.trans here
  | called generation start =>
      cases governs.1.symm.trans here
      cases waits
  | underWay generation start plan =>
      obtain ⟨-, reaches⟩ := governs.2 attempt here
      obtain ⟨former, stage⟩ := attempt
      cases reaches with
      | accepting accepts early ahead =>
          cases waits
          exact ahead
      | failing fails ahead =>
          cases waits
          exact ahead

theorem fireTimer (minds : simulation.Minds timeout bid simulation.reports)
    (steady : simulation.IsSteady simulation.reports) {time : Time}
    (next : simulation.nextTimer? = some time) (due : time ≤ simulation.now) :
    MindsFrom timeout bid simulation simulation.fireTimer.reports simulation.fireTimer := by
  have later := steady.advance (steady.fireTimer next due)
  have told (simulation : Simulation) (stimulus : Stimulus)
      (minds : simulation.Minds timeout bid simulation.reports)
      (steady : simulation.IsSteady simulation.reports)
      (takes : Takes stimulus simulation.reports simulation.reports)
      (later : (simulation.stimulate stimulus).IsSteady (simulation.stimulate stimulus).reports) :
      MindsFrom timeout bid simulation (simulation.stimulate stimulus).reports
        (simulation.stimulate stimulus) := by
    have same : (simulation.stimulate stimulus).reports = simulation.reports :=
      inbox_of_hear _ _ _
    rw [same] at later ⊢
    exact minds.stimulate steady takes later
  have pings (later : simulation.firePing.IsSteady simulation.firePing.reports) :
      MindsFrom timeout bid simulation simulation.firePing.reports simulation.firePing :=
    told simulation.allocate.2 (.ping simulation.allocate.1)
      ⟨minds.fits, minds.governs.congr rfl rfl Iff.rfl, ⟨minds.lined.once, minds.lined.waiting⟩,
        minds.told, minds.ends⟩
      ⟨steady.sound, steady.wired, steady.coherent, steady.timely⟩ rfl later
  unfold Simulation.fireTimer at later ⊢
  split at later
  · next rings =>
      rw [if_pos rings]
      exact told simulation .alarm minds steady rfl later
  · next quiet =>
      rw [if_neg quiet]
      split at later
      · next attempt here =>
          split at later
          · next come =>
              rw [if_pos come]
              have waits : simulation.attemptDue? = attempt.stage.due? := by
                rw [attemptDue?, here]
                rfl
              rw [waits] at come
              cases due : attempt.stage.due? with
              | none =>
                  rw [due] at come
                  cases come
              | some time =>
                  rw [due] at come
                  exact minds.proceed
                    (fun running => ((steady.wired.live running).of_attempt here).2) here due
                    (of_decide_eq_true come)
          · next early =>
              rw [if_neg early]
              exact pings later
      · exact pings later

theorem runTask (minds : simulation.Minds timeout bid simulation.reports)
    (steady : simulation.IsSteady simulation.reports)
    (limit : simulation.settings.connectTimeout.toNat = timeout) {task : Task} {tasks : List Task}
    (first : simulation.tasks = task :: tasks) :
    MindsFrom timeout bid simulation ({ simulation with tasks }.runTask task).reports
      ({ simulation with tasks }.runTask task) := by
  have popped (engine : task ≠ .engine) (dial : task ≠ .dial) :
      simulation.Spares { simulation with tasks } := by
    refine ⟨rfl, rfl, rfl, ⟨[], (List.append_nil _).symm, List.forall_mem_nil _⟩, fun lined =>
      ⟨?_, fun some => ?_⟩, ?_, ⟨[], (List.append_nil _).symm, List.forall_mem_nil _⟩⟩
    · have once := lined.once
      rw [first] at once
      exact (List.nodup_cons.mp once).2
    · have waiting := lined.waiting some
      rw [first] at waiting
      exact (List.mem_cons.mp waiting).resolve_left engine.symm
    · rw [first]
      exact ⟨List.mem_cons_of_mem task, fun member =>
        (List.mem_cons.mp member).resolve_left dial.symm⟩
  cases task with
  | engine => exact minds.takeReports steady first
  | dial =>
      obtain ⟨generation, called, sights, last, seen, goes, minded⟩ :=
        minds.dial steady limit first
      subst called
      exact ⟨_, last, seen, .begin _ goes, minded⟩
  | reader number =>
      exact minds.of_spares ((popped nofun nofun).trans (Spares.runReader number _))
  | writer number =>
      exact minds.of_spares ((popped nofun nofun).trans (Spares.runWriter number _))
  | awaiter ticket outcome =>
      let learned : Simulation :=
        { simulation with tasks, awaited := simulation.awaited.erase ticket }
      have taken : simulation.Spares learned :=
        (popped nofun nofun).trans (.of_same rfl rfl rfl rfl rfl rfl)
      exact minds.of_spares (taken.trans
        (Spares.see learned (.result simulation.now ticket (.outcome outcome)) rfl))

/-- What a step does, the bid makes of it. -/
theorem step? (minds : simulation.Minds timeout bid simulation.reports)
    (steady : simulation.IsSteady simulation.reports)
    (limit : simulation.settings.connectTimeout.toNat = timeout) {horizon : Time}
    (stepped : simulation.step? horizon = some after) :
    MindsFrom timeout bid simulation after.reports after := by
  unfold Simulation.step? at stepped
  split at stepped
  · next command rest waiting =>
      cases stepped
      exact minds.serve steady waiting
  · next task rest _ first =>
      cases stepped
      exact minds.runTask steady limit first
  · next _ empty =>
      split at stepped
      · cases stepped
      · next time next =>
          split at stepped
          · cases stepped
            let waited : Simulation := { simulation with now := max simulation.now time }
            have advances : simulation.Advances waited := by
              refine steady.wait fun entry member => ?_
              obtain ⟨first, found, le⟩ := nextTimer?_le_deadline steady.timely.armed member
              cases next.symm.trans found
              exact Nat.max_le.mpr ⟨steady.timely.ahead entry member, le⟩
            have minded : waited.Minds timeout bid waited.reports := by
              refine minds.wait empty fun due waits => ?_
              obtain ⟨first, found, le⟩ := nextTimer?_le_attemptDue waits
              cases next.symm.trans found
              exact Nat.max_le.mpr ⟨minds.le_attemptDue waits, le⟩
            exact minded.fireTimer (steady.advance advances) next (Nat.le_max_right _ _)
          · cases stepped

end Minds

/-! What the handle and the peer do has nothing to do with attempts. -/

namespace Spares

theorem withConnection {connection : Connection}
    (shown : ∃ board, connection.engine = { simulation.connection.engine with board }) :
    simulation.Spares (simulation.withConnection connection) := by
  obtain ⟨board, engine⟩ := shown
  refine of_same rfl rfl ?_ rfl rfl rfl
  change Bid.Fits.outline connection.engine = _
  rw [engine]
  rfl

theorem throughHandle {act : Simulation → Answer × Simulation}
    (acts : simulation.Spares (act simulation).2) :
    simulation.Spares (simulation.throughHandle act).2 := by
  unfold Simulation.throughHandle
  split
  · exact acts
  · exact refl simulation

theorem request (simulation : Simulation) (ticket : Nat) (packet : Wire.Packet) :
    simulation.Spares (simulation.request ticket packet) := by
  unfold Simulation.request
  dsimp only
  split
  · exact (withConnection (submit_shown _ _ _)).trans (of_same rfl rfl rfl rfl rfl rfl)
  · exact see simulation (.result simulation.now ticket (.refused .shuttingDown)) rfl

theorem byPeer (simulation : Simulation) (socket : Option Nat) {sight : Nat → Sight}
    (quiet : ∀ number, (sight number).isBidding = false) (change : Socket → Socket) :
    simulation.Spares (simulation.byPeer socket sight change).2 := by
  unfold Simulation.byPeer
  split
  · exact refl simulation
  · next found _ =>
      split
      · have changed : simulation.Spares (simulation.onSocket found.number change) :=
          of_same rfl rfl rfl rfl rfl rfl
        exact (changed.trans (see _ (sight found.number) (quiet found.number))).trans
          (wake _ (.reader found.number) nofun)
      · exact refl simulation

/-- No operation but to let time pass has to do with attempts. -/
theorem act (simulation : Simulation) {operation : Operation}
    (still : ∀ span, operation ≠ .elapse span) :
    simulation.Spares (simulation.act operation).2 := by
  have submits (packet : Wire.Packet) (ticket : Option Nat) :
      simulation.Spares (simulation.submit packet ticket).2 :=
    withConnection (submit_shown _ _ _)
  cases operation with
  | write ticket packet => exact throughHandle (submits packet (some ticket))
  | send packet => exact throughHandle (submits packet none)
  | request ticket packet => exact throughHandle (request simulation ticket packet)
  | shutdown => exact throughHandle (withConnection (shutdown_shown _))
  | gentleShutdown => exact throughHandle (withConnection (gentleShutdown_shown _))
  | reconnect => exact throughHandle (withConnection (post_shown _ .reconnect))
  | disablePing => exact throughHandle (withConnection (post_shown _ .disablePing))
  | drop =>
      exact throughHandle ((withConnection (shutdown_shown _)).trans
        (of_same rfl rfl rfl rfl rfl rfl))
  | describe => exact throughHandle (refl simulation)
  | elapse span => exact absurd rfl (still span)
  | peerSend socket pieces => exact byPeer simulation socket (fun _ => rfl) _
  | peerClose socket => exact byPeer simulation socket (fun _ => rfl) _
  | unblock socket =>
      change simulation.Spares (simulation.release socket).2
      unfold Simulation.release
      split
      · exact refl simulation
      · next found _ =>
          split
          · have released : simulation.Spares
                (simulation.onSocket found.number Socket.release) :=
              of_same rfl rfl rfl rfl rfl rfl
            exact released.trans (wake _ (.writer found.number) nofun)
          · exact refl simulation
  | prepare socket script =>
      change simulation.Spares (simulation.prepare socket script).2
      unfold Simulation.prepare
      split
      · exact refl simulation
      · exact of_same rfl rfl rfl rfl rfl rfl
  | plan plans => exact of_same rfl rfl rfl rfl rfl rfl
  | nothing => exact refl simulation

end Spares

namespace Minds

variable {settings : Settings}

theorem run (minds : simulation.Minds settings.connectTimeout.toNat bid simulation.reports)
    (arises : simulation.Arises settings simulation.reports) (horizon : Time) (fuel : Nat) :
    MindsFrom settings.connectTimeout.toNat bid simulation (simulation.run horizon fuel).reports
      (simulation.run horizon fuel) := by
  induction fuel generalizing simulation bid with
  | zero => exact minds.refl
  | succ fuel ih =>
      unfold Simulation.run
      split
      · exact minds.refl
      · next next stepped =>
          have one := minds.step? arises.steady (by rw [arises.settings_eq]) stepped
          exact one.trans fun bid minds =>
            ih minds (arises.advance (arises.steady.step? stepped))

theorem elapse (minds : simulation.Minds settings.connectTimeout.toNat bid simulation.reports)
    (arises : simulation.Arises settings simulation.reports) (span : Time) :
    MindsFrom settings.connectTimeout.toNat bid simulation (simulation.elapse span).reports
      (simulation.elapse span) := by
  have ran := minds.run arises (simulation.now + span) stepLimit
  unfold Simulation.elapse
  dsimp only
  split
  · next rests =>
      refine ran.trans fun bid minds => ⟨[], bid, (List.append_nil _).symm, .done bid, ?_⟩
      obtain ⟨-, empty, timers⟩ := of_isAtRest rests
      refine minds.wait empty fun time waits => ?_
      obtain ⟨first, found, le⟩ := nextTimer?_le_attemptDue waits
      exact Nat.le_trans (Nat.le_of_lt (timers first found)) le
  · exact ran

theorem next (minds : simulation.Minds settings.connectTimeout.toNat bid simulation.reports)
    (arises : simulation.Arises settings simulation.reports) (doing : Doing) :
    MindsFrom settings.connectTimeout.toNat bid simulation (simulation.next doing).reports
      (simulation.next doing) := by
  cases doing with
  | operate operation =>
      change MindsFrom _ bid simulation (simulation.act operation).2.reports
        (simulation.act operation).2
      by_cases passes : ∃ span, operation = .elapse span
      · obtain ⟨span, rfl⟩ := passes
        exact minds.elapse arises span
      · exact minds.of_spares (Spares.act simulation fun span same => passes ⟨span, same⟩)
  | step horizon =>
      unfold Simulation.next
      dsimp only
      cases stepped : simulation.step? horizon with
      | none => exact minds.refl
      | some after => exact minds.step? arises.steady (by rw [arises.settings_eq]) stepped

/-- Along every schedule, a simulation goes on as the bids of its engine make it go. -/
theorem along (minds : simulation.Minds settings.connectTimeout.toNat bid simulation.reports)
    (arises : simulation.Arises settings simulation.reports) (sound : simulation.IsSound)
    (schedule : List Doing) :
    MindsFrom settings.connectTimeout.toNat bid simulation (simulation.after schedule).reports
      (simulation.after schedule) := by
  induction schedule generalizing simulation bid with
  | nil => exact minds.refl
  | cons doing rest ih =>
      have advances := arises.steady.next sound doing
      exact (minds.next arises doing).trans fun bid minds =>
        ih minds (arises.advance advances) (advances.toFollows.isSound sound)

theorem start (endpoint : Endpoint) (settings : Settings) (source : SyncSource)
    (plans : List Plan) (fallback : Plan) (timeout : Time) :
    (Simulation.start endpoint settings source plans fallback).Minds timeout (.idle 0) [] :=
  ⟨.start settings, ⟨rfl, List.not_mem_nil⟩, ⟨List.nodup_nil, fun some => absurd rfl some⟩,
    fun _ => List.forall_mem_nil _, fun _ _ _ _ => nofun⟩

end Minds

end Simulation

end RequestMux.Network
