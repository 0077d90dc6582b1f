import RequestMux.Proofs.Network.Serving

/-!
# The wait for a socket

With the first letter a connection calls for an attempt, and for another one whenever one fails.
The plans tell when the first one succeeds.  Until then letters wait in the queue, and no deadline
comes as long as the socket is there before the first of them.
-/

namespace RequestMux.Network

open Client (Connection Effect Engine Letter Reaction Report Time)

/-- The first of the plans that succeeds, and the time from the first call to its success. -/
def Plan.firstSuccess? (timeout : Time) (fallback : Plan) : List Plan → Option (Time × Plan)
  | [] =>
    if (fallback.failure? timeout).isSome then none else some (fallback.delay, fallback)
  | plan :: rest =>
    if (plan.failure? timeout).isSome then
      (firstSuccess? timeout fallback rest).map fun found => (timeout + found.1, found.2)
    else some (plan.delay, plan)

/-- The next plan succeeds, or it fails and the success is a timeout further away. -/
theorem Plan.firstSuccess?_cases {timeout wait : Time} {fallback plan : Plan} {plans : List Plan}
    (found : firstSuccess? timeout fallback plans = some (wait, plan)) :
    let next := plans.head?.getD fallback
    (next.failure? timeout = none ∧ next = plan ∧ wait = plan.delay) ∨
      ∃ failure left, next.failure? timeout = some failure ∧ wait = timeout + left ∧
        firstSuccess? timeout fallback plans.tail = some (left, plan) ∧
        plans.length = plans.tail.length + 1 := by
  cases plans with
  | nil =>
      rw [firstSuccess?] at found
      cases fails : fallback.failure? timeout with
      | none =>
          rw [fails] at found
          cases found
          exact .inl ⟨fails, rfl, rfl⟩
      | some failure =>
          rw [fails] at found
          cases found
  | cons next rest =>
      rw [firstSuccess?] at found
      cases fails : next.failure? timeout with
      | none =>
          rw [fails] at found
          cases found
          exact .inl ⟨fails, rfl, rfl⟩
      | some failure =>
          rw [fails, if_pos Option.isSome_some] at found
          obtain ⟨⟨left, last⟩, later, same⟩ := Option.map_eq_some_iff.mp found
          cases same
          exact .inr ⟨failure, left, fails, rfl, later, rfl⟩

namespace Simulation

variable {simulation before after : Simulation} {settings : Settings} {limit : UInt32}
  {timeout arrival now : Time} {plan : Plan} {weight : Nat}

theorem report_free (running : simulation.connection.engine.life = .running)
    (free : simulation.tasks = []) (generation : Nat) (report : Report) :
    simulation.report generation report = { simulation with
      reports := simulation.reports ++ [(generation, report)], tasks := [.engine] } := by
  refine (reports_eq (List.cons_ne_nil report []) running generation).trans ?_
  simp only [wake, free, List.not_mem_nil, if_false, List.nil_append]
  rfl

/-- How the attempts stand while the socket with this plan is to arrive at a given time.  The
weight bounds the steps that the attempts still take. -/
inductive Awaits (timeout arrival : Time) (limit : UInt32) (plan : Plan) :
    Nat → Simulation → Prop where
  /-- The next attempt is called for. -/
  | called {simulation : Simulation} {wait : Time}
      {count : Nat}
      (attempt : simulation.attempt = some ⟨0, .unstarted⟩) (tasks : simulation.tasks = [.dial])
      (reports : simulation.reports = [])
      (found : Plan.firstSuccess? timeout simulation.fallback simulation.plans =
        some (wait, plan))
      (left : simulation.plans.length = count) (punctual : simulation.now + wait = arrival) :
      Awaits timeout arrival limit plan (5 * count + 9) simulation
  /-- The attempt will be accepted, and its socket can be set up. -/
  | succeeding {simulation : Simulation} {reportAt : Time}
      (attempt : simulation.attempt = some ⟨0, .accepting arrival plan reportAt⟩)
      (tasks : simulation.tasks = []) (reports : simulation.reports = [])
      (sound : plan.setupFailure = none) (ahead : simulation.now ≤ arrival) :
      Awaits timeout arrival limit plan 8 simulation
  /-- The attempt will be accepted, but its socket cannot be set up. -/
  | unsound {simulation : Simulation} {time reportAt wait : Time} {other : Plan}
      {failure : IoFailure} {count : Nat}
      (attempt : simulation.attempt = some ⟨0, .accepting time other reportAt⟩)
      (tasks : simulation.tasks = []) (reports : simulation.reports = [])
      (fails : other.setupFailure = some failure) (early : time ≤ reportAt)
      (ahead : simulation.now ≤ time)
      (found : Plan.firstSuccess? timeout simulation.fallback simulation.plans =
        some (wait, plan))
      (left : simulation.plans.length = count) (punctual : reportAt + wait = arrival) :
      Awaits timeout arrival limit plan (5 * count + 12) simulation
  /-- The attempt will fail. -/
  | failing {simulation : Simulation} {time wait : Time} {failure : IoFailure}
      {count : Nat}
      (attempt : simulation.attempt = some ⟨0, .failing time failure⟩)
      (tasks : simulation.tasks = []) (reports : simulation.reports = [])
      (ahead : simulation.now ≤ time)
      (found : Plan.firstSuccess? timeout simulation.fallback simulation.plans =
        some (wait, plan))
      (left : simulation.plans.length = count) (punctual : time + wait = arrival) :
      Awaits timeout arrival limit plan (5 * count + 11) simulation
  /-- The attempt has failed. -/
  | failed {simulation : Simulation} {wait : Time} {failure : IoFailure}
      {count : Nat}
      (attempt : simulation.attempt = none) (tasks : simulation.tasks = [.engine])
      (reports : simulation.reports = [(0, .connectFailed failure)])
      (found : Plan.firstSuccess? timeout simulation.fallback simulation.plans =
        some (wait, plan))
      (left : simulation.plans.length = count) (punctual : simulation.now + wait = arrival) :
      Awaits timeout arrival limit plan (5 * count + 10) simulation
  /-- The socket is there. -/
  | arrived {simulation : Simulation} {number : Nat} (attempt : simulation.attempt = none)
      (tasks : simulation.tasks = [.engine])
      (reports : simulation.reports = [(0, .connected number)])
      (there : simulation.sockets[number]? =
        some (.fresh number 0 limit plan.echo plan.script)) :
      Awaits timeout arrival limit plan 4 simulation

namespace Awaits

/-- Attempts do not depend on the connection. -/
theorem aside (awaits : Awaits timeout arrival limit plan weight simulation)
    (connection : Connection) (seen : List Sight) :
    Awaits timeout arrival limit plan weight { simulation with connection, seen } := by
  cases awaits with
  | called attempt tasks reports found left punctual =>
      exact .called attempt tasks reports found left punctual
  | succeeding attempt tasks reports sound ahead =>
      exact .succeeding attempt tasks reports sound ahead
  | unsound attempt tasks reports fails early ahead found left punctual =>
      exact .unsound attempt tasks reports fails early ahead found left punctual
  | failing attempt tasks reports ahead found left punctual =>
      exact .failing attempt tasks reports ahead found left punctual
  | failed attempt tasks reports found left punctual =>
      exact .failed attempt tasks reports found left punctual
  | arrived attempt tasks reports there => exact .arrived attempt tasks reports there

/-- An attempt whose time has come goes on. -/
theorem proceed (awaits : Awaits timeout arrival limit plan weight simulation)
    (admits : simulation.settings.maxPayload = limit)
    (running : simulation.connection.engine.life = .running) {attempt : Attempt} {due : Time}
    (there : simulation.attempt = some attempt) (time : attempt.stage.due? = some due)
    (reached : due ≤ simulation.now) :
    let after := simulation.proceed attempt
    simulation.Bystands after ∧ after.connection = simulation.connection ∧
      after.now = simulation.now ∧ ∃ less, less < weight ∧
        Awaits timeout arrival limit plan less after := by
  subst admits
  intro after
  have awake : simulation.isRunning = true := by
    rw [isRunning, running]
    rfl
  cases awaits with
  | called same tasks reports found left punctual =>
      cases there.symm.trans same
      cases time
  | @succeeding _ reportAt same tasks reports sound ahead =>
      cases there.symm.trans same
      let number := simulation.sockets.length
      let socket := Socket.fresh number 0 simulation.settings.maxPayload plan.echo plan.script
      let noted := simulation.see (.accepted number simulation.settings.nodelay)
      let settled : Simulation := { noted with
        sockets := simulation.sockets ++ [socket], attempt := none }
      have quiet : simulation.Bystands noted := .see rfl rfl _
      have done : after = { settled with
          reports := [(0, .connected number)], tasks := [.engine] } := by
        change simulation.acceptSocket 0 plan reportAt = _
        rw [acceptSocket, sound]
        change (if settled.isRunning then settled.report 0 (.connected number) else _) = _
        have empty : settled.reports = [] := reports
        have free : settled.tasks = [] := tasks
        have life : settled.connection.engine.life = .running := running
        rw [if_pos (show settled.isRunning = true from awake), report_free life free, empty]
        rfl
      rw [done]
      exact ⟨⟨rfl, rfl, quiet.news⟩, rfl, rfl, 4, by decide,
        .arrived rfl rfl rfl List.getElem?_concat_length⟩
  | @unsound _ time reportAt wait other failure count same tasks reports fails early ahead found
      left punctual =>
      cases there.symm.trans same
      cases time
      let number := simulation.sockets.length
      let socket := Socket.fresh number 0 simulation.settings.maxPayload other.echo other.script
      let noted := simulation.see (.accepted number simulation.settings.nodelay)
      let accepted : Simulation := { noted with sockets := simulation.sockets ++ [socket] }
      have quiet : simulation.Bystands noted := .see rfl rfl _
      have shut : (accepted.close number).news = accepted.news := news_see rfl rfl _
      have done : after = { accepted.close number with
          attempt := some ⟨0, .failing reportAt failure⟩ } := by
        change simulation.acceptSocket 0 other reportAt = _
        rw [acceptSocket, fails]
        rfl
      have free : (accepted.close number).tasks = [] := by
        change simulation.tasks.filter _ = []
        rw [tasks]
        rfl
      rw [done]
      exact ⟨⟨rfl, rfl, shut.trans quiet.news⟩, rfl, rfl, _, by omega,
        .failing rfl free reports (Nat.le_trans ahead early) found left punctual⟩
  | @failing _ time wait failure count same tasks reports ahead found left punctual =>
      cases there.symm.trans same
      cases time
      let ended : Simulation := { simulation with attempt := none }
      have done : after = { ended with
          reports := [(0, .connectFailed failure)], tasks := [.engine] } := by
        change ended.report 0 (.connectFailed failure) = _
        have empty : ended.reports = [] := reports
        have free : ended.tasks = [] := tasks
        have life : ended.connection.engine.life = .running := running
        rw [report_free life free, empty]
        rfl
      rw [done]
      refine ⟨⟨rfl, rfl, rfl⟩, rfl, rfl, _, by omega, .failed rfl rfl rfl found left ?_⟩
      rw [← punctual, ← Nat.le_antisymm ahead reached]
  | failed none tasks reports found left punctual => cases there.symm.trans none
  | arrived none tasks reports there' => cases there.symm.trans none

/-- Time may pass until the attempt goes on. -/
theorem elapse (awaits : Awaits timeout arrival limit plan weight simulation)
    {attempt : Attempt} {due : Time} (there : simulation.attempt = some attempt)
    (time : attempt.stage.due? = some due) :
    due ≤ arrival ∧ simulation.now ≤ due ∧ ∀ now ≤ due,
      Awaits timeout arrival limit plan weight { simulation with now } := by
  cases awaits with
  | called same tasks reports found left punctual =>
      cases there.symm.trans same
      cases time
  | succeeding same tasks reports sound ahead =>
      cases there.symm.trans same
      cases time
      exact ⟨Nat.le_refl _, ahead, fun _ waits => .succeeding same tasks reports sound waits⟩
  | unsound same tasks reports fails early ahead found left punctual =>
      cases there.symm.trans same
      cases time
      exact ⟨Nat.le_trans early (punctual ▸ Nat.le_add_right _ _), ahead, fun _ waits =>
        .unsound same tasks reports fails early waits found left punctual⟩
  | failing same tasks reports ahead found left punctual =>
      cases there.symm.trans same
      cases time
      exact ⟨punctual ▸ Nat.le_add_right _ _, ahead, fun _ waits =>
        .failing same tasks reports waits found left punctual⟩
  | failed none tasks reports found left punctual => cases there.symm.trans none
  | arrived none tasks reports socket => cases there.symm.trans none

/-- With nothing else to do, there is an attempt under way. -/
theorem underWay (awaits : Awaits timeout arrival limit plan weight simulation)
    (free : simulation.tasks = []) : ∃ attempt due, simulation.attempt = some attempt ∧
      attempt.stage.due? = some due := by
  cases awaits with
  | called attempt tasks => cases tasks.symm.trans free
  | succeeding attempt => exact ⟨_, _, attempt, rfl⟩
  | unsound attempt => exact ⟨_, _, attempt, rfl⟩
  | failing attempt => exact ⟨_, _, attempt, rfl⟩
  | failed attempt tasks => cases tasks.symm.trans free
  | arrived attempt tasks => cases tasks.symm.trans free

/-- An attempt that has begun waits for its success, or for its failure and the next call. -/
theorem commence {wait : Time} {count : Nat}
    (paced : simulation.settings.connectTimeout.toNat = timeout) (tasks : simulation.tasks = [])
    (reports : simulation.reports = [])
    (found : Plan.firstSuccess? timeout simulation.fallback simulation.plans = some (wait, plan))
    (left : simulation.plans.length = count) (punctual : simulation.now + wait = arrival) :
    ∃ less, less < 5 * count + 9 ∧
      Awaits timeout arrival limit plan less (simulation.commence 0) := by
  subst paced
  let timeout := simulation.settings.connectTimeout.toNat
  let next := simulation.plans.head?.getD simulation.fallback
  have reaches := next.reaches_begin timeout simulation.now
  have stands : (simulation.commence 0).attempt = some ⟨0, next.begin simulation.now timeout⟩ :=
    rfl
  rcases Plan.firstSuccess?_cases found with
    ⟨succeeds, same, rfl⟩ | ⟨failure, later, fails, rfl, further, fewer⟩
  · have sound : plan.failure? timeout = none := same ▸ succeeds
    change next = plan at same
    rw [same] at reaches stands
    generalize plan.begin simulation.now timeout = stage at reaches stands
    cases reaches with
    | accepting accepts early ahead =>
        rw [punctual] at stands ahead
        exact ⟨8, by omega, .succeeding stands tasks reports
          ((Plan.failure?_of_accept accepts early).symm.trans sound) ahead⟩
    | failing fails ahead => cases sound.symm.trans fails
  · change next.failure? timeout = some failure at fails
    have close : simulation.now + timeout + later = arrival :=
      (Nat.add_assoc _ _ _).trans punctual
    have tail : (simulation.commence 0).plans.length = simulation.plans.tail.length := rfl
    generalize next.begin simulation.now timeout = stage at reaches stands
    cases reaches with
    | accepting accepts early ahead =>
        exact ⟨_, by omega, .unsound stands tasks reports
          ((Plan.failure?_of_accept accepts early).symm.trans fails)
          (Nat.add_le_add_left early _) ahead further tail close⟩
    | failing fails ahead =>
        exact ⟨_, by omega, .failing stands tasks reports ahead further tail close⟩

/-- An attempt that was called for begins. -/
theorem dial {wait : Time} {count : Nat} (admits : simulation.settings.maxPayload = limit)
    (paced : simulation.settings.connectTimeout.toNat = timeout)
    (running : simulation.connection.engine.life = .running)
    (attempt : simulation.attempt = some ⟨0, .unstarted⟩) (tasks : simulation.tasks = [])
    (reports : simulation.reports = [])
    (found : Plan.firstSuccess? timeout simulation.fallback simulation.plans = some (wait, plan))
    (left : simulation.plans.length = count) (punctual : simulation.now + wait = arrival) :
    let after := simulation.dial
    simulation.Bystands after ∧ after.connection = simulation.connection ∧
      after.now = simulation.now ∧ ∃ less, less < 5 * count + 9 ∧
        Awaits timeout arrival limit plan less after := by
  intro after
  have quiet : simulation.Bystands (simulation.commence 0) :=
    ⟨rfl, rfl, (Bystands.see rfl rfl simulation :
      simulation.Bystands (simulation.see (.attempt simulation.now simulation.attempts))).news⟩
  obtain ⟨less, cheaper, awaits⟩ := commence paced tasks reports found left punctual
  rcases dial_cases attempt with same | ⟨next, time, there, due, reached, same⟩
  · rw [show after = _ from same]
    exact ⟨quiet, rfl, rfl, less, cheaper, awaits⟩
  · obtain ⟨later, connection, now, fewer, smaller, further⟩ :=
      awaits.proceed admits running there due reached
    rw [show after = _ from same]
    exact ⟨quiet.trans later, connection, now, fewer, Nat.lt_trans smaller cheaper, further⟩

end Awaits

/-- The next attempt is called for. -/
theorem perform_dialed_free (free : simulation.tasks = []) :
    simulation.perform (.dialed 0) =
      { simulation.see (.engine simulation.now (.dialed 0)) with
        attempt := some ⟨0, .unstarted⟩, tasks := [.dial] } := by
  simp only [perform, obey, see, wake, free, List.not_mem_nil, if_false, List.nil_append]

/-- The engine runs because of one report. -/
theorem takeReports_one {entry : Nat × Report} (reports : simulation.reports = [entry]) :
    ({ simulation with tasks := [] } : Simulation).takeReports =
      ({ simulation with tasks := [], reports := [] } : Simulation).stimulate
        (.report entry.1 entry.2) := by
  rw [takeReports, reports]
  rfl

/-- A connection without a socket has called for an attempt.  The socket with this plan is to arrive
at a given time, before the deadline of any letter. -/
structure IsCalling (settings : Settings) (span : Time) (plan : Plan) (arrival : Time)
    (weight : Nat) (letters posted : List Letter) (simulation : Simulation) : Prop where
  conveys : simulation.Conveys settings [] letters letters posted
  stand : simulation.connection.engine.stand = (.connecting, none, none)
  near : arrival ≤ simulation.now + span
  ahead : ∀ entry ∈ simulation.connection.engine.pending.entries, arrival < entry.deadline
  awaits : simulation.Awaits settings.connectTimeout.toNat arrival settings.maxPayload plan weight

namespace IsCalling

variable {span : Time} {letters posted : List Letter}

/-- The connection stands as it did, and an attempt goes on. -/
theorem go (calling : simulation.IsCalling settings span plan arrival weight letters posted)
    (bystands : simulation.Bystands after) (connection : after.connection = simulation.connection)
    (now : simulation.now ≤ after.now) {less : Nat}
    (awaits : after.Awaits settings.connectTimeout.toNat arrival settings.maxPayload plan less) :
    after.IsCalling settings span plan arrival less letters posted where
  conveys := calling.conveys.bystand bystands connection
  stand := by rw [connection]; exact calling.stand
  near := Nat.le_trans calling.near (Nat.add_le_add_right now span)
  ahead := by rw [connection]; exact calling.ahead
  awaits := awaits

theorem settings_eq
    (calling : simulation.IsCalling settings span plan arrival weight letters posted) :
    simulation.settings = settings := calling.conveys.engine.settings

/-- The engine calls for an attempt. -/
theorem of_called {base : Simulation} {told others line : List Letter} {mute : List Effect}
    {wait : Time} {count : Nat} (conveys : simulation.Conveys settings [] told others line)
    (bystands : simulation.Bystands base)
    (mailbox : base.connection.mailbox = posted.map Letter.command)
    (has : base.connection.engine.HasOpen settings letters letters
      (letters.length + posted.length))
    (stand : base.connection.engine.stand = (.connecting, none, none))
    (near : arrival ≤ base.now + span)
    (ahead : ∀ entry ∈ base.connection.engine.pending.entries, arrival < entry.deadline)
    (free : base.tasks = []) (reports : base.reports = [])
    (found : Plan.firstSuccess? settings.connectTimeout.toNat base.fallback base.plans =
      some (wait, plan))
    (left : base.plans.length = count) (punctual : base.now + wait = arrival)
    (silent : ∀ effect ∈ mute, effect.isMute = true) :
    ((mute ++ [Effect.dialed 0]).foldl perform base).IsCalling settings span plan arrival
      (5 * count + 9) letters posted := by
  obtain ⟨seen, performed, quiet⟩ := performs_mute silent base
  rw [List.foldl_append, performed]
  have last : (see (.engine base.now (.dialed 0)) { base with seen }).news =
    ({ base with seen } : Simulation).news := news_see rfl rfl _
  have still : ({ base with seen } : Simulation).tasks = [] := free
  rw [List.foldl_cons, List.foldl_nil, perform_dialed_free still]
  exact ⟨⟨bystands.handled.trans conveys.handled, bystands.awaited.trans conveys.unawaited,
    last.trans (quiet.news.trans (bystands.news.trans conveys.news)), mailbox, has⟩, stand, near,
    ahead, .called rfl rfl reports found left punctual⟩

/-- Another letter waits in the queue. -/
theorem serve {letter : Letter} {rest : List Letter}
    (calling : simulation.IsCalling settings span plan arrival weight letters (letter :: rest))
    (possible : settings.effectiveReadTimeout.toNat ≤ Client.longestDelay)
    (prompt : span < settings.effectiveReadTimeout.toNat)
    (free : letter.sync ∉ letters.map Letter.sync) :
    (simulation.serve letter.command).IsCalling settings span plan arrival weight
      (letters ++ [letter]) rest := by
  have conveys := calling.conveys
  obtain ⟨entered, entry, write, stepped, has, stand, deadlines⟩ :=
    conveys.engine.write possible free simulation.now
  have connecting : entered.phase = .connecting :=
    congrArg Prod.fst (stand.trans calling.stand)
  let mute : List Effect := [.registered entry, .enqueued write]
  let base : Simulation := { simulation.hear (.command letter.command) with
    connection := { simulation.connection with
      engine := entered, mailbox := rest.map Letter.command } }
  have reacted : simulation.connection.engine.step simulation.now (.command letter.command) =
      (entered, mute) := by
    rw [stepped, Reaction.andThen, Engine.dispatch, connecting, List.append_nil]
  have silent : ∀ effect ∈ mute, effect.isMute = true := by
    simp [mute, Effect.isMute]
  obtain ⟨seen, performed, quiet⟩ := performs_mute silent base
  have done : simulation.serve letter.command = { base with seen } :=
    (serve_eq conveys.mailbox reacted has.running).trans performed
  have bystands : simulation.Bystands { base with seen } :=
    ⟨rfl, rfl, quiet.news.trans (Bystands.see rfl rfl simulation).news⟩
  rw [done]
  refine ⟨conveys.take bystands rfl ?_, stand.trans calling.stand, calling.near,
    fun other member => ?_, calling.awaits.aside _ _⟩
  · have counted : letters.length + (letter :: rest).length =
        (letters ++ [letter]).length + rest.length := by
      simp only [List.length_cons, List.length_append, List.length_nil]
      omega
    exact counted ▸ has
  · rcases deadlines other member with old | new
    · exact calling.ahead other old
    · rw [new]
      exact Nat.lt_of_le_of_lt calling.near (Nat.add_lt_add_left prompt _)

/-- No timer goes off before the attempt goes on. -/
theorem timer (calling : simulation.IsCalling settings span plan arrival weight letters posted)
    (free : simulation.tasks = []) :
    ∃ attempt due, simulation.attempt = some attempt ∧ attempt.stage.due? = some due ∧
      simulation.nextTimer? = some due ∧ due ≤ arrival ∧ simulation.now ≤ due ∧
      (∀ alarm, simulation.connection.engine.pending.nextAlarm? = some alarm → due < alarm.due) ∧
      ∀ now ≤ due, ({ simulation with now } : Simulation).Awaits settings.connectTimeout.toNat
        arrival settings.maxPayload plan weight := by
  have has := calling.conveys.engine
  obtain ⟨attempt, due, there, time⟩ := calling.awaits.underWay free
  obtain ⟨reached, standing, awaits⟩ := calling.awaits.elapse there time
  -- alarms are set for deadlines, and these are behind the arrival
  have quiet : ∀ alarm, simulation.connection.engine.pending.nextAlarm? = some alarm →
      due < alarm.due := by
    intro alarm next
    have member := (Client.Pending.Table.nextAlarm?_eq_some next).1
    rw [has.armed.armed] at member
    obtain ⟨entry, waits, rfl⟩ := List.mem_map.mp member
    exact Nat.lt_of_le_of_lt reached (calling.ahead entry waits)
  refine ⟨attempt, due, there, time, ?_, reached, standing, quiet, awaits⟩
  have attempted : simulation.attemptDue? = some due := by
    rw [attemptDue?, there]
    exact time
  have unpinged : simulation.pingDue? = none := has.unpinged
  rw [nextTimer?, attempted, unpinged, alarmDue?]
  cases next : simulation.connection.engine.pending.nextAlarm? with
  | none => rfl
  | some alarm => exact congrArg some (Nat.min_eq_right (Nat.le_of_lt (quiet alarm next)))

/-- An attempt that is under way goes on when its time has come. -/
theorem fire (calling : simulation.IsCalling settings span plan arrival weight letters posted)
    (free : simulation.tasks = []) :
    ∃ due less, simulation.nextTimer? = some due ∧ due ≤ arrival ∧ less < weight ∧
      ({ simulation with now := max simulation.now due } : Simulation).fireTimer.IsCalling
        settings span plan arrival less letters posted := by
  obtain ⟨attempt, due, there, time, timer, reached, standing, quiet, awaits⟩ := calling.timer free
  let later : Simulation := { simulation with now := due }
  have silent : later.isDue later.alarmDue? = false := by
    have same : later.alarmDue? =
      simulation.connection.engine.pending.nextAlarm?.map Client.Pending.Alarm.due := rfl
    rw [same]
    cases next : simulation.connection.engine.pending.nextAlarm? with
    | none => rfl
    | some alarm => exact decide_eq_false (Nat.not_le_of_lt (quiet alarm next))
  have ready : later.isDue later.attemptDue? = true := by
    have same : later.attemptDue? = some due := by
      rw [attemptDue?, show later.attempt = some attempt from there]
      exact time
    rw [same]
    exact decide_eq_true (Nat.le_refl due)
  obtain ⟨bystands, connection, now, less, fewer, further⟩ :=
    (awaits due (Nat.le_refl due)).proceed (congrArg Settings.maxPayload calling.settings_eq)
      calling.conveys.engine.running there time (Nat.le_refl due)
  have fires : later.fireTimer = later.proceed attempt := by
    have attempts : later.attempt = some attempt := there
    rw [fireTimer, if_neg (silent ▸ Bool.false_ne_true), attempts]
    dsimp only
    rw [if_pos ready]
  refine ⟨due, less, timer, reached, fewer, ?_⟩
  rw [Nat.max_eq_right standing]
  change later.fireTimer.IsCalling _ _ _ _ _ _ _
  rw [fires]
  exact calling.go ⟨bystands.handled, bystands.awaited, bystands.news⟩ connection
    (now ▸ standing) further

/-- An engine that hears of the failure of its attempt calls for the next one. -/
theorem failed (calling : simulation.IsCalling settings span plan arrival weight letters posted)
    {wait : Time} {failure : IoFailure} {count : Nat}
    (reports : simulation.reports = [(0, .connectFailed failure)])
    (found : Plan.firstSuccess? settings.connectTimeout.toNat simulation.fallback simulation.plans =
      some (wait, plan))
    (left : simulation.plans.length = count) (punctual : simulation.now + wait = arrival) :
    ({ simulation with tasks := [] } : Simulation).takeReports.IsCalling settings span plan arrival
      (5 * count + 9) letters posted := by
  have conveys := calling.conveys
  have has := conveys.engine
  obtain ⟨engine, stepped, called, pending, stand⟩ := has.failed failure simulation.now
  let emptied : Simulation := { simulation with tasks := [], reports := [] }
  let told : Simulation := { emptied.hear (.report 0 (.connectFailed failure)) with
    connection := { simulation.connection with engine } }
  let mute : List Effect := [.warned (.connectFailed failure), .noted (.connecting 0)]
  have silent : ∀ effect ∈ mute, effect.isMute = true := by
    simp [mute, Effect.isMute]
  have awake : emptied.connection.engine.life = .running := has.running
  have done : ({ simulation with tasks := [] } : Simulation).takeReports =
      (mute ++ [Effect.dialed 0]).foldl perform told :=
    (takeReports_one reports).trans (stimulate_eq awake stepped called.running)
  have before := calling.stand
  simp only [Engine.stand, Prod.mk.injEq] at before
  rw [before.2.1, before.2.2] at stand
  have bystands : simulation.Bystands told :=
    ⟨rfl, rfl, (Bystands.see rfl rfl emptied :
      emptied.Bystands (emptied.hear (.report 0 (.connectFailed failure)))).news⟩
  rw [done]
  refine of_called conveys bystands conveys.mailbox called stand calling.near ?_ rfl rfl found left
    punctual silent
  change ∀ entry ∈ engine.pending.entries, _
  rw [pending]
  exact calling.ahead

/-- An engine that hears of its socket serves it from then on. -/
theorem arrived (calling : simulation.IsCalling settings span plan arrival weight letters posted)
    (pingless : settings.pingInterval = none) (echoes : plan.echo = true)
    (gentle : plan.script.IsGentle) {number : Nat} (idle : simulation.attempt = none)
    (reports : simulation.reports = [(0, .connected number)])
    (there : simulation.sockets[number]? =
      some (.fresh number 0 settings.maxPayload plan.echo plan.script)) :
    ∃ handed left, letters = handed ++ left ∧
      let after := ({ simulation with tasks := [] } : Simulation).takeReports
      after.IsServing settings number [] ⟨[], [], handed, left⟩ posted ∧
        after.tasks.length ≤ 2 + handed.length := by
  have conveys := calling.conveys
  have stood := calling.stand
  simp only [Engine.stand, Prod.mk.injEq] at stood
  obtain ⟨attached, stepped, has, stand⟩ :=
    conveys.engine.connected pingless stood.2.2 number simulation.now
  simp only [Engine.stand, Prod.mk.injEq] at stand
  obtain ⟨phase, link, inFlight⟩ := stand
  obtain ⟨handed, left, rfl, pumped⟩ := has.pump phase link
  let emptied : Simulation := { simulation with tasks := [], reports := [] }
  let told : Simulation := { emptied.hear (.report 0 (.connected number)) with
    connection := { simulation.connection with engine := attached.pumpWrites.1 } }
  let noted := told.see (.engine simulation.now (.attached number))
  let base : Simulation := { noted with tasks := [.reader number, .writer number] }
  have serving : told.perform (.attached number) = base := by
    simp [perform, obey, wake, see, told, emptied, hear, base, noted]
  let mute : List Effect := [.noted (.connected 0)]
  have awake : emptied.connection.engine.life = .running := conveys.engine.running
  have done : ({ simulation with tasks := [] } : Simulation).takeReports =
      (mute ++ attached.pumpWrites.2).foldl perform base := by
    rw [← serving]
    exact (takeReports_one reports).trans (stimulate_eq awake stepped pumped.hasOpen.running)
  have bystands : simulation.Bystands base := by
    have first : emptied.Bystands (emptied.hear (.report 0 (.connected number))) :=
      .see rfl rfl emptied
    have second : told.Bystands noted := .see rfl rfl told
    exact ⟨rfl, rfl, second.news.trans first.news⟩
  have attends : base.Attends settings.maxPayload number [] [] := by
    refine ⟨idle, ⟨plan.script, gentle, ?_⟩, fun task member => ?_⟩
    · rw [echoes] at there
      exact there
    · exact .inr (by simpa [base] using member)
  have working : attached.inFlight.toList.length =
      ([] : List Letter).length + ([] : List (Option Letter)).count none := by
    rw [inFlight]
    rfl
  have silent : ∀ effect ∈ mute, effect.isMute = true := by
    simp [mute, Effect.isMute]
  obtain ⟨serves, none, rouses⟩ := Serves.of_pumped base [] conveys bystands rfl conveys.mailbox
    attends silent pumped rfl working
  rw [List.nil_append] at serves
  refine ⟨handed, left, rfl, ?_⟩
  dsimp only
  rw [done]
  refine ⟨⟨serves, none, fun some => (some rfl).elim, fun some => (some rfl).elim,
    fun some => ?_⟩, ?_⟩
  · exact rouses.kept _ (by simp [base])
  · have fewer := rouses.fewer
    rw [List.length_map] at fewer
    exact fewer

end IsCalling

end Simulation

end RequestMux.Network
