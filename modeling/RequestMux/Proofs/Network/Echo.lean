import RequestMux.Proofs.Network.Calling
import RequestMux.Proofs.Network.Lockstep

/-!
# Letters come back

Letters are written, one by one or many at once, and the socket that the connection gets sends back
whatever it is sent.  At any moment all of them are in the mailbox, or in the queue while a socket
is awaited, or somewhere on their way through the socket and back, in the order in which they were
written.  Every step carries them on; so there is an end, and then all callers have their packets.
-/

namespace RequestMux.Network

open Client (Effect Engine Letter Reaction Time)

/-- What letters need to come back through a socket with this plan, which is there so long after the
first call for it. -/
structure IsFavourable (settings : Settings) (span : Time) (plan : Plan) : Prop where
  pingless : settings.pingInterval = none
  /-- Alarms can be set. -/
  possible : settings.effectiveReadTimeout.toNat ≤ Client.longestDelay
  /-- The socket is there before the first deadline. -/
  prompt : span < settings.effectiveReadTimeout.toNat
  echoes : plan.echo = true
  gentle : plan.script.IsGentle

/-- The letters can be told apart and are whole frames. -/
structure AreProper (settings : Settings) (letters : List Letter) : Prop where
  distinct : (letters.map Letter.sync).Nodup
  packed : ∀ letter ∈ letters, Field.IsPackedWithin settings.maxPayload letter.packet

namespace Simulation

variable {simulation next : Simulation} {settings : Settings} {span bound : Time} {plan : Plan}
  {letters : List Letter} {cost : Nat}

/-- How all these letters stand, and how many steps they still take, at most.  Their socket arrives
by a given time. -/
inductive Corresponds (settings : Settings) (span bound : Time) (plan : Plan)
    (letters : List Letter) : Nat → Simulation → Prop where
  /-- None has left the mailbox. -/
  | idle {simulation : Simulation} {count : Nat}
      (conveys : simulation.Conveys settings [] [] [] letters)
      (stand : simulation.connection.engine.stand = (.disconnected, none, none))
      (tasks : simulation.tasks = []) (reports : simulation.reports = [])
      (attempt : simulation.attempt = none)
      (found : Plan.firstSuccess? settings.connectTimeout.toNat simulation.fallback
        simulation.plans = some (span, plan))
      (left : simulation.plans.length = count) (within : simulation.now + span ≤ bound) :
      Corresponds settings span bound plan letters (8 * letters.length + 5 * count + 12) simulation
  /-- Some are in the queue, and a socket is awaited. -/
  | calling {simulation : Simulation} {arrival : Time} {weight : Nat} {waiting posted : List Letter}
      (calling : simulation.IsCalling settings span plan arrival weight waiting posted)
      (all : waiting ++ posted = letters) (within : arrival ≤ bound) :
      Corresponds settings span bound plan letters
        (8 * posted.length + 6 * waiting.length + weight) simulation
  /-- The socket is there, and some are on their way through it. -/
  | serving {simulation : Simulation} {number : Nat} {told posted : List Letter}
      {traffic : Traffic} (serving : simulation.IsServing settings number told traffic posted)
      (all : told ++ (traffic.letters ++ posted) = letters) :
      Corresponds settings span bound plan letters (IsServing.cost traffic posted simulation)
        simulation

namespace Corresponds

/-- With the first letter a connection calls for an attempt. -/
theorem opened {letter : Letter} {rest : List Letter} {count : Nat}
    (favourable : IsFavourable settings span plan)
    (conveys : simulation.Conveys settings [] [] [] (letter :: rest))
    (stand : simulation.connection.engine.stand = (.disconnected, none, none))
    (tasks : simulation.tasks = []) (reports : simulation.reports = [])
    (found : Plan.firstSuccess? settings.connectTimeout.toNat simulation.fallback
      simulation.plans = some (span, plan)) (left : simulation.plans.length = count) :
    (simulation.serve letter.command).IsCalling settings span plan (simulation.now + span)
      (5 * count + 9) [letter] rest := by
  obtain ⟨entered, entry, write, stepped, has, stood, deadlines⟩ :=
    conveys.engine.write favourable.possible List.not_mem_nil simulation.now
  have vacant : entered.phase = .disconnected := congrArg Prod.fst (stood.trans stand)
  obtain ⟨engine, dispatched, called, pending, standing⟩ := has.dispatched vacant
  have unlinked := congrArg Prod.snd (stood.trans stand)
  simp only [Engine.stand, Prod.mk.injEq] at unlinked
  rw [unlinked.1, unlinked.2] at standing
  let mute : List Effect := [.registered entry, .enqueued write, .noted (.connecting 0)]
  let base : Simulation := { simulation.hear (.command letter.command) with
    connection := { simulation.connection with engine, mailbox := rest.map Letter.command } }
  have reacted : simulation.connection.engine.step simulation.now (.command letter.command) =
      (engine, mute ++ [.dialed 0]) := by
    rw [stepped, Reaction.andThen, dispatched]
    rfl
  have done : simulation.serve letter.command = (mute ++ [Effect.dialed 0]).foldl perform base :=
    serve_eq conveys.mailbox reacted called.running
  have silent : ∀ effect ∈ mute, effect.isMute = true := by
    simp [mute, Effect.isMute]
  have bystands : simulation.Bystands base :=
    ⟨rfl, rfl, (Bystands.see rfl rfl simulation).news⟩
  have counted : ([] : List Letter).length + (letter :: rest).length =
      ([] ++ [letter]).length + rest.length := by
    simp only [List.length_cons, List.length_append, List.length_nil]
    omega
  rw [done]
  refine IsCalling.of_called conveys bystands rfl (counted ▸ called) standing (Nat.le_refl _) ?_
    tasks reports found left rfl silent
  change ∀ other ∈ engine.pending.entries, _
  rw [pending]
  have none : simulation.connection.engine.pending.entries = [] :=
    List.map_eq_nil_iff.mp conveys.engine.pending
  intro other member
  rcases deadlines other member with old | new
  · rw [none] at old
    exact absurd old List.not_mem_nil
  · rw [new]
    exact Nat.add_lt_add_left favourable.prompt _

/-- A task of a connection that waits for its socket brings the socket nearer. -/
theorem runTask {arrival : Time} {weight : Nat} {waiting posted : List Letter}
    (calling : simulation.IsCalling settings span plan arrival weight waiting posted)
    (favourable : IsFavourable settings span plan) (all : waiting ++ posted = letters)
    (within : arrival ≤ bound) {task : Task} {rest : List Task}
    (line : simulation.tasks = task :: rest) :
    ∃ less, less < 8 * posted.length + 6 * waiting.length + weight ∧
      Corresponds settings span bound plan letters less
        (({ simulation with tasks := rest } : Simulation).runTask task) := by
  have running := calling.conveys.engine.running
  cases calling.awaits with
  | called attempt tasks reports found left punctual =>
      cases tasks.symm.trans line
      let base : Simulation := { simulation with tasks := [] }
      have same : base.settings = settings := calling.settings_eq
      obtain ⟨bystands, connection, now, less, fewer, awaits⟩ :=
        Awaits.dial (congrArg Settings.maxPayload same) (congrArg (·.connectTimeout.toNat) same)
          running attempt rfl reports found left punctual
      have later := calling.go ⟨bystands.handled, bystands.awaited, bystands.news⟩ connection
        (Nat.le_of_eq now.symm) awaits
      exact ⟨_, Nat.add_lt_add_left fewer _, .calling later all within⟩
  | succeeding attempt tasks => cases tasks.symm.trans line
  | unsound attempt tasks => cases tasks.symm.trans line
  | failing attempt tasks => cases tasks.symm.trans line
  | failed attempt tasks reports found left punctual =>
      cases tasks.symm.trans line
      have later := calling.failed reports found left punctual
      exact ⟨_, Nat.add_lt_add_left (Nat.lt_succ_self _) _, .calling later all within⟩
  | arrived attempt tasks reports there =>
      cases tasks.symm.trans line
      obtain ⟨handed, left, rfl, serving, fewer⟩ := calling.arrived favourable.pingless
        favourable.echoes favourable.gentle attempt reports there
      refine ⟨_, ?_, .serving serving all⟩
      simp only [IsServing.cost, Traffic.cost, List.length_nil, List.length_append]
      change _ + _ + (({ simulation with tasks := [] } : Simulation).takeReports).tasks.length < _
      omega

/-- A step carries the letters on. -/
theorem step? (corresponds : Corresponds settings span bound plan letters cost simulation)
    (favourable : IsFavourable settings span plan) (proper : AreProper settings letters)
    {horizon : Time} (stepped : simulation.step? horizon = some next) :
    ∃ less, less < cost ∧ Corresponds settings span bound plan letters less next := by
  cases corresponds with
  | @idle _ count conveys stand tasks reports attempt found left within =>
      unfold Simulation.step? at stepped
      split at stepped
      · next command commands waiting =>
          obtain ⟨letter, rest, rfl, rfl, -⟩ :=
            List.map_eq_cons_iff.mp (conveys.mailbox.symm.trans waiting)
          cases stepped
          have calling := opened favourable conveys stand tasks reports found left
          refine ⟨_, ?_, .calling calling rfl within⟩
          simp only [List.length_cons, List.length_nil]
          omega
      · next task rest unserved line => cases tasks.symm.trans line
      · next unserved free =>
          rw [conveys.untimed attempt] at stepped
          cases stepped
  | @calling _ arrival weight waiting posted calling all within =>
      unfold Simulation.step? at stepped
      split at stepped
      · next command commands unserved =>
          obtain ⟨letter, rest, rfl, rfl, -⟩ :=
            List.map_eq_cons_iff.mp (calling.conveys.mailbox.symm.trans unserved)
          cases stepped
          have free : letter.sync ∉ waiting.map Letter.sync := by
            have distinct := proper.distinct
            rw [← all, List.map_append, List.map_cons] at distinct
            exact fun member =>
              (List.nodup_append.mp distinct).2.2 _ member _ List.mem_cons_self rfl
          have later := calling.serve favourable.possible favourable.prompt free
          refine ⟨_, ?_, .calling later ((List.append_assoc _ _ _).trans all) within⟩
          simp only [List.length_cons, List.length_append, List.length_nil]
          omega
      · next task rest unserved line =>
          cases stepped
          exact runTask calling favourable all within line
      · next unserved free =>
          obtain ⟨due, less, timer, -, fewer, later⟩ := calling.fire free
          rw [timer] at stepped
          dsimp only at stepped
          split at stepped
          · cases stepped
            exact ⟨_, Nat.add_lt_add_left fewer _, .calling later all within⟩
          · cases stepped
  | @serving _ number told posted traffic serving all =>
      have packed : ∀ letter ∈ traffic.letters ++ posted,
          Field.IsPackedWithin settings.maxPayload letter.packet := fun letter member =>
        proper.packed letter (all ▸ List.mem_append_right _ member)
      have distinct : ((traffic.letters ++ posted).map Letter.sync).Nodup := by
        have whole := proper.distinct
        rw [← all, List.map_append] at whole
        exact (List.nodup_append.mp whole).2.1
      obtain ⟨known, later, rest, further, same, cheaper⟩ :=
        serving.step? packed favourable.possible distinct stepped
      exact ⟨_, cheaper, .serving further (same.trans all)⟩

/-- A run carries the letters on, and comes to rest when it is long enough. -/
theorem run (corresponds : Corresponds settings span bound plan letters cost simulation)
    (favourable : IsFavourable settings span plan) (proper : AreProper settings letters)
    (horizon : Time) (fuel : Nat) :
    ∃ less, Corresponds settings span bound plan letters less (simulation.run horizon fuel) ∧
      (cost ≤ fuel → (simulation.run horizon fuel).isAtRest horizon = true) := by
  induction fuel generalizing simulation cost with
  | zero =>
      refine ⟨cost, corresponds, fun enough => ?_⟩
      cases stepped : simulation.step? horizon with
      | none => exact Option.isNone_iff_eq_none.mpr stepped
      | some next =>
          obtain ⟨less, fewer, -⟩ := corresponds.step? favourable proper stepped
          exact absurd (Nat.lt_of_lt_of_le fewer enough) (Nat.not_lt_zero _)
  | succ fuel ih =>
      cases stepped : simulation.step? horizon with
      | none =>
          have stays : simulation.run horizon (fuel + 1) = simulation := by
            rw [Simulation.run, stepped]
          rw [stays]
          exact ⟨cost, corresponds, fun _ => Option.isNone_iff_eq_none.mpr stepped⟩
      | some next =>
          have goes : simulation.run horizon (fuel + 1) = next.run horizon fuel := by
            rw [Simulation.run, stepped]
          obtain ⟨less, fewer, later⟩ := corresponds.step? favourable proper stepped
          obtain ⟨least, last, rests⟩ := ih later
          rw [goes]
          exact ⟨least, last, fun enough => rests (by omega)⟩

/-- So far callers have been told of the first letters, in order. -/
theorem told (corresponds : Corresponds settings span bound plan letters cost simulation) :
    ∃ told, told <+: letters ∧ simulation.news = (told.map returned, []) := by
  cases corresponds with
  | idle conveys => exact ⟨[], List.nil_prefix, conveys.news⟩
  | calling calling => exact ⟨[], List.nil_prefix, calling.conveys.news⟩
  | serving serving all => exact ⟨_, ⟨_, all⟩, serving.serves.conveys.news⟩

/-- At rest, after the arrival of the socket, all callers have been told. -/
theorem ended (corresponds : Corresponds settings span bound plan letters cost simulation)
    {horizon : Time} (rests : simulation.isAtRest horizon = true) (late : bound ≤ horizon) :
    simulation.Conveys settings letters [] [] [] ∧ simulation.tasks = [] ∧
      simulation.attempt = none ∧
      (letters ≠ [] → simulation.connection.engine.phase = .connected) := by
  obtain ⟨unserved, free, timers⟩ := of_isAtRest rests
  cases corresponds with
  | idle conveys stand tasks reports attempt found left within =>
      obtain rfl := List.map_eq_nil_iff.mp (conveys.mailbox.symm.trans unserved)
      exact ⟨conveys, free, attempt, fun some => (some rfl).elim⟩
  | calling calling all within =>
      obtain ⟨due, less, timer, reached, -⟩ := calling.fire free
      exact absurd (Nat.le_trans reached (Nat.le_trans within late))
        (Nat.not_le_of_lt (timers due timer))
  | @serving _ number told posted traffic serving all =>
      obtain ⟨closed, rfl⟩ := serving.ended unserved free
      rw [closed, List.append_nil, List.append_nil] at all
      subst all
      have conveys := serving.serves.conveys
      have queued : traffic.queued = [] := by
        rw [Traffic.letters, List.append_eq_nil_iff, List.append_eq_nil_iff,
          List.append_eq_nil_iff] at closed
        exact closed.2.2.2
      rw [closed, queued] at conveys
      exact ⟨conveys, free, serving.serves.attends.idle, fun _ => serving.serves.phase⟩

/-- Another letter is written. -/
theorem write (corresponds : Corresponds settings span bound plan letters cost simulation)
    (ticket : Nat) (packet : Wire.Packet) :
    ∃ more, Corresponds settings span bound plan (letters ++ [⟨ticket, packet⟩]) more
      (simulation.act (.write ticket packet)).2 := by
  cases corresponds with
  | idle conveys stand tasks reports attempt found left within =>
      obtain ⟨connection, written, further, same, -⟩ := conveys.write ticket packet
      rw [written]
      exact ⟨_, .idle further (same.trans stand) tasks reports attempt found left within⟩
  | calling calling all within =>
      obtain ⟨connection, written, further, same, pending⟩ := calling.conveys.write ticket packet
      rw [written]
      refine ⟨_, .calling ⟨further, same.trans calling.stand, calling.near, ?_,
        calling.awaits.aside connection _⟩ ?_ within⟩
      · change ∀ entry ∈ connection.engine.pending.entries, _
        rw [pending]
        exact calling.ahead
      · rw [← List.append_assoc, all]
  | serving serving all =>
      have serves := serving.serves
      obtain ⟨connection, written, further, same, -⟩ := serves.conveys.write ticket packet
      simp only [Engine.stand, Prod.mk.injEq] at same
      obtain ⟨phase, link, inFlight⟩ := same
      rw [written]
      refine ⟨_, .serving ⟨⟨further, phase.trans serves.phase, link.trans serves.link, ?_, ?_,
        serves.attends.congr rfl rfl rfl⟩, serving.reports, serving.hearing, serving.reading,
        serving.writing⟩ ?_⟩
      · exact (congrArg (·.toList.length) inFlight).trans serves.busy
      · exact fun none => serves.flowing (inFlight.symm.trans none)
      · rw [← all]
        simp only [List.append_assoc]

/-- At rest the clock moves on, and nothing else does. -/
theorem linger (corresponds : Corresponds settings span bound plan letters cost simulation)
    {horizon : Time} (rests : simulation.isAtRest horizon = true)
    (early : simulation.now ≤ horizon) :
    ∃ less, Corresponds settings span (horizon + span) plan letters less
      { simulation with now := horizon } := by
  obtain ⟨-, free, timers⟩ := of_isAtRest rests
  have bystands : simulation.Bystands { simulation with now := horizon } := ⟨rfl, rfl, rfl⟩
  cases corresponds with
  | idle conveys stand tasks reports attempt found left _ =>
      exact ⟨_, .idle (conveys.bystand bystands rfl) stand tasks reports attempt found left
        (Nat.le_refl _)⟩
  | calling calling all _ =>
      obtain ⟨attempt, due, -, -, timer, -, -, -, awaits⟩ := calling.timer free
      have waits : horizon ≤ due := Nat.le_of_lt (timers due timer)
      have near := Nat.le_trans calling.near (Nat.add_le_add_right early span)
      exact ⟨_, .calling (calling.go bystands rfl early (awaits horizon waits)) all near⟩
  | serving serving all =>
      have serves := serving.serves
      exact ⟨_, .serving ⟨⟨serves.conveys.bystand bystands rfl, serves.phase, serves.link,
        serves.busy, serves.flowing, serves.attends.congr rfl rfl rfl⟩, serving.reports,
        serving.hearing, serving.reading, serving.writing⟩ all⟩

/-- Time passes. -/
theorem elapse (corresponds : Corresponds settings span bound plan letters cost simulation)
    (favourable : IsFavourable settings span plan) (proper : AreProper settings letters)
    (time : Time) : ∃ less later,
      Corresponds settings span later plan letters less (simulation.elapse time) := by
  have early : (simulation.run (simulation.now + time) stepLimit).now ≤ simulation.now + time :=
    now_run_le (Nat.le_add_right _ _) _
  obtain ⟨less, further, -⟩ := corresponds.run favourable proper (simulation.now + time) stepLimit
  unfold Simulation.elapse
  dsimp only
  generalize simulation.run (simulation.now + time) stepLimit = last at early further ⊢
  split
  · next rests =>
      obtain ⟨least, later⟩ := further.linger rests early
      exact ⟨least, _, later⟩
  · exact ⟨less, _, further⟩

end Corresponds

end Simulation

/-- The letter that is written. -/
def Doing.letter? : Doing → Option Letter
  | .operate (.write ticket packet) => some ⟨ticket, packet⟩
  | _ => none

/-- Whether letters are written, time passes, or nothing is asked for. -/
def Doing.isWriting : Doing → Bool
  | .operate (.write _ _) | .operate (.elapse _) | .operate .describe | .operate .nothing
  | .step _ => true
  | _ => false

/-- The letters that are written, in order. -/
def lettersIn (schedule : List Doing) : List Letter := schedule.filterMap Doing.letter?

theorem AreProper.of_append {settings : Settings} {first rest : List Letter}
    (proper : AreProper settings (first ++ rest)) : AreProper settings first where
  distinct := by
    have distinct := proper.distinct
    rw [List.map_append] at distinct
    exact (List.nodup_append.mp distinct).1
  packed letter member := proper.packed letter (List.mem_append_left _ member)

namespace Simulation

variable {simulation : Simulation} {settings : Settings} {span bound : Time} {plan : Plan}
  {letters : List Letter} {cost : Nat}

/-- Whatever is done carries the letters on, or adds one. -/
theorem Corresponds.next
    (corresponds : Corresponds settings span bound plan letters cost simulation)
    (favourable : IsFavourable settings span plan) (proper : AreProper settings letters)
    {doing : Doing} (writing : doing.isWriting = true) :
    ∃ less later, Corresponds settings span later plan (letters ++ doing.letter?.toList) less
      (simulation.next doing) := by
  have nothing {after : Simulation} (none : doing.letter? = none) {less : Nat} {later : Time}
      (further : Corresponds settings span later plan letters less after) :
      ∃ less later, Corresponds settings span later plan (letters ++ doing.letter?.toList) less
        after := by
    rw [none, Option.toList_none, List.append_nil]
    exact ⟨less, later, further⟩
  cases doing with
  | step horizon =>
      unfold Simulation.next
      dsimp only
      cases stepped : simulation.step? horizon with
      | none => exact nothing rfl corresponds
      | some after =>
          obtain ⟨less, -, further⟩ := corresponds.step? favourable proper stepped
          exact nothing rfl further
  | operate operation =>
      cases operation with
      | write ticket packet =>
          obtain ⟨more, further⟩ := corresponds.write ticket packet
          exact ⟨more, bound, further⟩
      | elapse time =>
          obtain ⟨less, later, further⟩ := corresponds.elapse favourable proper time
          exact nothing rfl further
      | describe =>
          have same : simulation.next (.operate .describe) = simulation := by
            simp only [Simulation.next, act, throughHandle]
            split <;> rfl
          rw [same]
          exact nothing rfl corresponds
      | nothing => exact nothing rfl corresponds
      | _ => exact absurd writing Bool.false_ne_true

/-- A schedule carries its letters on. -/
theorem Corresponds.after
    (corresponds : Corresponds settings span bound plan letters cost simulation)
    (favourable : IsFavourable settings span plan) {schedule : List Doing}
    (writing : ∀ doing ∈ schedule, doing.isWriting = true)
    (proper : AreProper settings (letters ++ lettersIn schedule)) :
    ∃ less later, Corresponds settings span later plan (letters ++ lettersIn schedule) less
      (simulation.after schedule) := by
  induction schedule generalizing simulation letters cost bound with
  | nil => exact ⟨cost, bound, (List.append_nil letters).symm ▸ corresponds⟩
  | cons doing rest ih =>
      obtain ⟨first, others⟩ := List.forall_mem_cons.mp writing
      have split : letters ++ lettersIn (doing :: rest) =
          letters ++ doing.letter?.toList ++ lettersIn rest := by
        rw [List.append_assoc, lettersIn, List.filterMap_cons]
        cases doing.letter? <;> rfl
      obtain ⟨less, later, further⟩ := corresponds.next favourable proper.of_append first
      rw [split] at proper ⊢
      exact ih further others proper

end Simulation

end RequestMux.Network
