import RequestMux.Proofs.Client.Deadlines
import RequestMux.Proofs.Client.States
import RequestMux.Proofs.Network.Wired

/-!
# Simulations enact runs

Whatever is done with a simulation, its connection goes through a run of turns, and what
the engine hears and does is what is seen of these turns.  The network keeps to what the
engine has told it, and the clock never passes a deadline.
-/

namespace RequestMux.Network

open Client (Connection Effect Engine Move Report Stimulus Time Turn)
open Client.Pending (Entry Table)

/-- What is seen of a turn. -/
def sightsIn (turn : Turn) : List Sight :=
  turn.stimulus?.toList.map (.heard turn.time) ++ turn.effects.map (.engine turn.time)

/-- One simulation comes from another as its connection goes through some moves, in turns in which
the world keeps to what the engine has told it and no deadline has passed. -/
structure Simulation.Enacts (before : Simulation) (moves : List (Time × Move))
    (after : Simulation) : Prop where
  connection : after.connection = before.connection.run moves
  spoken : after.spoken = before.spoken ++ (before.connection.turns moves).flatMap sightsIn
  apt : ∀ turn ∈ before.connection.turns moves, turn.IsApt
  timely : ∀ turn ∈ before.connection.turns moves, turn.IsTimely

namespace Simulation

namespace Enacts

variable {before middle after : Simulation} {moves more : List (Time × Move)}

theorem of_same (connection : after.connection = before.connection)
    (spoken : after.spoken = before.spoken) : before.Enacts [] after :=
  ⟨connection, spoken.trans (List.append_nil _).symm, List.forall_mem_nil _, List.forall_mem_nil _⟩

theorem single {time : Time} {move : Move}
    (connection : after.connection = (before.connection.make time move).1)
    (spoken : after.spoken = before.spoken ++ sightsIn ⟨time, move, before.connection⟩)
    (apt : Turn.IsApt ⟨time, move, before.connection⟩)
    (timely : Turn.IsTimely ⟨time, move, before.connection⟩) :
    before.Enacts [(time, move)] after where
  connection := connection
  spoken := by
    rw [spoken]
    exact congrArg (before.spoken ++ ·) (List.append_nil _).symm
  apt turn member := List.mem_singleton.mp member ▸ apt
  timely turn member := List.mem_singleton.mp member ▸ timely

theorem trans (first : before.Enacts moves middle) (second : middle.Enacts more after) :
    before.Enacts (moves ++ more) after := by
  have later := second.connection
  have seen := second.spoken
  have apt := second.apt
  have timely := second.timely
  rw [first.connection] at later seen apt timely
  constructor
  case connection => rw [later, Connection.run_append]
  case spoken =>
    rw [seen, first.spoken, Connection.turns_append, List.flatMap_append, List.append_assoc]
  case apt =>
    rw [Connection.turns_append]
    exact fun turn member => (List.mem_append.mp member).elim (first.apt turn) (apt turn)
  case timely =>
    rw [Connection.turns_append]
    exact fun turn member => (List.mem_append.mp member).elim (first.timely turn) (timely turn)

/-- The world keeps to the engine wherever a run is broken off. -/
theorem apt_of_prefix (enacts : before.Enacts moves after) {past : List (Time × Move)}
    (front : past <+: moves) : ∀ turn ∈ before.connection.turns past, turn.IsApt := by
  intro turn member
  exact enacts.apt turn (Connection.mem_turns_of_front front member)

end Enacts

/-- A simulation goes on, and no deadline has passed. -/
structure Goes (before after : Simulation) : Prop where
  enacts : ∃ moves, before.Enacts moves after
  timely : after.connection.engine.IsTimely after.now

/-- Whether the engine is coherent, the network fits to it and no deadline has passed. -/
structure IsSteady (simulation : Simulation) (inbox : List (Nat × Report)) : Prop where
  sound : simulation.connection.IsSound
  wired : (simulation.scene.withInbox inbox).IsWired
  coherent : simulation.connection.engine.life = .collapsed ∨
    simulation.connection.engine.IsCoherent
  timely : simulation.connection.engine.IsTimely simulation.now

namespace Goes

variable {before middle after : Simulation}

theorem trans (first : before.Goes middle) (second : middle.Goes after) : before.Goes after := by
  obtain ⟨moves, enacts⟩ := first.enacts
  obtain ⟨more, further⟩ := second.enacts
  exact ⟨⟨moves ++ more, enacts.trans further⟩, second.timely⟩

theorem of_voice (timely : before.connection.engine.IsTimely before.now)
    (same : after.voice = before.voice) : before.Goes after := by
  simp only [voice, Prod.mk.injEq] at same
  obtain ⟨now, connection, spoken⟩ := same
  exact ⟨⟨[], .of_same connection spoken⟩, by rw [now, connection]; exact timely⟩

/-- What the engine is told in a turn, and what it does. -/
theorem of_turn (move : Move) (sound : before.connection.IsSound)
    (timely : before.connection.engine.IsTimely before.now)
    (apt : Turn.IsApt ⟨before.now, move, before.connection⟩)
    (voice : after.voice = (before.now, (before.connection.make before.now move).1,
      before.spoken ++ sightsIn ⟨before.now, move, before.connection⟩)) : before.Goes after := by
  let turn : Turn := ⟨before.now, move, before.connection⟩
  have inTime : turn.IsTimely := timely
  simp only [Simulation.voice, Prod.mk.injEq] at voice
  obtain ⟨now, connection, spoken⟩ := voice
  refine ⟨⟨[(before.now, move)], .single connection spoken apt timely⟩, ?_⟩
  rw [now, connection]
  exact inTime.after sound

/-- Along a run the engine stays coherent. -/
theorem coherent (goes : before.Goes after) (sound : before.connection.IsSound)
    (coherent : before.connection.engine.life = .collapsed ∨
      before.connection.engine.IsCoherent) :
    after.connection.engine.life = .collapsed ∨ after.connection.engine.IsCoherent := by
  obtain ⟨moves, enacts⟩ := goes.enacts
  rw [enacts.connection]
  exact Connection.run_coherent sound coherent moves enacts.apt

end Goes

variable {simulation : Simulation}

/-- The end of an attempt is reported only while one is under way. -/
theorem IsSteady.attempting {inbox : List (Nat × Report)} {entry : Nat × Report}
    (steady : simulation.IsSteady inbox) (member : entry ∈ inbox)
    (verdict : isVerdict simulation.connection.engine.generation entry = true)
    (running : simulation.connection.engine.life = .running) :
    simulation.connection.engine.attempting = true := by
  let engine := simulation.connection.engine
  have coherent : engine.IsCoherent :=
    steady.coherent.resolve_left fun collapsed => nomatch running.symm.trans collapsed
  have live := steady.wired.live running
  obtain ⟨-, unlinked⟩ := live.of_reported member verdict
  cases phase : engine.phase with
  | connecting => exact coherent.connecting.mp phase
  | connected =>
      have linked := coherent.connected.mp phase
      rw [show engine.link = none from unlinked] at linked
      cases linked
  | shuttingDown => exact absurd phase (steady.sound.awake running).open_
  | disconnected =>
      have empty := live.vacant phase
      exact absurd verdict ((Scene.tokens_eq_zero_iff.mp empty).2.2 _ member)

namespace IsSteady

variable {inbox rest : List (Nat × Report)}

/-- What the engine is told, other than a command, is a turn. -/
theorem stimulate (steady : simulation.IsSteady inbox) (move : Move) {stimulus : Stimulus}
    (made : simulation.connection.make simulation.now move =
      simulation.connection.react simulation.now stimulus)
    (told : Turn.stimulus? ⟨simulation.now, move, simulation.connection⟩ = some stimulus)
    (apt : Turn.IsApt ⟨simulation.now, move, simulation.connection⟩) :
    simulation.Goes (simulation.stimulate stimulus) := by
  refine .of_turn move steady.sound steady.timely apt ?_
  have heard : (simulation.hear stimulus).spoken =
      simulation.spoken ++ [.heard simulation.now stimulus] := spoken_see _ _
  have sights : sightsIn ⟨simulation.now, move, simulation.connection⟩ =
      .heard simulation.now stimulus ::
        (simulation.connection.react simulation.now stimulus).2.map (.engine simulation.now) := by
    rw [sightsIn, told, Turn.effects, made]
    rfl
  rw [Simulation.stimulate, voice_accept, heard, sights, made, List.append_assoc]
  rfl

theorem alarm (steady : simulation.IsSteady inbox) :
    simulation.Goes (simulation.stimulate .alarm) :=
  steady.stimulate .alarm rfl rfl ⟨fun _ => nofun, fun _ => nofun, fun _ => nofun⟩

theorem report {generation : Nat} {report : Report}
    (steady : simulation.IsSteady ((generation, report) :: rest)) :
    simulation.Goes (simulation.stimulate (.report generation report)) := by
  have attempting {told : Report} (ends : concludes told = true)
      (running : simulation.connection.engine.life = .running)
      (same : some (Stimulus.report generation report) =
        some (.report simulation.connection.engine.generation told)) :
      simulation.connection.engine.attempting = true := by
    obtain ⟨rfl, rfl⟩ := Stimulus.report.inj (Option.some.inj same)
    exact steady.attempting List.mem_cons_self (isVerdict_iff.mpr ⟨rfl, ends⟩) running
  exact steady.stimulate (.report generation report) rfl rfl
    ⟨fun running _ => attempting rfl running, fun running _ => attempting rfl running,
      fun _ => nofun⟩

theorem ping (steady : simulation.IsSteady inbox) (sync : UInt32)
    (scheduled : simulation.connection.engine.pingAt.isSome = true) :
    simulation.Goes (simulation.stimulate (.ping sync)) :=
  steady.stimulate (.ping sync) rfl rfl
    ⟨fun _ => nofun, fun _ => nofun, fun _ _ _ => scheduled⟩

theorem serve (steady : simulation.IsSteady inbox) {command : Client.Command}
    {commands : List Client.Command}
    (waiting : simulation.connection.mailbox = command :: commands) :
    simulation.Goes (simulation.serve command) := by
  have told : Turn.stimulus? ⟨simulation.now, .serve, simulation.connection⟩ =
      some (.command command) := by
    rw [Turn.stimulus?, waiting]
    rfl
  refine .of_turn .serve steady.sound steady.timely ⟨?_, ?_, ?_⟩ ?_
  · intro _ _ reported
    cases told.symm.trans reported
  · intro _ _ reported
    cases told.symm.trans reported
  · intro _ _ pinged
    cases told.symm.trans pinged
  · have heard : (simulation.hear (.command command)).spoken =
        simulation.spoken ++ [.heard simulation.now (.command command)] := spoken_see _ _
    rw [Simulation.serve, voice_accept, heard, sightsIn, told, List.append_assoc]
    rfl

/-- The handle is used in a turn in which the engine is told nothing. -/
theorem handle (steady : simulation.IsSteady inbox) (move : Move) {after : Simulation}
    (untold : Turn.stimulus? ⟨simulation.now, move, simulation.connection⟩ = none)
    (made : simulation.connection.make simulation.now move = (after.connection, []))
    (now : after.now = simulation.now) (spoken : after.spoken = simulation.spoken) :
    simulation.Goes after := by
  refine .of_turn move steady.sound steady.timely ⟨?_, ?_, ?_⟩ ?_
  · intro _ _ reported
    cases untold.symm.trans reported
  · intro _ _ reported
    cases untold.symm.trans reported
  · intro _ _ pinged
    cases untold.symm.trans pinged
  · rw [sightsIn, untold, Turn.effects, made, voice, now, spoken]
    exact congrArg (fun spoken => (_, _, spoken)) (List.append_nil _).symm

/-- A simulation that goes on stays steady. -/
theorem goes (steady : simulation.IsSteady inbox) {after : Simulation}
    (beats : Beats (simulation.scene.withInbox inbox) (after.scene.withInbox rest))
    (sound : after.connection.IsSound) (goes : simulation.Goes after) : after.IsSteady rest :=
  ⟨sound, steady.wired.beats beats, goes.coherent steady.sound steady.coherent, goes.timely⟩

/-- The engine takes its reports in as many turns. -/
theorem takeReports (steady : simulation.IsSteady simulation.reports) :
    simulation.Goes simulation.takeReports := by
  -- reports that are still to be taken stay in the inbox, where the network accounts for them
  have each (reports : List (Nat × Report)) (simulation : Simulation)
      (steady : simulation.IsSteady reports) :
      simulation.Goes (reports.foldl
        (fun simulation entry => simulation.stimulate (.report entry.1 entry.2)) simulation) := by
    induction reports generalizing simulation with
    | nil => exact .of_voice steady.timely rfl
    | cons entry rest ih =>
        obtain ⟨generation, report⟩ := entry
        have takes : Takes (.report generation report) ((generation, report) :: rest) rest := rfl
        have first : simulation.Goes (simulation.stimulate (.report generation report)) :=
          steady.report
        have later := steady.goes (beats_stimulate steady.sound takes)
          (sound_stimulate steady.sound _) first
        exact first.trans (ih _ later)
  have taken : ({ simulation with reports := [] } : Simulation).IsSteady simulation.reports :=
    ⟨steady.sound, steady.wired, steady.coherent, steady.timely⟩
  have same : simulation.Goes { simulation with reports := [] } := .of_voice steady.timely rfl
  exact same.trans (each simulation.reports _ taken)

end IsSteady

/-! Time passes no further than to the next timer. -/

/-- The earlier of two times, of which there may be none. -/
def sooner (best time : Option Time) : Option Time :=
  match best, time with
  | some best, some time => some (min best time)
  | best, none => best
  | none, time => time

theorem sooner_cases (best time : Option Time) :
    sooner best time = best ∨ sooner best time = time := by
  cases best with
  | none => exact .inr (by cases time <;> rfl)
  | some best =>
      cases time with
      | none => exact .inl rfl
      | some time =>
          rcases Nat.le_total best time with le | le
          · exact .inl (congrArg some (Nat.min_eq_left le))
          · exact .inr (congrArg some (Nat.min_eq_right le))

theorem sooner_le {best time : Option Time} {given : Time}
    (there : best = some given ∨ time = some given) :
    ∃ first, sooner best time = some first ∧ first ≤ given := by
  rcases there with rfl | rfl
  · cases time with
    | none => exact ⟨given, rfl, Nat.le_refl _⟩
    | some time => exact ⟨_, rfl, Nat.min_le_left _ _⟩
  · cases best with
    | none => exact ⟨given, rfl, Nat.le_refl _⟩
    | some best => exact ⟨_, rfl, Nat.min_le_right _ _⟩

theorem foldl_sooner (times : List (Option Time)) (best : Option Time) :
    (times.foldl sooner best = best ∨ times.foldl sooner best ∈ times) ∧
      ∀ time, best = some time ∨ some time ∈ times →
        ∃ first, times.foldl sooner best = some first ∧ first ≤ time := by
  induction times generalizing best with
  | nil => exact ⟨.inl rfl, fun time here => ⟨time, here.resolve_right nofun, Nat.le_refl _⟩⟩
  | cons next rest ih =>
      obtain ⟨member, least⟩ := ih (sooner best next)
      refine ⟨?_, fun time there => ?_⟩
      · rcases member with same | later
        · rcases sooner_cases best next with old | new
          · exact .inl (same.trans old)
          · refine .inr ?_
            rw [List.foldl_cons, same, new]
            exact List.mem_cons_self
        · exact .inr (List.mem_cons_of_mem _ later)
      · have first : best = some time ∨ next = some time ∨ some time ∈ rest :=
          there.imp_right fun member => (List.mem_cons.mp member).imp_left Eq.symm
        rcases or_assoc.mpr first with here | later
        · obtain ⟨first, same, le⟩ := sooner_le here
          obtain ⟨last, found, lower⟩ := least first (.inl same)
          exact ⟨last, found, Nat.le_trans lower le⟩
        · exact least time (.inr later)

/-- The earliest of some times is one of them, and there is one if there are any. -/
theorem earliest_spec (times : List (Option Time)) :
    (∀ first, earliest times = some first → some first ∈ times) ∧
      ∀ time, some time ∈ times → ∃ first, earliest times = some first ∧ first ≤ time := by
  obtain ⟨member, least⟩ := foldl_sooner times none
  refine ⟨fun first found => ?_, fun time there => least time (.inr there)⟩
  rcases member with same | there
  · exact nomatch same.symm.trans found
  · exact found ▸ there

/-- The next timer goes off by every deadline. -/
theorem nextTimer?_le_deadline (armed : simulation.connection.engine.pending.IsArmed)
    {entry : Entry} (member : entry ∈ simulation.connection.engine.pending.entries) :
    ∃ first, simulation.nextTimer? = some first ∧ first ≤ entry.deadline := by
  obtain ⟨alarm, next, ahead⟩ := armed.exists_next member
  have due : simulation.alarmDue? = some alarm.due := congrArg (Option.map _) next
  obtain ⟨first, found, le⟩ := (earliest_spec
    [simulation.alarmDue?, simulation.attemptDue?, simulation.pingDue?]).2 alarm.due
      (due ▸ List.mem_cons_self)
  exact ⟨first, found, Nat.le_trans le ahead⟩

/-- Where nothing goes on until some time, nobody waits in the line and no timer goes off until
then. -/
theorem of_isAtRest {horizon : Time} (rests : simulation.isAtRest horizon = true) :
    simulation.connection.mailbox = [] ∧ simulation.tasks = [] ∧
      ∀ time, simulation.nextTimer? = some time → horizon < time := by
  unfold isAtRest step? at rests
  split at rests
  · cases rests
  · cases rests
  · next empty idle =>
      refine ⟨empty, idle, fun time next => ?_⟩
      rw [next] at rests
      by_contra soon
      dsimp only at rests
      rw [if_pos (Nat.le_of_not_lt soon)] at rests
      cases rests

/-- Where nothing goes on until some time, no deadline comes until then. -/
theorem lt_deadline_of_isAtRest {horizon : Time} (rests : simulation.isAtRest horizon = true)
    (armed : simulation.connection.engine.pending.IsArmed) {entry : Entry}
    (member : entry ∈ simulation.connection.engine.pending.entries) : horizon < entry.deadline := by
  obtain ⟨first, found, le⟩ := nextTimer?_le_deadline armed member
  exact Nat.lt_of_lt_of_le ((of_isAtRest rests).2.2 first found) le

/-- The next timer goes off by the time for which an attempt waits. -/
theorem nextTimer?_le_attemptDue {due : Time} (waits : simulation.attemptDue? = some due) :
    ∃ first, simulation.nextTimer? = some first ∧ first ≤ due :=
  (earliest_spec [simulation.alarmDue?, simulation.attemptDue?, simulation.pingDue?]).2 due
    (waits ▸ List.mem_cons_of_mem _ List.mem_cons_self)

/-- One simulation comes from another in beats, and as its connection goes through a run. -/
structure Advances (before after : Simulation) : Prop
    extends before.Follows after, before.Goes after

namespace IsSteady

/-- A simulation that advances stays steady. -/
theorem advance (steady : simulation.IsSteady simulation.reports) {after : Simulation}
    (advances : simulation.Advances after) : after.IsSteady after.reports :=
  steady.goes advances.beats advances.sound advances.toGoes

/-- What leaves the voice advances the simulation as far as it follows. -/
theorem advances_of_voice (steady : simulation.IsSteady simulation.reports) {after : Simulation}
    (follows : simulation.Follows after) (same : after.voice = simulation.voice) :
    simulation.Advances after :=
  ⟨follows, .of_voice steady.timely same⟩

theorem runTask (steady : simulation.IsSteady simulation.reports) (task : Task) :
    simulation.Advances (simulation.runTask task) := by
  have follows := runTask_follows steady.sound task
  cases task with
  | engine => exact ⟨follows, steady.takeReports⟩
  | dial => exact steady.advances_of_voice follows (voice_dial simulation)
  | reader number => exact steady.advances_of_voice follows (voice_runReader simulation number)
  | writer number => exact steady.advances_of_voice follows (voice_runWriter simulation number)
  | awaiter ticket outcome => exact steady.advances_of_voice follows (voice_see _ rfl)

/-- A timer that goes off is an alarm, or an attempt that goes on, or the ping that was
scheduled. -/
theorem fireTimer (steady : simulation.IsSteady simulation.reports) {time : Time}
    (next : simulation.nextTimer? = some time) (due : time ≤ simulation.now) :
    simulation.Advances simulation.fireTimer := by
  have follows := fireTimer_follows steady.sound
  refine ⟨follows, ?_⟩
  have isDue {timer : Option Time} (same : some time = timer) : simulation.isDue timer = true := by
    rw [← same]
    exact decide_eq_true due
  have source := (earliest_spec _).1 time next
  simp only [List.mem_cons, List.not_mem_nil, or_false] at source
  -- the timer that is due is a ping if it is neither an alarm nor an attempt
  have pings (noAlarm : ¬simulation.isDue simulation.alarmDue? = true)
      (noAttempt : ¬simulation.isDue simulation.attemptDue? = true) :
      simulation.Goes simulation.firePing := by
    have scheduled : simulation.connection.engine.pingAt.isSome = true := by
      rcases source with alarm | attempt | ping
      · exact absurd (isDue alarm) noAlarm
      · exact absurd (isDue attempt) noAttempt
      · exact Option.isSome_iff_exists.mpr ⟨time, ping.symm⟩
    have allocated : simulation.allocate.2.IsSteady simulation.reports :=
      ⟨steady.sound, steady.wired, steady.coherent, steady.timely⟩
    have same : simulation.Goes simulation.allocate.2 := .of_voice steady.timely rfl
    exact same.trans (allocated.ping simulation.allocate.1 scheduled)
  unfold Simulation.fireTimer
  split
  · exact steady.alarm
  · next noAlarm =>
      split
      · next attempt here =>
          split
          · exact .of_voice steady.timely (voice_proceed simulation attempt)
          · next noAttempt => exact pings noAlarm noAttempt
      · next nothing =>
          refine pings noAlarm ?_
          rw [attemptDue?, nothing]
          exact Bool.false_ne_true

/-- The clock may go as far as no deadline is passed. -/
theorem wait (steady : simulation.IsSteady simulation.reports) {later : Time}
    (ahead : ∀ entry ∈ simulation.connection.engine.pending.entries, later ≤ entry.deadline) :
    simulation.Advances { simulation with now := later } :=
  ⟨.of_same steady.sound rfl rfl, ⟨[], .of_same rfl rfl⟩, ⟨steady.timely.armed, ahead⟩⟩

theorem step? (steady : simulation.IsSteady simulation.reports) {horizon : Time}
    {next : Simulation} (stepped : simulation.step? horizon = some next) :
    simulation.Advances next := by
  have follows := step?_follows steady.sound stepped
  unfold Simulation.step? at stepped
  split at stepped
  · next command rest waiting =>
      cases stepped
      exact ⟨follows, steady.serve waiting⟩
  · next task rest _ _ =>
      cases stepped
      have taken : simulation.Advances { simulation with tasks := rest } :=
        steady.advances_of_voice (.of_same steady.sound rfl rfl) rfl
      have ran := (steady.advance taken).runTask task
      exact ⟨follows, taken.toGoes.trans ran.toGoes⟩
  · split at stepped
    · cases stepped
    · next time next =>
        split at stepped
        · cases stepped
          -- the clock stops at the next timer, which goes off by every deadline
          have waited : simulation.Advances { simulation with now := max simulation.now time } := by
            refine steady.wait fun entry member => ?_
            obtain ⟨first, found, le⟩ := nextTimer?_le_deadline steady.timely.armed member
            cases next.symm.trans found
            exact Nat.max_le.mpr ⟨steady.timely.ahead entry member, le⟩
          have fired := (steady.advance waited).fireTimer next (Nat.le_max_right _ _)
          exact ⟨follows, waited.toGoes.trans fired.toGoes⟩
        · cases stepped

end IsSteady

theorem Advances.refl (steady : simulation.IsSteady simulation.reports) :
    simulation.Advances simulation :=
  steady.advances_of_voice (.refl steady.sound) rfl

theorem Advances.trans {before middle after : Simulation} (first : before.Advances middle)
    (second : middle.Advances after) : before.Advances after :=
  ⟨first.toFollows.trans second.toFollows, first.toGoes.trans second.toGoes⟩

namespace IsSteady

theorem run (steady : simulation.IsSteady simulation.reports) (horizon : Time) (fuel : Nat) :
    simulation.Advances (simulation.run horizon fuel) := by
  induction fuel generalizing simulation with
  | zero => exact .refl steady
  | succ fuel ih =>
      unfold Simulation.run
      split
      · exact .refl steady
      · next next stepped =>
          have one := steady.step? stepped
          exact one.trans (ih (steady.advance one))

theorem elapse (steady : simulation.IsSteady simulation.reports) (span : Time) :
    simulation.Advances (simulation.elapse span) := by
  have ran := steady.run (simulation.now + span) stepLimit
  have later := steady.advance ran
  unfold Simulation.elapse
  dsimp only
  split
  · next rests =>
      refine ran.trans (later.wait fun entry member => Nat.le_of_lt ?_)
      exact lt_deadline_of_isAtRest rests later.timely.armed member
  · exact ran

theorem throughHandle (steady : simulation.IsSteady simulation.reports)
    {act : Simulation → Answer × Simulation} (goes : simulation.Goes (act simulation).2) :
    simulation.Goes (simulation.throughHandle act).2 := by
  unfold Simulation.throughHandle
  split
  · exact goes
  · exact .of_voice steady.timely rfl

theorem request (steady : simulation.IsSteady simulation.reports) (ticket : Nat)
    (packet : Wire.Packet) : simulation.Goes (simulation.request ticket packet) := by
  unfold Simulation.request
  dsimp only
  split
  · exact steady.handle (.submit packet (some ticket)) rfl rfl rfl rfl
  · exact .of_voice steady.timely (voice_see _ rfl)

theorem byPeer (steady : simulation.IsSteady simulation.reports) (socket : Option Nat)
    {sight : Nat → Sight} (silent : ∀ number, (sight number).isSpoken = false)
    (change : Socket → Socket) : simulation.Goes (simulation.byPeer socket sight change).2 := by
  refine .of_voice steady.timely ?_
  unfold Simulation.byPeer
  split
  · rfl
  · next found _ =>
      split
      · exact (voice_wake _ _).trans (voice_see _ (silent found.number))
      · rfl

/-- Every operation advances the simulation. -/
theorem act (steady : simulation.IsSteady simulation.reports) (sound : simulation.IsSound)
    (operation : Operation) : simulation.Advances (simulation.act operation).2 := by
  refine ⟨act_follows sound operation, ?_⟩
  cases operation with
  | write ticket packet =>
      exact steady.throughHandle (steady.handle (.submit packet (some ticket)) rfl rfl rfl rfl)
  | send packet => exact steady.throughHandle (steady.handle (.submit packet none) rfl rfl rfl rfl)
  | request ticket packet => exact steady.throughHandle (steady.request ticket packet)
  | shutdown => exact steady.throughHandle (steady.handle .shutdown rfl rfl rfl rfl)
  | gentleShutdown => exact steady.throughHandle (steady.handle .gentleShutdown rfl rfl rfl rfl)
  | reconnect => exact steady.throughHandle (steady.handle .reconnect rfl rfl rfl rfl)
  | disablePing => exact steady.throughHandle (steady.handle .disablePing rfl rfl rfl rfl)
  | drop => exact steady.throughHandle (steady.handle .shutdown rfl rfl rfl rfl)
  | describe => exact steady.throughHandle (.of_voice steady.timely rfl)
  | elapse span => exact (steady.elapse span).toGoes
  | peerSend socket pieces => exact steady.byPeer socket (fun _ => rfl) _
  | peerClose socket => exact steady.byPeer socket (fun _ => rfl) _
  | unblock socket =>
      refine .of_voice steady.timely ?_
      change (simulation.release socket).2.voice = simulation.voice
      unfold release
      split
      · rfl
      · split
        · exact voice_wake _ _
        · rfl
  | prepare socket script =>
      refine .of_voice steady.timely ?_
      change (simulation.prepare socket script).2.voice = simulation.voice
      unfold prepare
      split <;> rfl
  | plan plans => exact .of_voice steady.timely rfl
  | nothing => exact .of_voice steady.timely rfl

theorem next (steady : simulation.IsSteady simulation.reports) (sound : simulation.IsSound)
    (doing : Doing) : simulation.Advances (simulation.next doing) := by
  cases doing with
  | operate operation => exact steady.act sound operation
  | step horizon =>
      unfold Simulation.next
      dsimp only
      cases stepped : simulation.step? horizon with
      | none => exact .refl steady
      | some after => exact steady.step? stepped

theorem after (steady : simulation.IsSteady simulation.reports) (sound : simulation.IsSound)
    (schedule : List Doing) : simulation.Advances (simulation.after schedule) := by
  induction schedule generalizing simulation with
  | nil => exact .refl steady
  | cons doing rest ih =>
      have one := steady.next sound doing
      exact one.trans (ih (steady.advance one) (one.toFollows.isSound sound))

theorem start (endpoint : Endpoint) (settings : Settings) (source : SyncSource) (plans : List Plan)
    (fallback : Plan) : (Simulation.start endpoint settings source plans fallback).IsSteady [] where
  sound := .start endpoint settings
  wired := .start endpoint settings source plans fallback
  coherent := .inr (.start settings)
  timely := ⟨Table.isArmed_empty, nofun⟩

end IsSteady

/-- Whatever is done with a simulation, its connection has gone through a run from its start. -/
theorem enacts_of_start (endpoint : Endpoint) (settings : Settings) (source : SyncSource)
    (plans : List Plan) (fallback : Plan) (schedule : List Doing) :
    let beginning := start endpoint settings source plans fallback
    (∃ moves, beginning.Enacts moves (beginning.after schedule)) ∧
      (beginning.after schedule).connection.engine.IsTimely (beginning.after schedule).now := by
  intro beginning
  have advances := (IsSteady.start endpoint settings source plans fallback).after
    (isSound_start endpoint settings source plans fallback) schedule
  exact ⟨advances.enacts, advances.timely⟩

end Simulation

end RequestMux.Network
