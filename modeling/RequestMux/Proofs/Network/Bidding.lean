import RequestMux.Proofs.Client.Redialing
import RequestMux.Proofs.Network.Schedule

/-!
# Calls for attempts

The engine calls for an attempt, the attempt begins, and it ends: it succeeds, it fails, or it is
given up.  A bid says how the latest call stands.  What the engine does keeps to this order, and
lets an attempt end at the time that its plan sets.
-/

namespace RequestMux.Network

open Client (Board Connection Effect Engine Life Onset Reaction Report Stimulus Tick Ticks Time
  Warning)

namespace Plan

variable (plan : Plan) (timeout : Time)

/-- The failure in which an attempt with this plan ends, unless it succeeds. -/
def failure? : Option IoFailure :=
  if timeout < plan.delay then some timedOut
  else
    match plan.fate with
    | .accept => plan.setupFailure
    | .hang => some timedOut
    | .refuse failure => some failure

/-- Milliseconds from the beginning of an attempt to its end. -/
def span : Time := if (plan.failure? timeout).isSome then timeout else plan.delay

variable {plan : Plan} {timeout : Time}

theorem span_of_failure {failure : IoFailure} (fails : plan.failure? timeout = some failure) :
    plan.span timeout = timeout := by
  rw [span, fails]
  rfl

theorem span_of_success (succeeds : plan.failure? timeout = none) :
    plan.span timeout = plan.delay := by
  rw [span, succeeds]
  rfl

end Plan

/-- How the latest call for an attempt stands. -/
inductive Bid where
  /-- There is none; the next call is for this generation or a later one. -/
  | idle (least : Nat)
  /-- The attempt has not begun. -/
  | called (generation : Nat) (time : Time)
  | underWay (generation : Nat) (start : Time) (plan : Plan)

/-- Whether an effect has to do with attempts. -/
def Effect.isBidding : Effect → Bool
  | .dialed _ | .hungUp | .attached _ | .warned (.connectFailed _) => true
  | _ => false

/-- Whether a sight has to do with attempts. -/
def Sight.isBidding : Sight → Bool
  | .engine _ effect => Effect.isBidding effect
  | .attempt _ _ => true
  | _ => false

namespace Bid

/-- The generation whose attempt is called for. -/
def generation? : Bid → Option Nat
  | .idle _ => none
  | .called generation _ => some generation
  | .underWay generation _ _ => some generation

/-- The least generation for which there may be a call after this bid. -/
def least : Bid → Nat
  | .idle least => least
  | .called generation _ => generation + 1
  | .underWay generation _ _ => generation + 1

/-- Whether the time for this bid is not over. -/
def IsTimely (timeout now : Time) : Bid → Prop
  | .idle _ => True
  | .called _ time => now = time
  | .underWay _ start plan => now ≤ start + plan.span timeout

/-- How attempts go on in what is seen.  An attempt begins at the moment at which it is called for,
fails when the timeout is over, and is attached at the moment at which it succeeds; it may be given
up before.  With the failure the next attempt is called for.  A call that does not follow a failure
is for a new generation. -/
inductive Goes (timeout : Time) : Bid → List Sight → Bid → Prop where
  | done (bid : Bid) : Goes timeout bid [] bid
  | pass {bid last : Bid} {sight : Sight} {rest : List Sight} (other : sight.isBidding = false)
      (later : Goes timeout bid rest last) : Goes timeout bid (sight :: rest) last
  | call {earliest generation : Nat} {time : Time} {last : Bid} {rest : List Sight}
      (fresh : earliest ≤ generation) (later : Goes timeout (.called generation time) rest last) :
      Goes timeout (.idle earliest) (.engine time (.dialed generation) :: rest) last
  | begin {generation number : Nat} {time : Time} {last : Bid} {rest : List Sight} (plan : Plan)
      (later : Goes timeout (.underWay generation time plan) rest last) :
      Goes timeout (.called generation time) (.attempt time number :: rest) last
  | fail {generation : Nat} {start time : Time} {plan : Plan} {failure : IoFailure} {last : Bid}
      {rest : List Sight} (fails : plan.failure? timeout = some failure)
      (punctual : time = start + timeout)
      (later : Goes timeout (.called generation time) rest last) :
      Goes timeout (.underWay generation start plan)
        (.engine time (.warned (.connectFailed failure)) ::
          .engine time (.noted (.connecting generation)) ::
            .engine time (.dialed generation) :: rest) last
  | attach {generation number : Nat} {start time : Time} {plan : Plan} {last : Bid}
      {rest : List Sight} (succeeds : plan.failure? timeout = none)
      (punctual : time = start + plan.delay)
      (later : Goes timeout (.idle (generation + 1)) rest last) :
      Goes timeout (.underWay generation start plan) (.engine time (.attached number) :: rest) last
  | giveUp {bid last : Bid} {time : Time} {rest : List Sight} (called : bid.generation?.isSome = true)
      (timely : bid.IsTimely timeout time) (later : Goes timeout (.idle bid.least) rest last) :
      Goes timeout bid (.engine time .hungUp :: rest) last

namespace Goes

variable {timeout : Time} {bid middle last : Bid} {sights more : List Sight}

theorem trans (goes : Goes timeout bid sights middle) (further : Goes timeout middle more last) :
    Goes timeout bid (sights ++ more) last := by
  induction goes with
  | done => exact further
  | pass other later ih => exact .pass other (ih further)
  | call fresh later ih => exact .call fresh (ih further)
  | «begin» plan later ih => exact .begin plan (ih further)
  | fail fails punctual later ih => exact .fail fails punctual (ih further)
  | attach succeeds punctual later ih => exact .attach succeeds punctual (ih further)
  | giveUp called timely later ih => exact .giveUp called timely (ih further)

/-- What has nothing to do with attempts leaves the bid. -/
theorem of_quiet (bid : Bid) (quiet : ∀ sight ∈ sights, sight.isBidding = false) :
    Goes timeout bid sights bid := by
  induction sights with
  | nil => exact .done bid
  | cons sight rest ih =>
      exact .pass (quiet sight List.mem_cons_self)
        (ih fun other member => quiet other (List.mem_cons_of_mem sight member))

theorem of_quiet_effects (bid : Bid) {effects : List Effect} {time : Time}
    (quiet : ∀ effect ∈ effects, Effect.isBidding effect = false) :
    Goes timeout bid (effects.map (.engine time)) bid := by
  refine of_quiet bid fun sight member => ?_
  obtain ⟨effect, there, rfl⟩ := List.mem_map.mp member
  exact quiet effect there

/-- The engine lets no attempt begin; so a bid that is under way after what it does was under way
before, and nothing that it does has to do with attempts. -/
theorem of_underWay {effects : List Effect} {time start : Time} {generation : Nat} {plan : Plan}
    (goes : Goes timeout bid (effects.map (.engine time)) last)
    (under : last = .underWay generation start plan) :
    bid = last ∧ ∀ effect ∈ effects, Effect.isBidding effect = false := by
  generalize given : effects.map (Sight.engine time) = sights at goes
  induction goes generalizing effects with
  | done =>
      rw [List.map_eq_nil_iff] at given
      subst given
      exact ⟨rfl, List.forall_mem_nil _⟩
  | pass other later ih =>
      obtain ⟨effect, rest, rfl, rfl, rfl⟩ := List.map_eq_cons_iff.mp given
      obtain ⟨same, quiet⟩ := ih under rfl
      exact ⟨same, List.forall_mem_cons.mpr ⟨other, quiet⟩⟩
  | call fresh later ih =>
      obtain ⟨effect, rest, rfl, -, same⟩ := List.map_eq_cons_iff.mp given
      exact nomatch (ih under same).1.trans under
  | «begin» plan later ih =>
      obtain ⟨effect, rest, -, absurd, -⟩ := List.map_eq_cons_iff.mp given
      cases absurd
  | fail fails punctual later ih =>
      obtain ⟨first, others, rfl, -, remaining⟩ := List.map_eq_cons_iff.mp given
      obtain ⟨second, others, rfl, -, remaining⟩ := List.map_eq_cons_iff.mp remaining
      obtain ⟨third, others, rfl, -, remaining⟩ := List.map_eq_cons_iff.mp remaining
      exact nomatch (ih under remaining).1.trans under
  | attach succeeds punctual later ih =>
      obtain ⟨effect, rest, rfl, -, same⟩ := List.map_eq_cons_iff.mp given
      exact nomatch (ih under same).1.trans under
  | giveUp called timely later ih =>
      obtain ⟨effect, rest, rfl, -, same⟩ := List.map_eq_cons_iff.mp given
      exact nomatch (ih under same).1.trans under

end Goes

/-- Whether a bid is what the engine makes of it. -/
structure Fits (bid : Bid) (engine : Engine) : Prop where
  calling : engine.life = .running →
    bid.generation? = if engine.attempting then some engine.generation else none
  connecting : engine.life = .running → engine.attempting = true → engine.phase = .connecting
  bounded : engine.life = .running → bid.least ≤ engine.generation + 1
  vacant : engine.life = .running → engine.phase = .disconnected → bid.least ≤ engine.generation
  stopped : engine.life = .stopped → bid.generation? = none

/-- Whether what an engine does leads from a bid to one that fits to the engine as it then is. -/
def Leads (timeout now : Time) (bid : Bid) (effects : List Effect) (after : Engine) : Prop :=
  ∃ later : Bid, Goes timeout bid (effects.map (.engine now)) later ∧ later.Fits after ∧
    later.IsTimely timeout now

namespace Fits

variable {bid : Bid} {engine after : Engine} {timeout now : Time}

/-- What a bid depends on in the engine. -/
def outline (engine : Engine) : Life × Client.Phase × Nat × Bool :=
  (engine.life, engine.phase, engine.generation, engine.attempting)

theorem congr (fits : bid.Fits engine) (same : outline after = outline engine) :
    bid.Fits after := by
  simp only [outline, Prod.mk.injEq] at same
  obtain ⟨life, phase, generation, attempting⟩ := same
  constructor
  case calling =>
    rw [life, attempting, generation]
    exact fits.calling
  case connecting =>
    rw [life, attempting, phase]
    exact fits.connecting
  case bounded =>
    rw [life, generation]
    exact fits.bounded
  case vacant =>
    rw [life, phase, generation]
    exact fits.vacant
  case stopped =>
    rw [life]
    exact fits.stopped

theorem start (settings : Settings) : (Bid.idle 0).Fits (Engine.start settings) where
  calling _ := rfl
  connecting _ := nofun
  bounded _ := Nat.zero_le _
  vacant _ _ := Nat.zero_le _
  stopped := nofun

theorem collapsed (dead : engine.life = .collapsed) : bid.Fits engine := by
  constructor <;> rw [dead] <;> exact nofun

/-- A running engine that calls for nothing has an idle bid. -/
theorem idle (fits : bid.Fits engine) (running : engine.life = .running)
    (resting : engine.attempting = false) : bid = .idle bid.least := by
  have none := fits.calling running
  rw [resting, if_neg Bool.false_ne_true] at none
  cases bid with
  | idle least => rfl
  | called generation time => cases none
  | underWay generation start plan => cases none

/-- A call is for the generation of the engine. -/
theorem current {generation : Nat} {start : Time} {plan : Plan}
    (fits : (Bid.underWay generation start plan).Fits engine) (running : engine.life = .running) :
    generation = engine.generation := by
  have calling := fits.calling running
  split at calling
  · exact Option.some.inj calling
  · cases calling

theorem quiet (fits : bid.Fits engine) (timely : bid.IsTimely timeout now) {effects : List Effect}
    (silent : ∀ effect ∈ effects, Effect.isBidding effect = false)
    (same : outline after = outline engine) : Leads timeout now bid effects after :=
  ⟨bid, .of_quiet_effects bid silent, fits.congr same, timely⟩

/-- An engine that releases what it has gives up its attempt, if there is one. -/
theorem release (fits : bid.Fits engine) (running : engine.life = .running)
    (timely : bid.IsTimely timeout now) (given : Engine)
    (same : given.attempting = engine.attempting) :
    ∃ least, Goes timeout bid (given.release.2.map (.engine now)) (.idle least) ∧
      least ≤ engine.generation + 1 := by
  let closing : List Effect := given.link.toList.map .closed
  have closes (bid : Bid) : Goes timeout bid (closing.map (.engine now)) bid := by
    refine .of_quiet_effects bid fun effect member => ?_
    obtain ⟨socket, -, rfl⟩ := List.mem_map.mp member
    rfl
  have parts : given.release.2 =
      closing ++ if engine.attempting then [.hungUp] else [] := by
    rw [← same]
    rfl
  rw [parts, List.map_append]
  refine ⟨bid.least, (closes bid).trans ?_, fits.bounded running⟩
  have calling := fits.calling running
  split
  · next attempting =>
      rw [if_pos attempting] at calling
      exact .giveUp (calling ▸ rfl) timely (.done _)
  · next resting =>
      have idle := fits.idle running (Bool.not_eq_true _ ▸ resting)
      rw [← idle]
      exact .done bid

theorem tick (fits : bid.Fits engine) (timely : bid.IsTimely timeout now)
    (awake : engine.IsAwake) {effects : List Effect} (tick : Tick now engine effects after)
    (unwarned : ∀ failure, .warned (.connectFailed failure) ∉ effects) :
    Leads timeout now bid effects after := by
  have running := awake.running
  cases tick with
  | remark effect said =>
      refine fits.quiet timely (fun other member => ?_) rfl
      rw [List.mem_singleton.mp member]
      cases effect with
      | warned warning =>
          cases warning with
          | connectFailed failure => exact absurd (List.mem_singleton_self _) (unwarned failure)
          | _ => rfl
      | noted note => rfl
      | _ => cases said
  | reschedule => exact fits.quiet timely (List.forall_mem_nil _) rfl
  | publish => exact fits.quiet timely (List.forall_mem_nil _) rfl
  | dial vacant =>
      have resting : engine.attempting = false := by
        by_contra attempting
        have phase := fits.connecting running (Bool.not_eq_false _ ▸ attempting)
        exact nomatch vacant.symm.trans phase
      have idle := fits.idle running resting
      refine ⟨.called engine.generation now, ?_, ⟨fun _ => rfl, fun _ _ => rfl,
        fun _ => Nat.le_refl _, fun _ => nofun, fun stopped => nomatch running.symm.trans stopped⟩,
        rfl⟩
      rw [idle]
      exact .pass rfl (.call (fits.vacant running vacant) (.done _))
  | push octets counted =>
      exact fits.quiet timely (fun _ member => List.mem_singleton.mp member ▸ rfl) rfl
  | hand free linked first =>
      exact fits.quiet timely (fun _ member => List.mem_singleton.mp member ▸ rfl) rfl
  | release =>
      obtain ⟨least, goes, bounded⟩ := fits.release running timely _ rfl
      exact ⟨.idle least, goes, ⟨fun _ => rfl, fun _ => nofun, fun _ => Nat.le_succ_of_le bounded,
        fun _ _ => bounded, fun _ => rfl⟩, trivial⟩
  | dismiss =>
      exact fits.quiet timely (Engine.forall_dismissAll (Effect.isBidding · = false) engine
        (fun _ => rfl) fun _ => rfl) rfl

theorem ticks (fits : bid.Fits engine) (timely : bid.IsTimely timeout now)
    {effects : List Effect} (ticks : Ticks now engine effects after)
    (unwarned : ∀ failure, .warned (.connectFailed failure) ∉ effects) :
    Leads timeout now bid effects after := by
  induction ticks generalizing bid with
  | done engine => exact ⟨bid, .done bid, fits, timely⟩
  | next awake tick _ ih =>
      obtain ⟨middle, one, fitting, still⟩ := fits.tick timely awake tick fun failure member =>
        unwarned failure (List.mem_append_left _ member)
      obtain ⟨last, rest, fit, ended⟩ := ih fitting still fun failure member =>
        unwarned failure (List.mem_append_right _ member)
      refine ⟨last, ?_, fit, ended⟩
      rw [List.map_append]
      exact one.trans rest

end Fits

/-- Whether a report, if it tells how an attempt ended, tells it of this bid in time. -/
def IsVerdict (timeout now : Time) (bid : Bid) : Report → Prop
  | .connected _ => ∃ generation start plan, bid = .underWay generation start plan ∧
      plan.failure? timeout = none ∧ now = start + plan.delay
  | .connectFailed failure => ∃ generation start plan, bid = .underWay generation start plan ∧
      plan.failure? timeout = some failure ∧ now = start + timeout
  | _ => True

namespace Fits

variable {bid : Bid} {engine after : Engine} {timeout now : Time} {stimulus : Stimulus}
  {effects : List Effect}

/-- An onset that is not a failed attempt keeps to the bid. -/
theorem onset (fits : bid.Fits engine) (timely : bid.IsTimely timeout now)
    (awake : engine.IsAwake) (onset : Onset now engine stimulus effects after)
    (unwarned : ∀ failure, .warned (.connectFailed failure) ∉ effects)
    (told : ∀ report, stimulus = .report engine.generation report →
      bid.IsVerdict timeout now report) :
    Leads timeout now bid effects after := by
  have running := awake.running
  have quiet (silent : ∀ effect ∈ effects, Effect.isBidding effect = false)
      (same : outline after = outline engine) : Leads timeout now bid effects after :=
    fits.quiet timely silent same
  have remark {effect : Effect} (said : effect.isRemark = true)
      (other : ∀ failure, effect ≠ .warned (.connectFailed failure)) :
      Effect.isBidding effect = false := by
    cases effect with
    | warned warning =>
        cases warning with
        | connectFailed failure => exact absurd rfl (other failure)
        | _ => rfl
    | noted note => rfl
    | _ => cases said
  have telling (tickets : List Nat) (outcome : Client.Outcome) :
      ∀ effect ∈ tickets.map (Effect.resolved · outcome), Effect.isBidding effect = false := by
    intro effect member
    obtain ⟨ticket, -, rfl⟩ := List.mem_map.mp member
    rfl
  cases onset with
  | plain told => exact quiet (List.forall_mem_nil _) rfl
  | disablePing => exact quiet (List.forall_mem_nil _) rfl
  | ring ringing taken early => exact quiet (List.forall_mem_nil _) rfl
  | enter talk pingAt asked said possible =>
      refine quiet (fun effect member => ?_) rfl
      rcases List.mem_append.mp member with spoken | told
      · rcases List.mem_cons.mp spoken with rfl | talked
        · rfl
        · exact remark (said effect talked) fun failure same =>
            unwarned failure (same ▸ member)
      · exact telling _ _ effect told
  | collapse asked impossible =>
      exact ⟨bid, .of_quiet_effects bid (engine.forall_collapse (Effect.isBidding · = false) _
        (fun _ => rfl) fun _ => rfl), .collapsed rfl, timely⟩
  | shutDown =>
      obtain ⟨least, goes, -⟩ := fits.release running timely
        ({ engine with board := { engine.board with shuttingDown := true } }.setPhase
          .shuttingDown) rfl
      have dismissed : ∀ effect ∈ (Engine.dismissAll (Engine.release
          ({ engine with board := { engine.board with shuttingDown := true } }.setPhase
            .shuttingDown)).1).2, Effect.isBidding effect = false :=
        Engine.forall_dismissAll _ _ (fun _ => rfl) fun _ => rfl
      refine ⟨.idle least, ?_, ⟨nofun, nofun, nofun, nofun, fun _ => rfl⟩, trivial⟩
      rw [Engine.shutDown, Engine.teardown, Reaction.andThen, Reaction.andThen, List.map_append,
        List.map_append]
      exact (goes.trans (.of_quiet_effects _ dismissed)).trans (.pass rfl (.done _))
  | attach socket =>
      obtain ⟨generation, start, plan, rfl, succeeds, punctual⟩ := told _ rfl
      have current := fits.current running
      subst current
      refine ⟨.idle (engine.generation + 1), .attach succeeds punctual (.pass rfl (.done _)),
        ⟨fun _ => rfl, fun _ => nofun, fun _ => Nat.le_refl _, fun _ => nofun, fun _ => rfl⟩,
        trivial⟩
  | redial failure => exact absurd List.mem_cons_self (unwarned failure)
  | @answer packet entry table found =>
      refine quiet (fun effect member => ?_) rfl
      rcases List.mem_cons.mp member with rfl | told
      · rfl
      · exact telling _ _ effect told
  | unknown packet effect said =>
      refine quiet (fun other member => ?_) rfl
      rw [List.mem_singleton.mp member]
      exact remark said fun failure same => unwarned failure (same ▸ List.mem_singleton_self _)
  | readFailed fault =>
      exact quiet (fun _ member => List.mem_singleton.mp member ▸ rfl) rfl
  | written =>
      refine quiet (fun effect member => ?_) rfl
      obtain ⟨write, -, rfl⟩ := List.mem_map.mp member
      rfl
  | writeFailed failure part =>
      obtain ⟨least, goes, bounded⟩ := fits.release running timely (engine.takeBack part).1 rfl
      have returned : ∀ effect ∈ Effect.warned (.writeFailed failure) ::
          (engine.takeBack part).2, Effect.isBidding effect = false := by
        refine List.forall_mem_cons.mpr ⟨rfl, fun effect member => ?_⟩
        obtain ⟨write, -, rfl⟩ := List.mem_map.mp member
        rfl
      rw [Leads, List.map_append]
      exact ⟨.idle least, (Goes.of_quiet_effects bid returned).trans goes,
        ⟨fun _ => rfl, fun _ => nofun, fun _ => Nat.le_succ_of_le bounded, fun _ _ => bounded,
          fun _ => rfl⟩, trivial⟩
  | stale generation report old =>
      exact quiet (engine.forall_ignoreReport (Effect.isBidding · = false) report (fun _ => rfl)
        fun _ => rfl) rfl
  | expire ringing fired =>
      refine quiet (fun effect member => ?_) rfl
      rcases List.mem_cons.mp member with rfl | told
      · rfl
      · exact telling _ _ effect told

/-- A running engine that hears of a failed attempt calls for the next one at once, and does
nothing else. -/
theorem redial (fits : bid.Fits engine) (awake : engine.IsAwake) {failure : IoFailure}
    (told : bid.IsVerdict timeout now (.connectFailed failure)) :
    Leads timeout now bid
      (engine.step now (.report engine.generation (.connectFailed failure))).2
      (engine.step now (.report engine.generation (.connectFailed failure))).1 := by
  obtain ⟨generation, start, plan, rfl, fails, punctual⟩ := told
  have running := awake.running
  have current := fits.current running
  subst current
  rw [Engine.step_connectFailed now running]
  exact ⟨.called engine.generation now, .fail fails punctual (.done _),
    ⟨fun _ => rfl, fun _ _ => rfl, fun _ => Nat.le_refl _, fun _ => nofun,
      fun stopped => nomatch running.symm.trans stopped⟩, rfl⟩

/-- Whatever a running engine is told, it keeps to the bid. -/
theorem step (fits : bid.Fits engine) (timely : bid.IsTimely timeout now) (awake : engine.IsAwake)
    (stimulus : Stimulus) (told : ∀ report, stimulus = .report engine.generation report →
      bid.IsVerdict timeout now report) :
    Leads timeout now bid (engine.step now stimulus).2 (engine.step now stimulus).1 := by
  by_cases failed : ∃ failure, stimulus = .report engine.generation (.connectFailed failure)
  · obtain ⟨failure, rfl⟩ := failed
    exact fits.redial awake (told _ rfl)
  · obtain ⟨first, middle, later, onset, ticks, effects⟩ := Engine.step_course now awake stimulus
    have unwarned (failure : IoFailure) :
        .warned (.connectFailed failure) ∉ (engine.step now stimulus).2 := fun member => by
      cases engine.warns_step now stimulus _ member _ rfl with
      | connectFailed reported => exact failed ⟨failure, reported⟩
    rw [effects] at unwarned ⊢
    obtain ⟨between, goes, fitting, still⟩ := fits.onset timely awake onset
      (fun failure member => unwarned failure (List.mem_append_left _ member)) told
    obtain ⟨last, further, fit, ended⟩ := fitting.ticks still ticks
      fun failure member => unwarned failure (List.mem_append_right _ member)
    refine ⟨last, ?_, fit, ended⟩
    rw [List.map_append]
    exact goes.trans further

end Fits

end Bid

end RequestMux.Network
