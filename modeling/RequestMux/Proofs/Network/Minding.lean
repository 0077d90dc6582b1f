import RequestMux.Proofs.Client.Generations
import RequestMux.Proofs.Network.Pacing

/-!
# A simulation minds its attempts

A bid says how the attempts of an engine stand.  A simulation minds it when the engine, the attempt,
the line of tasks and the reports on their way to the engine are all as the bid says.  When the
engine reacts to something, what is seen of it leads to another bid, which is minded then.
-/

namespace RequestMux.Network

open Client (Command Connection Effect Engine Report Stimulus Time)

theorem Takes.of_rest {stimulus : Stimulus} {inbox rest : List (Nat × Report)}
    (takes : Takes stimulus inbox rest) {entry : Nat × Report} (member : entry ∈ rest) :
    entry ∈ inbox := by
  cases stimulus with
  | report generation report =>
      rw [show inbox = (generation, report) :: rest from takes]
      exact List.mem_cons_of_mem _ member
  | _ => exact (show inbox = rest from takes) ▸ member

/-- What is in the inbox stays there, unless the engine is told of it. -/
theorem Takes.rest_or {stimulus : Stimulus} {inbox rest : List (Nat × Report)}
    (takes : Takes stimulus inbox rest) {entry : Nat × Report} (member : entry ∈ inbox) :
    entry ∈ rest ∨ stimulus = .report entry.1 entry.2 := by
  cases stimulus with
  | report generation report =>
      rw [show inbox = (generation, report) :: rest from takes] at member
      rcases List.mem_cons.mp member with rfl | later
      · exact .inr rfl
      · exact .inl later
  | _ => exact .inl ((show inbox = rest from takes) ▸ member)

theorem isBidding_of_isFarewell {life : Client.Life} {effect : Effect}
    (said : life.isFarewell effect = true) : Effect.isBidding effect = false := by
  cases effect with
  | resolved ticket outcome => rfl
  | abandoned ticket => rfl
  | noted note => rfl
  | _ => cases life <;> cases said

namespace Simulation

/-- Whether all that has to do with attempts is what a bid makes of it. -/
structure Minds (timeout : Time) (bid : Bid) (inbox : List (Nat × Report))
    (simulation : Simulation) : Prop where
  fits : bid.Fits simulation.connection.engine
  governs : bid.Governs timeout simulation
  lined : simulation.IsLined
  /-- What is reported of the attempt is reported in time. -/
  told : simulation.connection.engine.life = .running → ∀ entry ∈ inbox,
    isVerdict simulation.connection.engine.generation entry = true →
      bid.IsVerdict timeout simulation.now entry.2
  /-- An attempt goes on until its end is reported. -/
  ends : simulation.connection.engine.life = .running → ∀ generation start plan,
    bid = .underWay generation start plan → simulation.attempt.isSome = true ∨
      ∃ entry ∈ inbox, isVerdict simulation.connection.engine.generation entry = true

/-- From a bid a simulation goes on to another that it minds. -/
def MindsFrom (timeout : Time) (bid : Bid) (before : Simulation) (inbox : List (Nat × Report))
    (after : Simulation) : Prop :=
  ∃ sights last, after.chronicle = before.chronicle ++ sights ∧ bid.Goes timeout sights last ∧
    after.Minds timeout last inbox

variable {simulation middle after : Simulation} {timeout : Time} {bid last : Bid}
  {inbox rest : List (Nat × Report)}

theorem MindsFrom.trans (first : MindsFrom timeout bid simulation inbox middle)
    (second : ∀ bid, middle.Minds timeout bid inbox →
      MindsFrom timeout bid middle rest after) : MindsFrom timeout bid simulation rest after := by
  obtain ⟨sights, between, seen, goes, minds⟩ := first
  obtain ⟨more, last, noted, further, minds⟩ := second between minds
  refine ⟨sights ++ more, last, ?_, goes.trans further, minds⟩
  rw [noted, seen, List.append_assoc]

namespace Minds

theorem refl (minds : simulation.Minds timeout bid inbox) :
    MindsFrom timeout bid simulation inbox simulation :=
  ⟨[], bid, (List.append_nil _).symm, .done bid, minds⟩

/-- The clock has not passed the time of a bid. -/
theorem isTimely (minds : simulation.Minds timeout bid inbox)
    (running : simulation.connection.engine.life = .running) :
    bid.IsTimely timeout simulation.now := by
  cases bid with
  | idle least => trivial
  | called generation time => exact minds.governs.2.2
  | underWay generation start plan =>
      change simulation.now ≤ start + plan.span timeout
      rcases minds.ends running _ _ _ rfl with waits | ⟨entry, member, verdict⟩
      · obtain ⟨attempt, here⟩ := Option.isSome_iff_exists.mp waits
        exact (minds.governs.2 attempt here).2.le
      · have told := minds.told running entry member verdict
        obtain ⟨-, concluded⟩ := isVerdict_iff.mp verdict
        cases reported : entry.2 with
        | connected number =>
            rw [reported] at told
            obtain ⟨_, _, _, same, succeeds, punctual⟩ := told
            cases same
            rw [Plan.span_of_success succeeds]
            exact Nat.le_of_eq punctual
        | connectFailed failure =>
            rw [reported] at told
            obtain ⟨_, _, _, same, fails, punctual⟩ := told
            cases same
            rw [Plan.span_of_failure fails]
            exact Nat.le_of_eq punctual
        | _ =>
            rw [reported] at concluded
            cases concluded

theorem of_spares (minds : simulation.Minds timeout bid simulation.reports)
    (spares : simulation.Spares after) :
    MindsFrom timeout bid simulation after.reports after := by
  obtain ⟨sights, seen, quiet⟩ := spares.seen
  obtain ⟨more, reports, plain⟩ := spares.reports
  have engine := spares.engine
  simp only [Bid.Fits.outline, Prod.mk.injEq] at engine
  obtain ⟨life, -, generation, -⟩ := engine
  refine ⟨sights, bid, seen, .of_quiet bid quiet, minds.fits.congr spares.engine,
    minds.governs.congr spares.now spares.attempt spares.dial, spares.lined minds.lined, ?_, ?_⟩
  · rw [life, generation, spares.now, reports]
    intro running entry member verdict
    rcases List.mem_append.mp member with old | new
    · exact minds.told running entry old verdict
    · exact absurd ((plain entry new).symm.trans (isVerdict_iff.mp verdict).2) Bool.false_ne_true
  · rw [life, generation, spares.attempt, reports]
    intro running former start plan under
    refine (minds.ends running former start plan under).imp_right ?_
    rintro ⟨entry, member, verdict⟩
    exact ⟨entry, List.mem_append_left _ member, verdict⟩

end Minds

/-! What the engine does to the attempt. -/

theorem perform_dialed (lined : simulation.IsLined) (generation : Nat) :
    let called := simulation.perform (.dialed generation)
    called.now = simulation.now ∧
      called.chronicle =
        simulation.chronicle ++ [.engine simulation.now (.dialed generation)] ∧
      called.IsLined ∧ (Bid.called generation simulation.now).Governs timeout called := by
  let seen := simulation.see (.engine simulation.now (.dialed generation))
  let calling : Simulation := { seen with attempt := some ⟨generation, .unstarted⟩ }
  have wakes : (calling.wake .dial).now = simulation.now ∧
      (calling.wake .dial).attempt = calling.attempt ∧
      (calling.wake .dial).reports = simulation.reports ∧
      (calling.wake .dial).seen = seen.seen := by
    unfold wake
    split <;> exact ⟨rfl, rfl, rfl, rfl⟩
  obtain ⟨now, attempt, reports, noted⟩ := wakes
  have called : .dial ∈ (calling.wake .dial).tasks := Spares.mem_wake.mpr (.inr rfl)
  refine ⟨now, (congrArg List.reverse noted).trans (chronicle_see _ _),
    ⟨@Spares.nodup_wake calling lined.once .dial, fun some => ?_⟩, attempt, called, now⟩
  change (calling.wake .dial).reports ≠ [] at some
  rw [reports] at some
  exact Spares.mem_wake.mpr (.inl (lined.waiting some))

theorem perform_hungUp (lined : simulation.IsLined) (least : Nat) :
    let idle := simulation.perform .hungUp
    idle.IsLined ∧ (Bid.idle least).Governs timeout idle := by
  refine ⟨⟨lined.once.filter _, fun some => ?_⟩, rfl, fun member => ?_⟩
  · exact List.mem_filter.mpr ⟨lined.waiting some, rfl⟩
  · cases (List.mem_filter.mp member).2

theorem perform_attached (number : Nat) (simulation : Simulation) :
    let attached := simulation.perform (.attached number)
    (simulation.see (.engine simulation.now (.attached number))).Spares attached :=
  (Spares.wake _ (.reader number) nofun).trans (Spares.wake _ (.writer number) nofun)

/-- What the engine does is done to the attempt and the line, and seen among other things. -/
theorem performs_goes {effects : List Effect}
    (goes : bid.Goes timeout (effects.map (.engine simulation.now)) last)
    (governs : bid.Governs timeout simulation) (lined : simulation.IsLined)
    (settled : ∀ generation start plan, bid = .underWay generation start plan →
      ∀ number, .attached number ∈ effects → simulation.attempt = none) :
    (∃ sights, (effects.foldl perform simulation).chronicle = simulation.chronicle ++ sights ∧
      bid.Goes timeout sights last) ∧
    last.Governs timeout (effects.foldl perform simulation) ∧
    (effects.foldl perform simulation).IsLined := by
  generalize given : effects.map (Sight.engine simulation.now) = sights at goes
  induction goes generalizing effects simulation with
  | done =>
      rw [List.map_eq_nil_iff] at given
      subst given
      exact ⟨⟨[], (List.append_nil _).symm, .done _⟩, governs, lined⟩
  | pass other later ih =>
      obtain ⟨effect, effects, rfl, rfl, rfl⟩ := List.map_eq_cons_iff.mp given
      have spares := Spares.perform other simulation
      obtain ⟨sights, seen, quiet⟩ := spares.seen
      obtain ⟨⟨more, noted, goes⟩, governed, lined⟩ := ih
        (governs.congr spares.now spares.attempt spares.dial) (spares.lined lined)
        (fun generation start plan under number member => spares.attempt.trans
          (settled generation start plan under number (List.mem_cons_of_mem effect member)))
        (by rw [spares.now])
      refine ⟨⟨sights ++ more, ?_, (Bid.Goes.of_quiet _ quiet).trans goes⟩, governed, lined⟩
      rw [List.foldl_cons, noted, seen, List.append_assoc]
  | call fresh later ih =>
      obtain ⟨effect, effects, rfl, same, rfl⟩ := List.map_eq_cons_iff.mp given
      obtain ⟨rfl, rfl⟩ := Sight.engine.inj same
      obtain ⟨now, seen, called, calls⟩ := perform_dialed lined _
      obtain ⟨⟨more, noted, goes⟩, governed, lined⟩ := ih calls called nofun (by rw [now])
      refine ⟨⟨_ :: more, ?_, .call fresh goes⟩, governed, lined⟩
      rw [List.foldl_cons, noted, seen, List.append_assoc]
      rfl
  | «begin» plan later ih =>
      obtain ⟨effect, effects, -, absurd, -⟩ := List.map_eq_cons_iff.mp given
      cases absurd
  | @fail generation start time plan failure last rest fails punctual later ih =>
      obtain ⟨first, others, rfl, same, remaining⟩ := List.map_eq_cons_iff.mp given
      obtain ⟨second, others, rfl, alsoSame, remaining⟩ := List.map_eq_cons_iff.mp remaining
      obtain ⟨third, others, rfl, last, rfl⟩ := List.map_eq_cons_iff.mp remaining
      obtain ⟨rfl, rfl⟩ := Sight.engine.inj same
      obtain ⟨-, rfl⟩ := Sight.engine.inj alsoSame
      obtain ⟨-, rfl⟩ := Sight.engine.inj last
      let warned := (simulation.perform (.warned (.connectFailed failure))).perform
        (.noted (.connecting generation))
      have linedUp : warned.IsLined := ⟨lined.once, lined.waiting⟩
      obtain ⟨now, seen, called, calls⟩ := perform_dialed linedUp generation
      obtain ⟨⟨more, noted, goes⟩, governed, lined⟩ := ih calls called nofun (by rw [now]; rfl)
      refine ⟨⟨_ :: _ :: _ :: more, ?_, .fail fails punctual goes⟩, governed, lined⟩
      have told : warned.chronicle = simulation.chronicle ++
          [.engine simulation.now (.warned (.connectFailed failure)),
            .engine simulation.now (.noted (.connecting generation))] := by
        change (Simulation.see _ (Simulation.see _ simulation)).chronicle = _
        rw [chronicle_see, chronicle_see, List.append_assoc]
        rfl
      rw [List.foldl_cons, List.foldl_cons, List.foldl_cons, noted, seen]
      change (warned.chronicle ++ _) ++ more = _
      rw [told, List.append_assoc, List.append_assoc]
      rfl
  | @attach generation number start time plan last rest succeeds punctual later ih =>
      obtain ⟨effect, effects, rfl, same, rfl⟩ := List.map_eq_cons_iff.mp given
      obtain ⟨rfl, rfl⟩ := Sight.engine.inj same
      have spares := perform_attached number simulation
      have none : simulation.attempt = none := settled _ _ _ rfl number List.mem_cons_self
      have idles : (Bid.idle (generation + 1)).Governs timeout
          (simulation.perform (.attached number)) :=
        ⟨spares.attempt.trans none, fun member => governs.1 (spares.dial.mp member)⟩
      obtain ⟨sights, seen, quiet⟩ := spares.seen
      obtain ⟨⟨more, noted, goes⟩, governed, lined⟩ := ih idles
        (spares.lined ⟨lined.once, lined.waiting⟩) nofun (by rw [spares.now]; rfl)
      refine ⟨⟨.engine simulation.now (.attached number) :: (sights ++ more), ?_,
        .attach succeeds punctual ((Bid.Goes.of_quiet _ quiet).trans goes)⟩, governed, lined⟩
      rw [List.foldl_cons, noted, seen, chronicle_see, List.append_assoc, List.append_assoc]
      rfl
  | giveUp called timely later ih =>
      obtain ⟨effect, effects, rfl, same, rfl⟩ := List.map_eq_cons_iff.mp given
      obtain ⟨rfl, rfl⟩ := Sight.engine.inj same
      obtain ⟨idle, idles⟩ := perform_hungUp lined _
      obtain ⟨⟨more, noted, goes⟩, governed, lined⟩ := ih idles idle nofun rfl
      refine ⟨⟨_ :: more, ?_, .giveUp called timely goes⟩, governed, lined⟩
      have seen := chronicle_see simulation (.engine simulation.now .hungUp)
      rw [List.foldl_cons, noted, show (simulation.perform .hungUp).chronicle = _ from seen,
        List.append_assoc]
      rfl

namespace Minds

/-- What the engine is told of its attempt is told in time. -/
theorem verdict (minds : simulation.Minds timeout bid inbox)
    (running : simulation.connection.engine.life = .running) {stimulus : Stimulus}
    (takes : Takes stimulus inbox rest) (report : Report)
    (reported : stimulus = .report simulation.connection.engine.generation report) :
    bid.IsVerdict timeout simulation.now report := by
  subst reported
  have member : (simulation.connection.engine.generation, report) ∈ inbox :=
    takes ▸ List.mem_cons_self
  cases report with
  | connected number => exact minds.told running _ member (isVerdict_iff.mpr ⟨rfl, rfl⟩)
  | connectFailed failure => exact minds.told running _ member (isVerdict_iff.mpr ⟨rfl, rfl⟩)
  | _ => trivial

end Minds

/-- An attempt that succeeds is over when its socket is attached. -/
theorem IsSteady.attempt_of_attached (steady : simulation.IsSteady inbox)
    (running : simulation.connection.engine.life = .running) {stimulus : Stimulus}
    (takes : Takes stimulus inbox rest) {number : Nat}
    (attached : .attached number ∈
      (simulation.connection.engine.step simulation.now stimulus).2) :
    simulation.attempt = none := by
  have awake := steady.sound.awake running
  have connected := (Engine.step_course simulation.now awake stimulus).attached attached
  rw [connected] at takes
  have member : (simulation.connection.engine.generation, Report.connected number) ∈ inbox :=
    takes ▸ List.mem_cons_self
  exact ((steady.wired.live running).of_reported member (isVerdict_iff.mpr ⟨rfl, rfl⟩)).1

/-- An engine that is told how its attempt ended does not leave it at that. -/
theorem bids_of_isVerdict (running : simulation.connection.engine.life = .running)
    {entry : Nat × Report}
    (verdict : isVerdict simulation.connection.engine.generation entry = true) (now : Time) :
    ∃ effect ∈ (simulation.connection.engine.step now (.report entry.1 entry.2)).2,
      Effect.isBidding effect = true := by
  obtain ⟨this, concluded⟩ := isVerdict_iff.mp verdict
  obtain ⟨former, report⟩ := entry
  subst this
  cases report with
  | connected number => exact ⟨_, Engine.mem_step_connected now running number, rfl⟩
  | connectFailed failure =>
      refine ⟨.warned (.connectFailed failure), ?_, rfl⟩
      rw [Engine.step_connectFailed now running failure]
      exact List.mem_cons_self
  | _ => cases concluded

namespace Minds

/-- What a running engine does about a stimulus, in a simulation that stays steady. -/
theorem react (minds : simulation.Minds timeout bid inbox) (steady : simulation.IsSteady inbox)
    (running : simulation.connection.engine.life = .running) {stimulus : Stimulus}
    (takes : Takes stimulus inbox rest) (commands : List Command)
    (later : ((simulation.hear stimulus).accept (simulation.connection.takeOver commands
      (simulation.connection.engine.step simulation.now stimulus))).IsSteady rest) :
    MindsFrom timeout bid simulation rest ((simulation.hear stimulus).accept
      (simulation.connection.takeOver commands
        (simulation.connection.engine.step simulation.now stimulus))) := by
  let engine := simulation.connection.engine
  let reaction := engine.step simulation.now stimulus
  let taken := simulation.connection.takeOver commands reaction
  let after := (simulation.hear stimulus).accept taken
  obtain ⟨last, goes, fits, timely⟩ :=
    minds.fits.step (minds.isTimely running) (steady.sound.awake running) stimulus
      (minds.verdict running takes)
  obtain ⟨board, more, same, effects, farewell⟩ :=
    simulation.connection.takeOver_cases commands reaction
  have known : after.connection.engine = { reaction.1 with board } :=
    (congrArg (·.engine) (connection_accept _ taken)).trans same
  have fitting : last.Fits after.connection.engine := fits.congr (by rw [known]; rfl)
  have now : after.now = simulation.now := congrArg (·.1) (voice_accept _ taken)
  have settled (number : Nat) (member : .attached number ∈ taken.2) :
      simulation.attempt = none := by
    rw [effects] at member
    refine steady.attempt_of_attached running takes
      ((List.mem_append.mp member).resolve_right fun last => ?_)
    cases Client.Life.isIdle_of_isFarewell (farewell _ last)
  have course : bid.Goes timeout (taken.2.map (.engine simulation.now)) last := by
    rw [effects, List.map_append]
    exact goes.trans (.of_quiet_effects last fun effect member =>
      isBidding_of_isFarewell (farewell effect member))
  let heard : Simulation := { simulation.hear stimulus with connection := taken.1 }
  have governs : bid.Governs timeout heard := minds.governs.congr rfl rfl Iff.rfl
  obtain ⟨⟨sights, seen, went⟩, governed, lined⟩ := heard.performs_goes course governs
    ⟨minds.lined.once, minds.lined.waiting⟩ fun _ _ _ _ => settled
  have hears : heard.chronicle = simulation.chronicle ++ [.heard simulation.now stimulus] :=
    chronicle_see _ _
  refine ⟨.heard simulation.now stimulus :: sights, last, ?_, .pass rfl went,
    ⟨fitting, governed, lined, fun still entry member verdict => ?_,
      fun still generation start plan under => ?_⟩⟩
  · change (taken.2.foldl perform heard).chronicle = _
    rw [seen, hears, List.append_assoc]
    rfl
  · -- what is still in the inbox tells of the same attempt, for no other was called for
    have attempting := later.attempting member verdict still
    have none := ((later.wired.live still).of_reported member verdict).1
    have calling := fitting.calling still
    rw [if_pos attempting] at calling
    cases last with
    | idle least => cases calling
    | called generation time => exact nomatch governed.1.symm.trans none
    | underWay generation start plan =>
        obtain ⟨rfl, -⟩ := course.of_underWay rfl
        have current := minds.fits.current running
        have stays := fitting.current still
        rw [← stays, current] at verdict
        rw [now]
        exact minds.told running entry (takes.of_rest member) verdict
  · subst under
    obtain ⟨rfl, quiet⟩ := course.of_underWay rfl
    have current := minds.fits.current running
    have stays := fitting.current still
    have kept := (Spares.performs quiet heard).attempt
    rcases minds.ends running _ _ _ rfl with waits | ⟨entry, member, verdict⟩
    · left
      change (taken.2.foldl perform heard).attempt.isSome = true
      rw [kept]
      exact waits
    · right
      rcases takes.rest_or member with left | reported
      · refine ⟨entry, left, ?_⟩
        rw [← stays, current]
        exact verdict
      · obtain ⟨effect, does, bidding⟩ := bids_of_isVerdict running verdict simulation.now
        rw [← reported] at does
        have silent := quiet effect (effects ▸ List.mem_append_left more does)
        exact nomatch bidding.symm.trans silent

/-- Whatever the engine is told, if it still runs. -/
theorem stimulate (minds : simulation.Minds timeout bid inbox) (steady : simulation.IsSteady inbox)
    {stimulus : Stimulus} (takes : Takes stimulus inbox rest)
    (later : (simulation.stimulate stimulus).IsSteady rest) :
    MindsFrom timeout bid simulation rest (simulation.stimulate stimulus) := by
  by_cases running : simulation.connection.engine.life = .running
  · have reacts : simulation.connection.react simulation.now stimulus =
        simulation.connection.takeOver simulation.connection.mailbox
          (simulation.connection.engine.step simulation.now stimulus) := if_pos running
    unfold Simulation.stimulate at later ⊢
    rw [reacts] at later ⊢
    exact minds.react steady running takes _ later
  · have nothing : simulation.stimulate stimulus = simulation.hear stimulus := by
      unfold Simulation.stimulate Connection.react
      rw [if_neg running]
      rfl
    rw [nothing]
    refine ⟨[.heard simulation.now stimulus], bid, chronicle_see _ _, .pass rfl (.done bid),
      minds.fits, minds.governs.congr rfl rfl Iff.rfl, ⟨minds.lined.once, minds.lined.waiting⟩,
      fun still => absurd still running, fun still => absurd still running⟩

theorem serve (minds : simulation.Minds timeout bid simulation.reports)
    (steady : simulation.IsSteady simulation.reports) {command : Command}
    {commands : List Command} (waiting : simulation.connection.mailbox = command :: commands) :
    MindsFrom timeout bid simulation (simulation.serve command).reports
      (simulation.serve command) := by
  have running : simulation.connection.engine.life = .running := by
    by_contra ceased
    exact nomatch waiting.symm.trans (steady.sound.idle ceased)
  have served : simulation.connection.serve simulation.now =
      simulation.connection.takeOver commands
        (simulation.connection.engine.step simulation.now (.command command)) := by
    unfold Connection.serve
    rw [waiting]
  have later : (simulation.serve command).IsSteady (simulation.serve command).reports :=
    steady.advance ⟨serve_follows steady.sound command waiting, steady.serve waiting⟩
  have same : (simulation.serve command).reports = simulation.reports := inbox_of_hear _ _ _
  have takes : Takes (.command command) simulation.reports (simulation.serve command).reports :=
    same.symm
  unfold Simulation.serve at takes later ⊢
  rw [served] at takes later ⊢
  exact minds.react steady running takes commands later

/-- The engine, whose turn it is, takes its reports one by one. -/
theorem takeReports (minds : simulation.Minds timeout bid simulation.reports)
    (steady : simulation.IsSteady simulation.reports) {tasks : List Task}
    (first : simulation.tasks = .engine :: tasks) :
    MindsFrom timeout bid simulation ({ simulation with tasks }.takeReports).reports
      { simulation with tasks }.takeReports := by
  have each (reports : List (Nat × Report)) (simulation : Simulation) (bid : Bid)
      (empty : simulation.reports = []) (steady : simulation.IsSteady reports)
      (minds : simulation.Minds timeout bid reports) :
      let last := reports.foldl
        (fun simulation entry => simulation.stimulate (.report entry.1 entry.2)) simulation
      MindsFrom timeout bid simulation last.reports last := by
    induction reports generalizing simulation bid with
    | nil =>
        change MindsFrom timeout bid simulation simulation.reports simulation
        rw [empty]
        exact minds.refl
    | cons entry rest ih =>
        obtain ⟨generation, report⟩ := entry
        have takes : Takes (.report generation report) ((generation, report) :: rest) rest := rfl
        have goes : simulation.Goes (simulation.stimulate (.report generation report)) :=
          steady.report
        have later := steady.goes (beats_stimulate steady.sound takes)
          (sound_stimulate steady.sound _) goes
        have still : (simulation.stimulate (.report generation report)).reports = [] :=
          (inbox_of_hear _ _ _).trans empty
        exact (minds.stimulate steady takes later).trans fun bid minds =>
          ih _ bid still later minds
  let taken : Simulation := { simulation with tasks, reports := [] }
  have once := minds.lined.once
  rw [first] at once
  have governs : bid.Governs timeout taken := minds.governs.congr rfl rfl <| by
    rw [first]
    exact ⟨List.mem_cons_of_mem Task.engine, fun member =>
      (List.mem_cons.mp member).resolve_left nofun⟩
  exact each simulation.reports taken bid rfl
    ⟨steady.sound, steady.wired, steady.coherent, steady.timely⟩
    ⟨minds.fits, governs, ⟨(List.nodup_cons.mp once).2, fun some => absurd rfl some⟩, minds.told,
      minds.ends⟩

end Minds

end Simulation

end RequestMux.Network
