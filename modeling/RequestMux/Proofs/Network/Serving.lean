import RequestMux.Proofs.Network.Working

/-!
# A socket that brings letters back

A connection serves a gentle socket that sends back what it is sent.  Its letters pass from the
queue to the writer, to the wire, and into the reports, and keep their order on the way.  Every step
carries letters on: what a letter still costs falls, and as long as a letter is on its way there is
a task in the line that carries it on.
-/

namespace RequestMux.Network

open Client (Connection Effect Engine Hands Letter Reaction Report Time)
open Link (Script)

/-- The letters that a connection has open, by how far they have come. -/
structure Traffic where
  /-- What is reported: letters that have come back, and that the writer is done with a buffer. -/
  news : List (Option Letter)
  /-- They have come back, and the reader has not found them. -/
  echoed : List Letter
  /-- The writer has them. -/
  offered : List Letter
  queued : List Letter

namespace Traffic

/-- All letters that are open, in the order in which they were written. -/
def letters (traffic : Traffic) : List Letter :=
  traffic.news.filterMap id ++ (traffic.echoed ++ (traffic.offered ++ traffic.queued))

/-- How it is reported to the engine. -/
def entry : Option Letter → Nat × Report
  | some letter => (0, .frame letter.packet)
  | none => (0, .written)

/-- Steps that the letters still take, at most. -/
def cost (traffic : Traffic) : Nat :=
  traffic.news.length + 2 * traffic.echoed.length + 5 * traffic.offered.length +
    6 * traffic.queued.length

end Traffic

namespace Simulation

variable {simulation before after : Simulation} {settings : Settings} {limit : UInt32}
  {number : Nat} {told letters handed echoed offered later posted : List Letter}
  {traffic : Traffic}

/-- Letters are handed to the writer of a socket. -/
structure HandsOver (number : Nat) (handed : List Letter) (before after : Simulation) : Prop where
  bystands : before.Bystands after
  connection : after.connection = before.connection
  reports : after.reports = before.reports
  attempt : after.attempt = before.attempt
  rouses : before.Rouses (handed.map fun _ => .writer number) after
  socket : ∀ limit script back waiting,
    before.sockets[number]? = some (.echoing number limit script back waiting) →
      after.sockets[number]? =
        some (.echoing number limit script back (waiting ++ handed.map Letter.packet))

theorem performs_hands {effects : List Effect} (hands : Hands number handed effects)
    (simulation : Simulation) :
    simulation.HandsOver number handed (effects.foldl perform simulation) := by
  cases hands with
  | none =>
      refine ⟨.refl simulation, rfl, rfl, rfl, .of_same rfl,
        fun limit script back waiting there => ?_⟩
      rw [List.map_nil, List.append_nil]
      exact there
  | @one letter write same =>
      let seen := simulation.see (.engine simulation.now (.handed number write))
      let moved := seen.onSocket number fun socket =>
        { socket with writer := socket.writer.hand write.octets }
      change simulation.HandsOver number [letter] (moved.wake (.writer number))
      have bystands : simulation.Bystands moved := by
        have noted : simulation.Bystands seen := .see rfl rfl simulation
        exact ⟨rfl, rfl, noted.news⟩
      constructor
      case bystands => exact bystands.trans (.wake _ _)
      case connection => rw [wake_eq]; rfl
      case reports => rw [wake_eq]; rfl
      case attempt => rw [wake_eq]; rfl
      case rouses =>
        have still : simulation.Rouses [] moved := .of_same rfl
        exact still.trans (.wake (.writer number) moved)
      case socket =>
        intro limit script back waiting there
        have changed : (moved.wake (.writer number)).sockets = moved.sockets := by rw [wake_eq]
        rw [changed]
        change (simulation.sockets.modify number _)[number]? = _
        rw [List.getElem?_modify_eq, there, same]
        simp [Socket.echoing, Link.Writer.hand]

/-- How the tasks of a socket stand when these letters have come back and these are with its
writer. -/
structure Attends (limit : UInt32) (number : Nat) (echoed offered : List Letter)
    (simulation : Simulation) : Prop where
  idle : simulation.attempt = none
  socket : ∃ script : Script, script.IsGentle ∧ simulation.sockets[number]? =
    some (.echoing number limit script (echoed.map Letter.packet) (offered.map Letter.packet))
  tasks : ∀ task ∈ simulation.tasks,
    task = .engine ∨ task = .reader number ∨ task = .writer number

/-- A connection serves a socket, and the letters have come so far. -/
structure Serves (settings : Settings) (number : Nat) (told : List Letter) (traffic : Traffic)
    (posted : List Letter) (simulation : Simulation) : Prop where
  conveys : simulation.Conveys settings told traffic.letters traffic.queued posted
  phase : simulation.connection.engine.phase = .connected
  link : simulation.connection.engine.link = some number
  busy : simulation.connection.engine.inFlight.toList.length =
    traffic.offered.length + traffic.news.count none
  flowing : simulation.connection.engine.inFlight = none → traffic.queued = []
  attends : simulation.Attends settings.maxPayload number traffic.echoed traffic.offered

/-- Nothing changes around a socket. -/
theorem Attends.congr (attends : before.Attends limit number echoed offered)
    (attempt : after.attempt = before.attempt) (sockets : after.sockets = before.sockets)
    (tasks : after.tasks = before.tasks) : after.Attends limit number echoed offered := by
  constructor
  case idle => exact attempt.trans attends.idle
  case socket => rw [sockets]; exact attends.socket
  case tasks => rw [tasks]; exact attends.tasks

theorem Attends.hand (attends : before.Attends limit number echoed offered)
    (hands : before.HandsOver number handed after) :
    after.Attends limit number echoed (offered ++ handed) := by
  obtain ⟨script, gentle, there⟩ := attends.socket
  constructor
  case idle => exact hands.attempt.trans attends.idle
  case socket =>
    refine ⟨script, gentle, ?_⟩
    rw [List.map_append]
    exact hands.socket _ _ _ _ there
  case tasks =>
    intro task member
    rcases hands.rouses.only task member with old | new
    · exact attends.tasks task old
    · obtain ⟨letter, -, rfl⟩ := List.mem_map.mp new
      exact .inr (.inr rfl)

namespace Serves

/-- The engine has done something that is only seen, and has seen to it that its writer gets a
buffer. -/
theorem of_pumped (base : Simulation) (news : List (Option Letter)) {mute : List Effect}
    {reaction : Reaction} {count busy : Nat} {line mailbox : List Letter}
    (conveys : simulation.Conveys settings told letters line posted)
    (bystands : simulation.Bystands base) (engine : base.connection.engine = reaction.1)
    (mail : base.connection.mailbox = mailbox.map Letter.command)
    (attends : base.Attends settings.maxPayload number echoed offered)
    (silent : ∀ effect ∈ mute, effect.isMute = true)
    (pumped : Engine.Pumped settings
      (news.filterMap id ++ (echoed ++ (offered ++ (handed ++ later)))) handed later count number
        busy reaction)
    (counted : count =
      (news.filterMap id ++ (echoed ++ (offered ++ (handed ++ later)))).length + mailbox.length)
    (working : busy = offered.length + news.count none) :
    ((mute ++ reaction.2).foldl perform base).Serves settings number told
        ⟨news, echoed, offered ++ handed, later⟩ mailbox ∧
      ((mute ++ reaction.2).foldl perform base).reports = base.reports ∧
      base.Rouses (handed.map fun _ => .writer number)
        ((mute ++ reaction.2).foldl perform base) := by
  obtain ⟨seen, silently, quiet⟩ := performs_mute silent base
  have hands := performs_hands pumped.hands { base with seen }
  rw [List.foldl_append, silently]
  have stands : (reaction.2.foldl perform { base with seen }).connection.engine = reaction.1 :=
    (congrArg Connection.engine hands.connection).trans engine
  have waits : (reaction.2.foldl perform { base with seen }).connection.mailbox =
      mailbox.map Letter.command :=
    (congrArg Connection.mailbox hands.connection).trans mail
  have all : (Traffic.mk news echoed (offered ++ handed) later).letters =
      news.filterMap id ++ (echoed ++ (offered ++ (handed ++ later))) := by
    simp only [Traffic.letters, List.append_assoc]
  have rouses : base.Rouses [] { base with seen } := .of_same rfl
  refine ⟨⟨?_, ?_, ?_, ?_, ?_, ?_⟩, hands.reports, rouses.trans hands.rouses⟩
  · rw [all]
    refine conveys.take ((bystands.trans quiet).trans hands.bystands) waits ?_
    rw [stands, ← counted]
    exact pumped.hasOpen
  · rw [stands]
    exact pumped.phase
  · rw [stands]
    exact pumped.link
  · rw [stands, List.length_append, pumped.busy, working]
    exact Nat.add_right_comm _ _ _
  · rw [stands]
    exact pumped.flowing
  · have around : ({ base with seen } : Simulation).Attends settings.maxPayload number echoed
        offered := attends.congr rfl rfl rfl
    exact around.hand hands

/-- A letter that has come back is given to its caller. -/
theorem frame {letter : Letter} {news : List (Option Letter)}
    (serves : simulation.Serves settings number told ⟨some letter :: news, echoed, offered, later⟩
      posted) :
    let after := simulation.stimulate (.report 0 (.frame letter.packet))
    after.Serves settings number (told ++ [letter]) ⟨news, echoed, offered, later⟩ posted ∧
      after.reports = simulation.reports ∧ after.tasks = simulation.tasks := by
  intro after
  let rest : Traffic := ⟨news, echoed, offered, later⟩
  have conveys := serves.conveys
  have has : simulation.connection.engine.HasOpen settings (letter :: rest.letters) later
      (rest.letters.length + posted.length + 1) := by
    have has := conveys.engine
    have all : (Traffic.mk (some letter :: news) echoed offered later).letters =
      letter :: rest.letters := rfl
    rwa [all, List.length_cons, Nat.add_right_comm] at has
  obtain ⟨engine, entry, stepped, left, stand⟩ := has.frame simulation.now
  simp only [Engine.stand, Prod.mk.injEq] at stand
  obtain ⟨phase, link, inFlight⟩ := stand
  have unawaited : letter.ticket ∉ simulation.awaited := by
    rw [conveys.unawaited]
    exact List.not_mem_nil
  let heard := simulation.hear (.report 0 (.frame letter.packet))
  let answered := heard.see (.engine simulation.now (.answered entry letter.packet))
  let resolved := answered.see
    (.engine simulation.now (.resolved letter.ticket (.ok letter.packet)))
  have done : after = { resolved.see (.result simulation.now letter.ticket
      (.outcome (.ok letter.packet))) with
      connection := { simulation.connection with engine } } := by
    refine (stimulate_eq has.running stepped left.running).trans ?_
    simp only [List.foldl_cons, List.foldl_nil, perform, obey, deliver]
    exact if_neg unawaited
  have quiet : simulation.Bystands resolved :=
    ((Bystands.see rfl rfl simulation).trans (.see rfl rfl heard)).trans (.see rfl rfl answered)
  rw [done]
  refine ⟨⟨⟨conveys.handled, conveys.unawaited, ?_, conveys.mailbox, left⟩,
    phase.trans serves.phase, link.trans serves.link, ?_, ?_,
    serves.attends.congr rfl rfl rfl⟩, rfl, rfl⟩
  · have before := Prod.mk.inj (quiet.news.trans conveys.news)
    change ((resolved.see _).results, (resolved.see _).expiries) = _
    rw [results, expiries, chronicle_see, List.filterMap_append, List.filterMap_append,
      List.map_append]
    exact Prod.ext (congrArg (· ++ _) before.1) ((List.append_nil _).trans before.2)
  · change engine.inFlight.toList.length = _
    rw [inFlight, serves.busy, List.count_cons_of_ne (Option.some_ne_none letter)]
  · exact fun none => serves.flowing (inFlight.symm.trans none)

/-- The writer is done with its buffer, and gets the next one. -/
theorem written {news : List (Option Letter)}
    (serves : simulation.Serves settings number told ⟨none :: news, echoed, offered, later⟩
      posted) :
    let after := simulation.stimulate (.report 0 .written)
    ∃ handed left, later = handed ++ left ∧
      after.Serves settings number told ⟨news, echoed, offered ++ handed, left⟩ posted ∧
      after.reports = simulation.reports ∧
      simulation.Rouses (handed.map fun _ => .writer number) after := by
  intro after
  have conveys := serves.conveys
  have all : (Traffic.mk (none :: news) echoed offered later).letters =
    news.filterMap id ++ (echoed ++ (offered ++ later)) := rfl
  rw [all] at conveys
  obtain ⟨idle, mute, stepped, silent, has, stand⟩ := conveys.engine.written simulation.now
  simp only [Engine.stand, Prod.mk.injEq] at stand
  obtain ⟨phase, link, inFlight⟩ := stand
  obtain ⟨handed, left, rfl, pumped⟩ :=
    has.pump (phase.trans serves.phase) (link.trans serves.link)
  -- the writer had one buffer, of which it is reported now
  have single : simulation.connection.engine.inFlight.toList.length ≤ 1 := by
    cases simulation.connection.engine.inFlight <;> simp
  have working : idle.inFlight.toList.length = offered.length + news.count none := by
    have busy := serves.busy
    rw [List.count_cons_self] at busy
    dsimp only at busy
    rw [inFlight, Option.toList_none, List.length_nil]
    omega
  let base : Simulation := { simulation.hear (.report 0 .written) with
    connection := { simulation.connection with engine := idle.pumpWrites.1 } }
  have attends : base.Attends settings.maxPayload number echoed offered :=
    serves.attends.congr rfl rfl rfl
  have done : after = (mute ++ idle.pumpWrites.2).foldl perform base :=
    stimulate_eq conveys.engine.running stepped pumped.hasOpen.running
  have bystands : simulation.Bystands base :=
    ⟨rfl, rfl, (Bystands.see rfl rfl simulation).news⟩
  obtain ⟨serving, reports, rouses⟩ :=
    of_pumped base news conveys bystands rfl conveys.mailbox attends silent pumped rfl working
  have line : simulation.Rouses [] base := .of_same rfl
  rw [done]
  exact ⟨handed, left, rfl, serving, reports, line.trans rouses⟩

/-- The engine takes a letter out of the mailbox. -/
theorem serve {letter : Letter} {rest : List Letter}
    (serves : simulation.Serves settings number told traffic (letter :: rest))
    (possible : settings.effectiveReadTimeout.toNat ≤ Client.longestDelay)
    (free : letter.sync ∉ traffic.letters.map Letter.sync) :
    let after := simulation.serve letter.command
    ∃ handed left, traffic.queued ++ [letter] = handed ++ left ∧
      after.Serves settings number told
        { traffic with offered := traffic.offered ++ handed, queued := left } rest ∧
      after.reports = simulation.reports ∧
      simulation.Rouses (handed.map fun _ => .writer number) after := by
  intro after
  have conveys := serves.conveys
  obtain ⟨entered, entry, write, stepped, has, stand, -⟩ :=
    conveys.engine.write possible free simulation.now
  simp only [Engine.stand, Prod.mk.injEq] at stand
  obtain ⟨phase, link, inFlight⟩ := stand
  have connected : entered.phase = .connected := phase.trans serves.phase
  obtain ⟨handed, left, split, pumped⟩ := has.pump connected (link.trans serves.link)
  let mute : List Effect := [.registered entry, .enqueued write]
  let base : Simulation := { simulation.hear (.command letter.command) with
    connection := { simulation.connection with
      engine := entered.pumpWrites.1, mailbox := rest.map Letter.command } }
  have attends : base.Attends settings.maxPayload number traffic.echoed traffic.offered :=
    serves.attends.congr rfl rfl rfl
  have bystands : simulation.Bystands base :=
    ⟨rfl, rfl, (Bystands.see rfl rfl simulation).news⟩
  have working : entered.inFlight.toList.length =
      traffic.offered.length + traffic.news.count none := by
    rw [inFlight]
    exact serves.busy
  have all : traffic.letters ++ [letter] = traffic.news.filterMap id ++
      (traffic.echoed ++ (traffic.offered ++ (handed ++ left))) := by
    rw [← split, Traffic.letters]
    simp only [List.append_assoc]
  have counted : traffic.letters.length + (letter :: rest).length =
      (traffic.letters ++ [letter]).length + rest.length := by
    simp only [List.length_cons, List.length_append, List.length_nil]
    omega
  rw [all] at pumped counted
  have reacted : simulation.connection.engine.step simulation.now (.command letter.command) =
      (entered.pumpWrites.1, mute ++ entered.pumpWrites.2) := by
    rw [stepped, Reaction.andThen, Engine.dispatch, connected]
  have done : after = (mute ++ entered.pumpWrites.2).foldl perform base :=
    serve_eq conveys.mailbox reacted pumped.hasOpen.running
  have silent : ∀ effect ∈ mute, effect.isMute = true := by
    simp [mute, Effect.isMute]
  obtain ⟨serving, reports, rouses⟩ :=
    of_pumped base traffic.news conveys bystands rfl rfl attends silent pumped counted working
  have line : simulation.Rouses [] base := .of_same rfl
  rw [done]
  exact ⟨handed, left, split, serving, reports, line.trans rouses⟩

/-- There is no more than one buffer with the writer. -/
theorem single (serves : simulation.Serves settings number told traffic posted) :
    traffic.offered.length + traffic.news.count none ≤ 1 := by
  rw [← serves.busy]
  cases simulation.connection.engine.inFlight <;> simp

/-- A task of the socket has run, and the letters are where they were or further. -/
theorem move (serves : simulation.Serves settings number told traffic posted)
    {later : Traffic} {base : Simulation} {script : Script} (gentle : script.IsGentle)
    {reports : List Report} {woken : List Task}
    (works : simulation.Works number (.echoing number settings.maxPayload script
      (later.echoed.map Letter.packet) (later.offered.map Letter.packet)) reports woken base)
    (letters : later.letters = traffic.letters) (queued : later.queued = traffic.queued)
    (busy : later.offered.length + later.news.count none =
      traffic.offered.length + traffic.news.count none)
    (own : ∀ task ∈ woken, task = .engine ∨ task = .reader number ∨ task = .writer number) :
    base.Serves settings number told later posted := by
  constructor
  case conveys =>
    rw [letters, queued]
    exact serves.conveys.bystand works.bystands works.connection
  case phase => rw [works.connection]; exact serves.phase
  case link => rw [works.connection]; exact serves.link
  case busy => rw [works.connection, busy]; exact serves.busy
  case flowing => rw [works.connection, queued]; exact serves.flowing
  case attends =>
    refine ⟨works.attempt.trans serves.attends.idle, ⟨script, gentle, works.socket⟩,
      fun task member => ?_⟩
    exact (works.rouses.only task member).elim (serves.attends.tasks task) (own task)

/-- The reader finds the letters that have come back. -/
theorem runReader (serves : simulation.Serves settings number told traffic posted)
    (packed : ∀ letter ∈ traffic.letters,
      Field.IsPackedWithin settings.maxPayload letter.packet) :
    let after := simulation.runReader number
    after.Serves settings number told
        { traffic with news := traffic.news ++ traffic.echoed.map some, echoed := [] } posted ∧
      after.reports = simulation.reports ++ (traffic.echoed.map some).map Traffic.entry ∧
      simulation.Rouses (if traffic.echoed = [] then [] else [.engine]) after := by
  intro after
  obtain ⟨script, gentle, there⟩ := serves.attends.socket
  have whole : ∀ packet ∈ traffic.echoed.map Letter.packet,
      Field.IsPackedWithin settings.maxPayload packet := by
    intro packet member
    obtain ⟨letter, back, rfl⟩ := List.mem_map.mp member
    exact packed letter
      (List.mem_append_right _ (List.mem_append_left _ back))
  have works := runReader_echoing serves.conveys.engine.running there whole
  simp only [List.map_eq_nil_iff] at works
  have reported : (traffic.echoed.map some).map Traffic.entry =
      ((traffic.echoed.map Letter.packet).map Report.frame).map (Prod.mk 0) := by
    simp only [List.map_map]
    rfl
  refine ⟨serves.move gentle works ?_ rfl ?_ ?_, reported ▸ works.reports, works.rouses⟩
  · simp [Traffic.letters, List.filterMap_append]
  · have found : (traffic.echoed.map some).count none = 0 := List.count_eq_zero.mpr (by simp)
    rw [List.count_append, found, Nat.add_zero]
  · intro task member
    split at member
    · cases member
    · exact .inl (List.mem_singleton.mp member)

/-- The writer takes the buffer that it has to the socket. -/
theorem runWriter (serves : simulation.Serves settings number told traffic posted)
    (packed : ∀ letter ∈ traffic.letters,
      Field.IsPackedWithin settings.maxPayload letter.packet) :
    let after := simulation.runWriter number
    after.Serves settings number told
        { traffic with
          news := traffic.news ++ traffic.offered.map fun _ => none
          echoed := traffic.echoed ++ traffic.offered
          offered := [] } posted ∧
      after.reports = simulation.reports ++
        (traffic.offered.map fun _ => none).map Traffic.entry ∧
      simulation.Rouses (if traffic.offered = [] then [] else [.reader number, .engine]) after := by
  intro after
  obtain ⟨script, gentle, there⟩ := serves.attends.socket
  cases offered : traffic.offered with
  | nil =>
      rw [offered, List.map_nil] at there
      have works : simulation.Works number (.echoing number settings.maxPayload script
          ((traffic.echoed ++ []).map Letter.packet) []) [] [] after := by
        rw [List.append_nil]
        exact runWriter_idle there
      refine ⟨serves.move gentle works ?_ rfl ?_ (List.forall_mem_nil _), works.reports,
        works.rouses⟩
      · simp [Traffic.letters, offered]
      · simp [offered]
  | cons letter others =>
      have single := serves.single
      rw [offered, List.length_cons] at single
      obtain rfl : others = [] := List.length_eq_zero_iff.mp (by omega)
      have unwritten : traffic.news.count none = 0 := by omega
      rw [offered, List.map_cons, List.map_nil] at there
      have whole : Field.IsPackedWithin settings.maxPayload letter.packet := by
        refine packed letter (List.mem_append_right _ (List.mem_append_right _
          (List.mem_append_left _ ?_)))
        rw [offered]
        exact List.mem_cons_self
      obtain ⟨later, still, works⟩ :=
        runWriter_echoing serves.conveys.engine.running gentle there whole
      have back : traffic.echoed.map Letter.packet ++ [letter.packet] =
        (traffic.echoed ++ [letter]).map Letter.packet := by
        rw [List.map_append]
        rfl
      rw [back] at works
      refine ⟨serves.move still works ?_ rfl ?_ ?_, works.reports, works.rouses⟩
      · simp [Traffic.letters, offered, List.filterMap_append]
      · simp [offered, List.count_append, unwritten]
      · simp

/-- The engine takes all that is reported. -/
theorem takeAll (news : List (Option Letter))
    (serves : simulation.Serves settings number told ⟨news, echoed, offered, later⟩ posted)
    (writing : offered ≠ [] → .writer number ∈ simulation.tasks) :
    let after := (news.map Traffic.entry).foldl
      (fun simulation entry => simulation.stimulate (.report entry.1 entry.2)) simulation
    ∃ (known : List Letter) (passed : Traffic), passed.news = [] ∧ passed.echoed = echoed ∧
      after.Serves settings number known passed posted ∧
      after.reports = simulation.reports ∧
      known ++ passed.letters = told ++ (Traffic.mk news echoed offered later).letters ∧
      passed.cost + after.tasks.length ≤
        (Traffic.mk news echoed offered later).cost + simulation.tasks.length ∧
      (∀ task ∈ simulation.tasks, task ∈ after.tasks) ∧
      (passed.offered ≠ [] → .writer number ∈ after.tasks) := by
  induction news generalizing simulation told offered later with
  | nil => exact ⟨told, _, rfl, rfl, serves, rfl, rfl, Nat.le_refl _, fun _ => id, writing⟩
  | cons entry rest ih =>
      cases entry with
      | some letter =>
          obtain ⟨served, reports, tasks⟩ := serves.frame
          obtain ⟨known, passed, taken, back, serving, still, all, cost, kept, woken⟩ :=
            ih served (tasks ▸ writing)
          refine ⟨known, passed, taken, back, serving, still.trans reports, ?_, ?_, ?_, woken⟩
          · rw [all, List.append_assoc]
            rfl
          · refine Nat.le_trans cost ?_
            rw [tasks]
            simp only [Traffic.cost, List.length_cons]
            omega
          · rw [tasks] at kept
            exact kept
      | none =>
          obtain ⟨handed, left, rfl, served, reports, rouses⟩ := serves.written
          have offering : offered ++ handed ≠ [] →
              .writer number ∈ (simulation.stimulate (.report 0 .written)).tasks := by
            intro some
            by_cases none : handed = []
            · rw [none, List.append_nil] at some
              exact rouses.kept _ (writing some)
            · obtain ⟨letter, others, rfl⟩ := List.exists_cons_of_ne_nil none
              exact rouses.present _ List.mem_cons_self
          obtain ⟨known, passed, taken, back, serving, still, all, cost, kept, woken⟩ :=
            ih served offering
          refine ⟨known, passed, taken, back, serving, still.trans reports, ?_, ?_,
            fun task member => kept task (rouses.kept task member), woken⟩
          · rw [all]
            simp only [Traffic.letters, List.append_assoc]
            rfl
          · refine Nat.le_trans cost ?_
            have fewer := rouses.fewer
            simp only [Traffic.cost, List.length_cons, List.length_append, List.length_map]
              at fewer ⊢
            omega

/-- A task leaves the line. -/
theorem drop (serves : simulation.Serves settings number told traffic posted) {task : Task}
    {rest : List Task} (line : simulation.tasks = task :: rest) {reports : List (Nat × Report)} :
    ({ simulation with tasks := rest, reports } : Simulation).Serves settings number told traffic
      posted := by
  obtain ⟨script, gentle, there⟩ := serves.attends.socket
  refine ⟨serves.conveys.bystand ⟨rfl, rfl, rfl⟩ rfl, serves.phase, serves.link, serves.busy,
    serves.flowing, serves.attends.idle, ⟨script, gentle, there⟩, fun other member => ?_⟩
  exact serves.attends.tasks other (line ▸ List.mem_cons_of_mem _ member)

end Serves

/-- A connection serves a socket, and what carries letters on is in the line. -/
structure IsServing (settings : Settings) (number : Nat) (told : List Letter) (traffic : Traffic)
    (posted : List Letter) (simulation : Simulation) : Prop where
  serves : simulation.Serves settings number told traffic posted
  reports : simulation.reports = traffic.news.map Traffic.entry
  hearing : traffic.news ≠ [] → .engine ∈ simulation.tasks
  reading : traffic.echoed ≠ [] → .reader number ∈ simulation.tasks
  writing : traffic.offered ≠ [] → .writer number ∈ simulation.tasks

namespace IsServing

/-- Steps that the connection still takes, at most. -/
def cost (traffic : Traffic) (posted : List Letter) (simulation : Simulation) : Nat :=
  traffic.cost + 8 * posted.length + simulation.tasks.length

/-- The letters are carried on, at a lower cost. -/
def Leads (settings : Settings) (number : Nat) (told : List Letter) (traffic : Traffic)
    (posted : List Letter) (simulation next : Simulation) : Prop :=
  ∃ known later rest, next.IsServing settings number known later rest ∧
    known ++ (later.letters ++ rest) = told ++ (traffic.letters ++ posted) ∧
    cost later rest next < cost traffic posted simulation

variable (serving : simulation.IsServing settings number told traffic posted)
  (packed : ∀ letter ∈ traffic.letters ++ posted,
    Field.IsPackedWithin settings.maxPayload letter.packet)

include serving in
theorem serve {letter : Letter} {rest : List Letter} (waiting : posted = letter :: rest)
    (possible : settings.effectiveReadTimeout.toNat ≤ Client.longestDelay)
    (distinct : ((traffic.letters ++ posted).map Letter.sync).Nodup) :
    Leads settings number told traffic posted simulation (simulation.serve letter.command) := by
  subst waiting
  have free : letter.sync ∉ traffic.letters.map Letter.sync := by
    rw [List.map_append, List.map_cons] at distinct
    intro member
    exact (List.nodup_append.mp distinct).2.2 _ member _ List.mem_cons_self rfl
  obtain ⟨handed, left, split, served, reports, rouses⟩ := serving.serves.serve possible free
  refine ⟨told, _, rest, ⟨served, reports.trans serving.reports, fun some =>
    rouses.kept _ (serving.hearing some), fun some => rouses.kept _ (serving.reading some),
    fun some => ?_⟩, ?_, ?_⟩
  · by_cases none : handed = []
    · rw [none] at some
      exact rouses.kept _ (serving.writing (by simpa using some))
    · obtain ⟨first, others, rfl⟩ := List.exists_cons_of_ne_nil none
      exact rouses.present _ List.mem_cons_self
  · have order : handed ++ (left ++ rest) = traffic.queued ++ letter :: rest := by
      rw [← List.append_assoc, ← split, List.append_assoc, List.singleton_append]
    simp only [Traffic.letters, List.append_assoc, order]
  · have fewer := rouses.fewer
    have lengths := congrArg List.length split
    simp only [cost, Traffic.cost, List.length_cons, List.length_append, List.length_map,
      List.length_nil] at fewer lengths ⊢
    omega

include serving in
theorem takeReports {rest : List Task} (line : simulation.tasks = .engine :: rest) :
    Leads settings number told traffic posted simulation
      ({ simulation with tasks := rest } : Simulation).takeReports := by
  let base : Simulation := { simulation with tasks := rest, reports := [] }
  have remains {task : Task} (member : task ∈ simulation.tasks) (other : task ≠ .engine) :
      task ∈ rest := (List.mem_cons.mp (line ▸ member)).resolve_left other
  have dropped : base.Serves settings number told traffic posted := serving.serves.drop line
  obtain ⟨known, passed, taken, back, served, reports, all, less, kept, woken⟩ :=
    dropped.takeAll traffic.news fun some => remains (serving.writing some) (by simp)
  rw [Simulation.takeReports, serving.reports]
  change Leads settings number told traffic posted simulation (List.foldl _ base _)
  refine ⟨known, passed, posted,
    ⟨served, by rw [reports, taken]; rfl, fun some => (some taken).elim,
    fun some => ?_, woken⟩, ?_, ?_⟩
  · exact kept _ (remains (serving.reading (back ▸ some)) (by simp))
  · rw [← List.append_assoc, all, List.append_assoc]
  · simp only [cost, line, List.length_cons]
    have : passed.cost + _ ≤ traffic.cost + rest.length := less
    omega

include serving packed in
theorem runReader {rest : List Task} (line : simulation.tasks = .reader number :: rest) :
    Leads settings number told traffic posted simulation
      (({ simulation with tasks := rest } : Simulation).runReader number) := by
  let base : Simulation := { simulation with tasks := rest, reports := simulation.reports }
  have remains {task : Task} (member : task ∈ simulation.tasks) (other : task ≠ .reader number) :
      task ∈ rest := (List.mem_cons.mp (line ▸ member)).resolve_left other
  have dropped : base.Serves settings number told traffic posted := serving.serves.drop line
  obtain ⟨served, reports, rouses⟩ :=
    dropped.runReader fun letter member => packed letter (List.mem_append_left _ member)
  change Leads settings number told traffic posted simulation (base.runReader number)
  refine ⟨told, _, posted, ⟨served, ?_, fun some => ?_, fun none => (none rfl).elim,
    fun some => rouses.kept _ (remains (serving.writing some) (by simp))⟩, ?_, ?_⟩
  · rw [reports, List.map_append]
    exact congrArg (· ++ _) serving.reports
  · by_cases empty : traffic.echoed = []
    · have old : traffic.news ≠ [] := by simpa [empty] using some
      exact rouses.kept _ (remains (serving.hearing old) (by simp))
    · rw [if_neg empty] at rouses
      exact rouses.present _ List.mem_cons_self
  · simp [Traffic.letters, List.filterMap_append]
  · have fewer := rouses.fewer
    change _ ≤ rest.length + _ at fewer
    simp only [cost, Traffic.cost, line, List.length_cons, List.length_append, List.length_map,
      List.length_nil] at fewer ⊢
    split at fewer
    · next empty =>
        rw [empty]
        simp only [List.length_nil] at fewer ⊢
        omega
    · next some =>
        have := List.length_pos_of_ne_nil some
        simp only [List.length_cons, List.length_nil] at fewer
        omega

include serving packed in
theorem runWriter {rest : List Task} (line : simulation.tasks = .writer number :: rest) :
    Leads settings number told traffic posted simulation
      (({ simulation with tasks := rest } : Simulation).runWriter number) := by
  let base : Simulation := { simulation with tasks := rest, reports := simulation.reports }
  have remains {task : Task} (member : task ∈ simulation.tasks) (other : task ≠ .writer number) :
      task ∈ rest := (List.mem_cons.mp (line ▸ member)).resolve_left other
  have dropped : base.Serves settings number told traffic posted := serving.serves.drop line
  obtain ⟨served, reports, rouses⟩ :=
    dropped.runWriter fun letter member => packed letter (List.mem_append_left _ member)
  change Leads settings number told traffic posted simulation (base.runWriter number)
  refine ⟨told, _, posted, ⟨served, ?_, fun some => ?_, fun some => ?_,
    fun none => (none rfl).elim⟩, ?_, ?_⟩
  · rw [reports, List.map_append]
    exact congrArg (· ++ _) serving.reports
  · by_cases empty : traffic.offered = []
    · have old : traffic.news ≠ [] := by simpa [empty] using some
      exact rouses.kept _ (remains (serving.hearing old) (by simp))
    · rw [if_neg empty] at rouses
      exact rouses.present _ (by simp)
  · by_cases empty : traffic.offered = []
    · have old : traffic.echoed ≠ [] := by simpa [empty] using some
      exact rouses.kept _ (remains (serving.reading old) (by simp))
    · rw [if_neg empty] at rouses
      exact rouses.present _ (by simp)
  · simp [Traffic.letters, List.filterMap_append]
  · have fewer := rouses.fewer
    change _ ≤ rest.length + _ at fewer
    simp only [cost, Traffic.cost, line, List.length_cons, List.length_append, List.length_map,
      List.length_nil] at fewer ⊢
    split at fewer
    · next empty =>
        rw [empty]
        simp only [List.length_nil] at fewer ⊢
        omega
    · next some =>
        have := List.length_pos_of_ne_nil some
        simp only [List.length_cons, List.length_nil] at fewer
        omega

include serving in
/-- While letters are open, there is something to do. -/
theorem ended (unserved : simulation.connection.mailbox = []) (free : simulation.tasks = []) :
    traffic.letters = [] ∧ posted = [] := by
  have news : traffic.news = [] := by
    by_contra some
    exact absurd (serving.hearing some) (free ▸ List.not_mem_nil)
  have echoed : traffic.echoed = [] := by
    by_contra some
    exact absurd (serving.reading some) (free ▸ List.not_mem_nil)
  have offered : traffic.offered = [] := by
    by_contra some
    exact absurd (serving.writing some) (free ▸ List.not_mem_nil)
  have idle : simulation.connection.engine.inFlight = none := by
    have busy := serving.serves.busy
    rw [offered, news] at busy
    cases held : simulation.connection.engine.inFlight with
    | none => rfl
    | some write =>
        rw [held] at busy
        cases busy
  have queued := serving.serves.flowing idle
  refine ⟨by simp [Traffic.letters, news, echoed, offered, queued], ?_⟩
  exact List.map_eq_nil_iff.mp (serving.serves.conveys.mailbox.symm.trans unserved)

include serving packed in
/-- A step of a connection that serves a socket carries its letters on. -/
theorem step? {horizon : Time} {next : Simulation}
    (possible : settings.effectiveReadTimeout.toNat ≤ Client.longestDelay)
    (distinct : ((traffic.letters ++ posted).map Letter.sync).Nodup)
    (stepped : simulation.step? horizon = some next) :
    Leads settings number told traffic posted simulation next := by
  have mailbox := serving.serves.conveys.mailbox
  unfold Simulation.step? at stepped
  split at stepped
  · next command commands waiting =>
      obtain ⟨letter, rest, there, rfl, -⟩ := List.map_eq_cons_iff.mp (mailbox.symm.trans waiting)
      cases stepped
      exact serving.serve there possible distinct
  · next task rest unserved line =>
      cases stepped
      rcases serving.serves.attends.tasks task (line ▸ List.mem_cons_self) with rfl | rfl | rfl
      · exact serving.takeReports line
      · exact serving.runReader packed line
      · exact serving.runWriter packed line
  · next unserved free =>
      have conveys := serving.serves.conveys
      rw [(serving.ended unserved free).1] at conveys
      rw [conveys.untimed serving.serves.attends.idle] at stepped
      cases stepped

end IsServing

end Simulation

end RequestMux.Network
