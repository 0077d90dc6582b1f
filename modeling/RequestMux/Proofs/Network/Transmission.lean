import RequestMux.Proofs.Network.Stock

/-!
# Transmission

On every socket, what was accepted is a stretch of whole buffers and a part of the next one,
and nothing follows a buffer that was cut off.  No buffer is accepted as a whole twice.
-/

namespace RequestMux.Network

open Client (Convoy Effect Engine March Onset QueuedWrite Report Stimulus Stretch Tick Time
  attachedIn enqueuedIn handedIn handedTo)
open Link (Writer)

namespace Scene

/-- A scene after a socket's writer has run. -/
def written (scene : Scene) (number : Nat) (socket : Socket) : Scene :=
  ((scene.onSocket number fun _ => socket.write.socket).note (socket.write.sights number)).mail
    socket.generation socket.write.report.toList

section Writing

variable {scene : Scene} {number : Nat} {socket : Socket}

theorem writers_written (there : scene.sockets[number]? = some socket) (place : Nat) :
    (scene.written number socket).writers[place]? =
      if place = number then some (socket.writer.run socket.script).writer
      else scene.writers[place]? := by
  unfold written writers
  rw [mail_sockets]
  change ((scene.sockets.modify number fun _ => socket.write.socket).map Socket.writer)[place]? = _
  rw [List.getElem?_map, List.getElem?_map, List.getElem?_modify]
  by_cases here : place = number
  · subst here
    rw [there, if_pos rfl, ← socket.writer_write]
    change some (if place = place then socket.write.socket else socket).writer = _
    rw [if_pos rfl]
  · rw [if_neg here]
    cases scene.sockets[place]? with
    | none => rfl
    | some other =>
        change some (if number = place then socket.write.socket else other).writer = _
        rw [if_neg (Ne.symm here)]
        rfl

theorem length_writers_written (scene : Scene) (number : Nat) (socket : Socket) :
    (scene.written number socket).writers.length = scene.writers.length := by
  unfold written writers
  rw [mail_sockets]
  change ((scene.sockets.modify number _).map Socket.writer).length = _
  rw [List.length_map, List.length_map, List.length_modify]

theorem effectsIn_written (scene : Scene) (number : Nat) (socket : Socket) :
    effectsIn (scene.written number socket).record = effectsIn scene.record := by
  unfold written
  rw [mail_record]
  change effectsIn (scene.record ++ _) = _
  rw [effectsIn_append, effectsIn_sights, List.append_nil]

theorem sentOn_written (scene : Scene) (number : Nat) (socket : Socket) (place : Nat) :
    sentOn place (scene.written number socket).record =
      sentOn place scene.record ++
        if place = number then (socket.writer.run socket.script).sent else [] := by
  unfold written
  rw [mail_record]
  change sentOn place (scene.record ++ _) = _
  rw [sentOn_append]
  by_cases here : place = number
  · subst here
    rw [if_pos rfl, sentOn_sights]
    rfl
  · rw [if_neg here, sentOn_sights_other (Ne.symm here)]

/-- A run of a writer gives no socket a claim. -/
theorem claims_of_written (there : scene.sockets[number]? = some socket) {place : Nat}
    {write : QueuedWrite} (claims : (scene.written number socket).Claims place write) :
    scene.Claims place write := by
  obtain ⟨handed, something, completed⟩ := claims
  unfold completedOn at completed
  rw [effectsIn_written] at handed completed
  rw [writers_written there, sentOn_written] at completed
  refine ⟨handed, something, fun writer here halted => ?_⟩
  by_cases same : place = number
  · subst same
    have isWriter : socket.writer = writer := by
      unfold writers at here
      rw [List.getElem?_map, there] at here
      exact Option.some.inj here
    subst isWriter
    rw [Writer.run_of_halted halted, if_pos rfl, if_pos rfl, List.append_nil] at completed
    exact completed socket.writer rfl halted
  · rw [if_neg same, if_neg same, List.append_nil] at completed
    exact completed writer here halted

theorem IsStocked.write (stocked : scene.IsStocked) (there : scene.sockets[number]? = some socket) :
    (scene.written number socket).IsStocked := by
  have here := writers_of_socket there
  constructor
  case fed =>
    intro place writer found
    rw [effectsIn_written, sentOn_written]
    rw [writers_written there] at found
    split at found
    · next same =>
        subst same
        cases found
        rw [if_pos rfl]
        exact (stocked.fed place socket.writer here).run socket.script
    · next differs =>
        rw [if_neg differs, List.append_nil]
        exact stocked.fed place writer found
  case unused =>
    intro place beyond
    rw [length_writers_written] at beyond
    have differs : place ≠ number := by
      rintro rfl
      exact Nat.not_le_of_lt (List.getElem?_eq_some_iff.mp here).1 beyond
    rw [effectsIn_written, sentOn_written, if_neg differs, List.append_nil]
    exact stocked.unused place beyond
  case single =>
    intro write first second one two
    exact stocked.single write first second (claims_of_written there one)
      (claims_of_written there two)

/-- What a writer reports settles a buffer. -/
theorem isSettlement_of_write {report : Report} (member : report ∈ socket.write.report)
    (generation : Nat) : isSettlement generation (generation, report) = true := by
  rw [isSettlement_iff]
  rcases Socket.mem_write member with rfl | ⟨failure, part, rfl⟩
  · exact ⟨rfl, rfl⟩
  · exact ⟨rfl, rfl⟩

/-- A run of the writer of a socket that is not served settles nothing. -/
theorem IsInStep.write_unserved (inStep : scene.IsInStep)
    (there : scene.sockets[number]? = some socket) (unserved : scene.engine.link ≠ some number)
    (silent : scene.engine.life = .running → socket.generation = scene.engine.generation →
      socket.write.report = none) : (scene.written number socket).IsInStep := by
  have engine : (scene.written number socket).engine = scene.engine := mail_engine _ _ _
  have settled : (scene.written number socket).settlements = scene.settlements := by
    unfold settlements
    rw [engine]
    by_cases running : scene.engine.life = .running
    · unfold written
      rw [mail_running]
      · change (scene.inbox ++ _).filter _ = _
        rw [List.filter_append, List.append_right_eq_self, List.filter_eq_nil_iff]
        intro entry member
        obtain ⟨report, here, rfl⟩ := List.mem_map.mp member
        intro settles
        have current : socket.generation = scene.engine.generation := (isSettlement_iff.mp settles).1
        rw [silent running current] at here
        cases here
      · exact running
    · unfold written
      rw [mail_over]
      · rfl
      · exact running
  have others {place : Nat} (served : scene.engine.link = some place) :
      (scene.written number socket).writers[place]? = scene.writers[place]? := by
    rw [writers_written there, if_neg]
    rintro rfl
    exact unserved served
  constructor
  case load =>
    have burden : (scene.written number socket).burden = scene.burden := by
      unfold burden
      rw [engine]
      cases served : scene.engine.link with
      | none => rfl
      | some place =>
          rw [Option.bind_some, Option.bind_some, others served]
    rw [engine, settled, burden]
    exact inStep.load
  case latest =>
    rw [engine, effectsIn_written]
    exact inStep.latest
  case failed =>
    rw [settled, engine, effectsIn_written]
    intro entry member failure failed place writer served found
    rw [others served] at found
    have differs : place ≠ number := by
      rintro rfl
      exact unserved served
    rw [sentOn_written, if_neg differs, List.append_nil]
    exact inStep.failed entry member failure failed place writer served found
  case spent =>
    rw [engine]
    intro write member place claims
    exact inStep.spent write member place (claims_of_written there claims)
  case kept =>
    rw [engine]
    intro write member place claims
    exact inStep.kept write member place (claims_of_written there claims)

/-- A run of the writer of the socket that is served. -/
theorem IsInStep.write_served (inStep : scene.IsInStep) (stocked : scene.IsStocked)
    (there : scene.sockets[number]? = some socket) (served : scene.engine.link = some number)
    (running : scene.engine.life = .running)
    (current : socket.generation = scene.engine.generation) :
    (scene.written number socket).IsInStep := by
  have engine : (scene.written number socket).engine = scene.engine := mail_engine _ _ _
  have here := writers_of_socket there
  have fed := stocked.fed number socket.writer here
  have ran := Writer.run_isRunOf fed.fit socket.script
  have settled : (scene.written number socket).settlements = scene.settlements ++
      socket.write.report.toList.map fun report => (scene.engine.generation, report) := by
    unfold settlements
    rw [engine]
    unfold written
    rw [mail_running]
    · change (scene.inbox ++ _).filter _ = _
      rw [List.filter_append, current]
      refine congrArg (_ ++ ·) (List.filter_eq_self.mpr fun entry member => ?_)
      obtain ⟨report, told, rfl⟩ := List.mem_map.mp member
      exact isSettlement_of_write (Option.mem_toList.mp told) _
    · exact running
  constructor
  case load =>
    have before : scene.burden = socket.writer.load := by
      unfold burden
      rw [served, Option.bind_some, here]
      rfl
    have after : (scene.written number socket).burden =
        (socket.writer.run socket.script).writer.load := by
      unfold burden
      rw [engine, served, Option.bind_some, writers_written there, if_pos rfl]
      rfl
    have load := ran.load
    change _ + socket.write.report.toList.length = _ at load
    rw [engine, settled, after, List.length_append, List.length_map, inStep.load, before]
    omega
  case latest =>
    rw [engine, effectsIn_written]
    exact inStep.latest
  case failed =>
    rw [settled, engine, effectsIn_written]
    intro entry member failure failed place writer linked found
    cases served.symm.trans linked
    rw [writers_written there, if_pos rfl] at found
    cases found
    rw [sentOn_written, if_pos rfl]
    rcases List.mem_append.mp member with old | new
    · obtain ⟨halted, short⟩ := inStep.failed entry old failure failed number socket.writer served here
      rw [Writer.run_of_halted halted, List.append_nil]
      exact ⟨halted, short⟩
    · obtain ⟨report, told, rfl⟩ := List.mem_map.mp new
      have reported : (socket.writer.run socket.script).report = some (.writeFailed failure true) :=
        (Option.mem_toList.mp told).trans (congrArg some failed)
      refine ⟨ran.failed failure true reported, ?_⟩
      cases halted : socket.writer.halted with
      | true =>
          rw [Writer.run_of_halted halted] at reported
          cases reported
      | false =>
          rw [fed.rest halted, List.length_append, List.length_append]
          exact Nat.add_lt_add_left (ran.cut failure reported) _
  case spent =>
    rw [engine]
    intro write member place claims
    exact inStep.spent write member place (claims_of_written there claims)
  case kept =>
    rw [engine]
    intro write member place claims
    exact inStep.kept write member place (claims_of_written there claims)

end Writing

/-- What is taken from the inbox settles nothing, unless it tells what became of a buffer. -/
theorem filter_of_takes {stimulus : Stimulus} {inbox rest : List (Nat × Report)} {generation : Nat}
    (takes : Takes stimulus inbox rest)
    (calm : ∀ report, stimulus = .report generation report → settles report = false) :
    rest.filter (isSettlement generation) = inbox.filter (isSettlement generation) := by
  cases stimulus with
  | report former report =>
      have unsettling : ¬isSettlement generation (former, report) = true := by
        intro settling
        obtain ⟨rfl, told⟩ := isSettlement_iff.mp settling
        exact nomatch (calm report rfl).symm.trans told
      rw [show inbox = (former, report) :: rest from takes, List.filter_cons_of_neg unsettling]
  | _ => rw [show inbox = rest from takes]

/-- A scene that is wired, with the buffers in their order, and every buffer where it may be. -/
structure IsLoaded (scene : Scene) : Prop where
  wired : scene.IsWired
  march : March (effectsIn scene.record) scene.engine
  stocked : scene.IsStocked
  inStep : scene.engine.life = .running → scene.IsInStep

namespace IsLoaded

variable {scene after : Scene} {now : Time}

theorem stretch (loaded : scene.IsLoaded) : Stretch (effectsIn scene.record) scene.engine :=
  loaded.march.2 loaded.wired.once

theorem nodup_handedTo (loaded : scene.IsLoaded) (number : Nat) :
    (handedTo number (effectsIn scene.record)).Nodup :=
  (loaded.stretch.whole number).sublist.nodup loaded.march.1.nodup_enqueuedIn

theorem unhanded (loaded : scene.IsLoaded) {number : Nat}
    (unattached : number ∉ attachedIn (effectsIn scene.record)) :
    handedTo number (effectsIn scene.record) = [] := by
  by_contra something
  exact unattached (loaded.stretch.introduced number something)

/-- A buffer that was cut off is claimed by no socket any more. -/
theorem unclaimed (loaded : scene.IsLoaded) (running : scene.engine.life = .running)
    {failure : IoFailure}
    (reported : (scene.engine.generation, .writeFailed failure true) ∈ scene.inbox)
    {write : QueuedWrite} (inFlight : scene.engine.inFlight = some write) (number : Nat) :
    ¬scene.Claims number write := by
  intro claims
  have inStep := loaded.inStep running
  obtain ⟨served, linked, last⟩ := inStep.latest write inFlight
  obtain ⟨socket, there, -⟩ := (loaded.wired.live running).linked served linked
  cases (inStep.kept write inFlight number claims).symm.trans linked
  have settlement : (scene.engine.generation, Report.writeFailed failure true) ∈
      scene.settlements := by
    exact List.mem_filter.mpr ⟨reported, isSettlement_iff.mpr ⟨rfl, rfl⟩⟩
  have here := writers_of_socket there
  obtain ⟨halted, short⟩ := inStep.failed _ settlement failure rfl number socket.writer linked here
  obtain ⟨before, cut⟩ := List.getLast?_eq_some_iff.mp last
  have distinct := loaded.nodup_handedTo number
  have completed := claims.2.2 socket.writer here halted
  unfold completedOn at completed
  rw [cut] at distinct short completed
  exact last_not_mem_covered distinct short completed

/-- What the way of the buffers depends on in the engine. -/
def freight (engine : Engine) : Nat × Option Nat × Option QueuedWrite × List QueuedWrite :=
  (engine.generation, engine.link, engine.inFlight, engine.queue)

/-- The scene after an onset. -/
theorem onset (loaded : scene.IsLoaded) {stimulus : Stimulus} {first : List Effect}
    {middle : Engine} {rest : List (Nat × Report)} (awake : scene.engine.IsAwake)
    (takes : Takes stimulus scene.inbox rest)
    (onset : Onset now scene.engine stimulus first middle)
    (isAfter : after = (((scene.withInbox rest).note [.heard now stimulus]).performAll now
      first).withEngine middle) :
    after.IsStocked ∧ (after.engine.life = .running → after.IsInStep) := by
  have stock : SameStock scene after := by
    have noted : SameStock (scene.withInbox rest)
        ((scene.withInbox rest).note [.heard now stimulus]) := SameStock.note rfl fun _ => rfl
    have performed : SameStock (scene.withInbox rest) (((scene.withInbox rest).note
        [.heard now stimulus]).performAll now first) :=
      noted.trans (SameStock.performAll onset.handed?_eq_none)
    rw [isAfter]
    exact ⟨performed.length, performed.like, performed.handed, performed.sent⟩
  have settlements : after.settlements = rest.filter (isSettlement middle.generation) := by
    rw [isAfter]
    change (performAll now first _).inbox.filter _ = _
    rw [performAll_inbox]
    rfl
  have engine : after.engine = middle := by
    rw [isAfter]
    rfl
  refine ⟨loaded.stocked.same stock, fun running => ?_⟩
  have inStep := loaded.inStep awake.running
  have plain (same : freight middle = freight scene.engine)
      (calm : ∀ report, stimulus = .report scene.engine.generation report →
        settles report = false) : after.IsInStep := by
    simp only [freight, Prod.mk.injEq] at same
    obtain ⟨generation, link, inFlight, queue⟩ := same
    refine inStep.same stock (engine ▸ link) (engine ▸ inFlight) ?_ ?_
    · rw [engine, queue]
      exact inStep.spent
    · rw [settlements, generation]
      exact filter_of_takes takes calm
  cases onset with
  | attach number =>
      have live := loaded.wired.live awake.running
      have here : scene.inbox = (scene.engine.generation, .connected number) :: rest := takes
      have verdict : isVerdict scene.engine.generation (scene.engine.generation, .connected number) =
          true := isVerdict_iff.mpr ⟨rfl, rfl⟩
      obtain ⟨-, unlinked, -⟩ := tokens_eq_zero_iff.mp (live.of_verdict here verdict)
      have unattached := live.unattached number (here ▸ List.mem_cons_self)
      refine inStep.attach loaded.stocked stock unlinked (loaded.unhanded unattached) ?_ ?_ ?_ ?_
      · rw [engine]
      · rw [engine]
        rfl
      · rw [engine]
        rfl
      · rw [settlements]
        refine filter_of_takes takes fun report same => ?_
        cases same
        rfl
  | written =>
      have settled : scene.settlements =
          (scene.engine.generation, .written) :: after.settlements := by
        have settling : isSettlement scene.engine.generation
            (scene.engine.generation, .written) = true := isSettlement_iff.mpr ⟨rfl, rfl⟩
        rw [settlements]
        unfold Scene.settlements
        rw [show scene.inbox = (scene.engine.generation, .written) :: rest from takes,
          List.filter_cons_of_pos settling]
      refine inStep.settle stock ?_ ?_ ?_ settled
      · rw [engine]
      · rw [engine]
      · rw [engine]
  | writeFailed failure part =>
      have here : scene.inbox = (scene.engine.generation, .writeFailed failure part) :: rest := takes
      have settled : after.settlements = [] := by
        rw [settlements, List.filter_eq_nil_iff]
        intro entry member settling
        have old := loaded.wired.mailed entry (here ▸ List.mem_cons_of_mem _ member)
        rw [(isSettlement_iff.mp settling).1] at old
        exact Nat.not_succ_le_self _ old
      refine .of_unlinked ?_ ?_ settled fun write member number claims => ?_
      · rw [engine]
        rfl
      · rw [engine]
        rfl
      · rw [engine] at member
        have claimed := stock.claims claims
        rcases List.mem_append.mp member with returned | queued
        · cases part with
          | false => cases returned
          | true =>
              have inFlight : scene.engine.inFlight = some write := Option.mem_toList.mp returned
              exact loaded.unclaimed awake.running (here ▸ List.mem_cons_self) inFlight number claimed
        · exact inStep.spent write queued number claimed
  | shutDown => cases engine ▸ running
  | collapse asked impossible => cases engine ▸ running
  | plain told =>
      refine plain rfl ?_
      rintro report rfl
      cases told
  | enter talk pingAt asked said possible =>
      refine plain rfl ?_
      rintro report rfl
      exact asked.elim
  | stale generation report old =>
      refine plain rfl ?_
      rintro report ⟨⟩
      exact absurd rfl old
  | redial failure =>
      refine plain rfl ?_
      rintro report ⟨⟩
      rfl
  | answer found =>
      refine plain rfl ?_
      rintro report ⟨⟩
      rfl
  | unknown packet effect said =>
      refine plain rfl ?_
      rintro report ⟨⟩
      rfl
  | readFailed fault =>
      refine plain rfl ?_
      rintro report ⟨⟩
      rfl
  | disablePing => exact plain rfl nofun
  | ring ringing taken early => exact plain rfl nofun
  | expire ringing fired => exact plain rfl nofun

/-- The scene after a tick. -/
theorem tick (loaded : scene.IsLoaded) {effects : List Effect} {engine : Engine}
    (awake : scene.engine.IsAwake) (tick : Tick now scene.engine effects engine) :
    ((scene.performAll now effects).withEngine engine).IsStocked ∧
      ((scene.performAll now effects).withEngine engine).IsInStep := by
  have inStep := loaded.inStep awake.running
  have settles (generation : engine.generation = scene.engine.generation) :
      ((scene.performAll now effects).withEngine engine).settlements = scene.settlements := by
    change (scene.performAll now effects).inbox.filter (isSettlement engine.generation) = _
    rw [performAll_inbox, generation]
    rfl
  have stocks (quiet : ∀ effect ∈ effects, effect.handed? = none) :
      SameStock scene ((scene.performAll now effects).withEngine engine) := by
    have stock : SameStock scene (scene.performAll now effects) := SameStock.performAll quiet
    exact ⟨stock.length, stock.like, stock.handed, stock.sent⟩
  have plain (quiet : ∀ effect ∈ effects, effect.handed? = none)
      (generation : engine.generation = scene.engine.generation)
      (link : engine.link = scene.engine.link) (inFlight : engine.inFlight = scene.engine.inFlight)
      (spent : ∀ write ∈ engine.queue, ∀ number, ¬scene.Claims number write) :
      ((scene.performAll now effects).withEngine engine).IsStocked ∧
        ((scene.performAll now effects).withEngine engine).IsInStep :=
    ⟨loaded.stocked.same (stocks quiet),
      inStep.same (stocks quiet) link inFlight spent (settles generation)⟩
  cases tick with
  | remark effect said =>
      refine plain (fun other member => ?_) rfl rfl rfl inStep.spent
      rw [List.mem_singleton.mp member]
      cases effect with
      | handed _ _ => cases said
      | _ => rfl
  | reschedule => exact plain nofun rfl rfl rfl inStep.spent
  | publish => exact plain nofun rfl rfl rfl inStep.spent
  | dial =>
      exact plain (Engine.forall_beginConnect _ scene.engine (fun _ => rfl) fun _ => rfl)
        rfl rfl rfl inStep.spent
  | dismiss =>
      exact plain (Engine.forall_dismissAll _ scene.engine (fun _ => rfl) fun _ => rfl)
        rfl rfl rfl inStep.spent
  | push octets counted =>
      refine plain (fun other member => ?_) rfl rfl rfl fun write member number claims => ?_
      · rw [List.mem_singleton.mp member]
        rfl
      · rcases List.mem_append.mp member with queued | new
        · exact inStep.spent write queued number claims
        · rw [List.mem_singleton.mp new] at claims
          exact loaded.march.1.not_mem_enqueuedIn (Nat.le_refl _)
            ((loaded.stretch.whole number).subset claims.1)
  | release =>
      have quiet : ∀ effect ∈ scene.engine.release.2, effect.handed? = none :=
        Engine.forall_release _ scene.engine (fun _ => rfl) rfl
      have stock := stocks quiet
      refine ⟨loaded.stocked.same stock, .of_unlinked rfl rfl ?_ fun write queued number claims => ?_⟩
      · change (scene.performAll now scene.engine.release.2).inbox.filter _ = []
        rw [performAll_inbox, List.filter_eq_nil_iff]
        intro entry member settling
        have old := loaded.wired.mailed entry member
        rw [(isSettlement_iff.mp settling).1] at old
        exact Nat.not_succ_le_self _ old
      · exact inStep.spent write queued number (stock.claims claims)
  | @hand number write rest free linked first =>
      obtain ⟨socket, there, -⟩ := (loaded.wired.live awake.running).linked number linked
      have here := writers_of_socket there
      have unclaimed := inStep.spent write (first ▸ List.mem_cons_self)
      have distinct : write ∉ rest := by
        have queued : scene.engine.queue <:+ enqueuedIn (effectsIn scene.record) :=
          (List.suffix_append _ _).trans loaded.march.1.isSuffix
        have once := queued.sublist.nodup loaded.march.1.nodup_enqueuedIn
        rw [first] at once
        exact (List.nodup_cons.mp once).1
      have handed := loaded.stocked.hand now here unclaimed
      refine ⟨⟨handed.fed, handed.unused, handed.single⟩, ?_⟩
      exact inStep.hand now free linked here first distinct rfl rfl rfl rfl

/-- A new socket is there while none is served. -/
theorem push (loaded : scene.IsLoaded) {attempt : Attempt} (here : scene.attempt = some attempt)
    (writers : after.writers = scene.writers ++ [.start])
    (effects : effectsIn after.record = effectsIn scene.record)
    (sent : ∀ number, sentOn number after.record = sentOn number scene.record)
    (engine : after.engine = scene.engine)
    (settled : after.settlements = scene.settlements) :
    after.IsStocked ∧ (after.engine.life = .running → after.IsInStep) := by
  refine ⟨loaded.stocked.push writers effects sent, fun running => ?_⟩
  rw [engine] at running
  have inStep := loaded.inStep running
  obtain ⟨unlinked, -⟩ := (loaded.wired.live running).of_attempt here
  have free := inStep.free unlinked
  refine .of_unlinked ?_ ?_ ?_ ?_
  · rw [engine]
    exact unlinked
  · rw [engine]
    exact free
  · rw [settled]
    exact (inStep.idle free).1
  · rw [engine]
    intro write queued number claims
    exact inStep.spent write queued number (claims_of_push writers effects sent claims)

/-- Nothing changes but what no buffer depends on. -/
theorem still (loaded : scene.IsLoaded) (stock : SameStock scene after)
    (engine : after.engine = scene.engine) (settled : after.settlements = scene.settlements) :
    after.IsStocked ∧ (after.engine.life = .running → after.IsInStep) := by
  refine ⟨loaded.stocked.same stock, fun running => ?_⟩
  rw [engine] at running
  have inStep := loaded.inStep running
  refine inStep.same stock ?_ ?_ ?_ settled
  · rw [engine]
  · rw [engine]
  · rw [engine]
    exact inStep.spent

/-- Mail that settles nothing. -/
theorem settlements_mail (scene : Scene) (generation : Nat) {reports : List Report}
    (calm : ∀ report ∈ reports, settles report = false) :
    (scene.mail generation reports).settlements = scene.settlements := by
  by_cases running : scene.engine.life = .running
  · rw [mail_running scene running]
    unfold settlements
    rw [List.filter_append, List.append_right_eq_self, List.filter_eq_nil_iff]
    intro entry member settling
    obtain ⟨report, here, rfl⟩ := List.mem_map.mp member
    exact nomatch (calm report here).symm.trans (isSettlement_iff.mp settling).2
  · rw [mail_over scene running]

theorem write (loaded : scene.IsLoaded) {number : Nat} {socket : Socket}
    (there : scene.sockets[number]? = some socket) :
    (scene.written number socket).IsStocked ∧
      ((scene.written number socket).engine.life = .running →
        (scene.written number socket).IsInStep) := by
  refine ⟨loaded.stocked.write there, fun running => ?_⟩
  rw [show (scene.written number socket).engine = scene.engine from mail_engine _ _ _] at running
  have inStep := loaded.inStep running
  have live := loaded.wired.live running
  have here := writers_of_socket there
  by_cases served : scene.engine.link = some number
  · obtain ⟨same, found, current⟩ := live.linked number served
    cases there.symm.trans found
    exact inStep.write_served loaded.stocked there served running current
  · refine inStep.write_unserved there served fun _ current => ?_
    have idle : socket.writer.load = 0 := by
      rcases live.spare number socket there current with linked | connected | ⟨-, blank⟩
      · exact absurd linked served
      · have nothing := loaded.unhanded (live.unattached number connected)
        exact loaded.stocked.load_eq_zero here nothing
      · unfold Writer.load
        rw [blank.held, blank.waiting]
        rfl
    have ran := Writer.run_isRunOf (loaded.stocked.fed number socket.writer here).fit socket.script
    have load := ran.load
    rw [idle] at load
    exact Option.toList_eq_nil_iff.mp (List.length_eq_zero_iff.mp (Nat.add_eq_zero_iff.mp load).2)

/-- Every beat leaves every buffer where it may be. -/
theorem beat (loaded : scene.IsLoaded) (beat : Beat scene after) : after.IsLoaded := by
  have kept : after.IsStocked ∧ (after.engine.life = .running → after.IsInStep) := by
    cases beat with
    | show_ board =>
        refine ⟨loaded.stocked.same ?_, fun running => ?_⟩
        · exact .of_writers rfl (fun _ => rfl) fun _ => rfl
        · have inStep := loaded.inStep running
          exact inStep.same (.of_writers rfl (fun _ => rfl) fun _ => rfl) rfl rfl inStep.spent rfl
    | hear awake takes onset => exact loaded.onset awake takes onset rfl
    | @miss now stimulus rest ceased takes =>
        refine ⟨loaded.stocked.same ?_, fun running => absurd running ceased⟩
        have noted : SameStock (scene.withInbox rest)
            ((scene.withInbox rest).note [.heard now stimulus]) := SameStock.note rfl fun _ => rfl
        exact ⟨noted.length, noted.like, noted.handed, noted.sent⟩
    | tick awake tick =>
        obtain ⟨stocked, inStep⟩ := loaded.tick awake tick
        exact ⟨stocked, fun _ => inStep⟩
    | @farewell now effects said =>
        have quiet : ∀ effect ∈ effects, effect.handed? = none := by
          intro effect member
          have idle := Client.Life.isIdle_of_isFarewell (said effect member)
          cases effect with
          | handed _ _ => cases idle
          | _ => rfl
        refine loaded.still (SameStock.performAll quiet) (performAll_engine _ _ _) ?_
        unfold settlements
        rw [performAll_inbox, performAll_engine]
    | commence here stage => exact loaded.still (.of_writers rfl (fun _ => rfl) fun _ => rfl) rfl rfl
    | @fail attempt here failure =>
        have mailed : SameStock { scene with attempt := none }
            ({ scene with attempt := none }.mail attempt.generation [.connectFailed failure]) :=
          SameStock.mail _ _
        refine loaded.still ⟨mailed.length, mailed.like, mailed.handed, mailed.sent⟩
          (mail_engine _ _ _) ?_
        refine settlements_mail _ _ fun report member => ?_
        rw [List.mem_singleton.mp member]
        rfl
    | @accept attempt here running nodelay echo script =>
        refine loaded.push here ?_ ?_ (fun number => ?_) (mail_engine _ _ _) ?_
        · unfold writers
          rw [mail_sockets]
          exact List.map_append
        · rw [mail_record]
          exact (effectsIn_append _ _).trans (List.append_nil _)
        · rw [mail_record]
          exact (sentOn_append _ _ _).trans (List.append_nil _)
        · refine settlements_mail _ _ fun report member => ?_
          rw [List.mem_singleton.mp member]
          rfl
    | reject here later nodelay echo script =>
        refine loaded.push here List.map_append ?_ (fun number => ?_) rfl rfl
        · exact (effectsIn_append _ _).trans (List.append_nil _)
        · exact (sentOn_append _ _ _).trans (List.append_nil _)
    | @read number socket there isOpen =>
        have moved : SameStock scene (scene.onSocket number fun _ => socket.read.1) := by
          refine SameStock.onSocket number fun other member => ?_
          cases there.symm.trans member
          exact .refl _
        refine loaded.still (moved.trans (SameStock.mail _ _)) (mail_engine _ _ _) ?_
        refine settlements_mail _ _ fun report member => ?_
        rcases Socket.mem_read member with ⟨_, rfl⟩ | ⟨_, rfl⟩
        · rfl
        · rfl
    | write there isOpen => exact loaded.write there
    | @arrive number socket there isOpen pieces =>
        have moved : SameStock scene (scene.onSocket number fun socket => socket.arrive pieces) := by
          apply SameStock.onSocket
          intro other _
          rw [other.writer_arrive]
          exact .refl _
        exact loaded.still (moved.trans (SameStock.note rfl fun _ => rfl)) rfl rfl
    | @finish number socket there isOpen =>
        have moved : SameStock scene (scene.onSocket number Socket.finish) :=
          SameStock.onSocket number fun _ _ => .refl _
        exact loaded.still (moved.trans (SameStock.note rfl fun _ => rfl)) rfl rfl
    | release number =>
        exact loaded.still (SameStock.onSocket number fun socket _ => socket.writer.isLike_release)
          rfl rfl
    | prepare number script =>
        exact loaded.still (SameStock.onSocket number fun _ _ => .refl _) rfl rfl
  exact ⟨loaded.wired.beat beat, beat.keeps March.isKept loaded.march, kept.1, kept.2⟩

theorem start (endpoint : Endpoint) (settings : Settings) (source : SyncSource) (plans : List Plan)
    (fallback : Plan) :
    (Simulation.start endpoint settings source plans fallback).scene.IsLoaded where
  wired := .start endpoint settings source plans fallback
  march := .start endpoint settings
  stocked := ⟨nofun, fun _ _ => ⟨rfl, rfl⟩, fun _ _ _ claims => nomatch claims.1⟩
  inStep _ := ⟨rfl, nofun, nofun, nofun, nofun⟩

end IsLoaded

end Scene

/-- Whether nothing more goes out on a socket: its writer has failed, or the client closed it. -/
def Socket.IsDone (socket : Socket) : Prop :=
  socket.writer.halted = true ∨ socket.isOpen = false

namespace Scene

/-- Whether a socket has accepted all that it ever will. -/
def IsDoneWith (scene : Scene) (number : Nat) (sent : Bytes) : Prop :=
  (∃ socket, scene.sockets[number]? = some socket ∧ socket.IsDone) ∧
    sentOn number scene.record = sent

namespace IsDoneWith

variable {scene after : Scene} {number : Nat} {sent : Bytes}

theorem onSocket (done : scene.IsDoneWith number sent) (place : Nat) {change : Socket → Socket}
    (keeps : ∀ socket ∈ scene.sockets[place]?, socket.IsDone → (change socket).IsDone) :
    (scene.onSocket place change).IsDoneWith number sent := by
  obtain ⟨⟨socket, there, isDone⟩, whole⟩ := done
  have changed : (scene.onSocket place change).sockets[number]? =
      some (if place = number then change socket else socket) := by
    change (scene.sockets.modify place change)[number]? = _
    rw [List.getElem?_modify, there]
    rfl
  refine ⟨⟨_, changed, ?_⟩, whole⟩
  split
  · next here => exact keeps socket (here ▸ there) isDone
  · exact isDone

theorem of_same (done : scene.IsDoneWith number sent) (sockets : after.sockets = scene.sockets)
    (same : sentOn number after.record = sentOn number scene.record) :
    after.IsDoneWith number sent := by
  obtain ⟨isDone, whole⟩ := done
  exact ⟨sockets ▸ isDone, same.trans whole⟩

theorem note (done : scene.IsDoneWith number sent) {sights : List Sight}
    (unsent : sentOn number sights = []) : (scene.note sights).IsDoneWith number sent := by
  refine done.of_same rfl ?_
  change sentOn number (scene.record ++ sights) = _
  rw [sentOn_append, unsent, List.append_nil]

theorem mail (done : scene.IsDoneWith number sent) (generation : Nat) (reports : List Report) :
    (scene.mail generation reports).IsDoneWith number sent :=
  done.of_same (mail_sockets _ _ _) (congrArg _ (mail_record _ _ _))

theorem performAll (done : scene.IsDoneWith number sent) (now : Time) (effects : List Effect) :
    (scene.performAll now effects).IsDoneWith number sent := by
  induction effects generalizing scene with
  | nil => exact done
  | cons effect rest ih =>
      have noted : (scene.note [.engine now effect]).IsDoneWith number sent := done.note rfl
      have performed : (scene.perform now effect).IsDoneWith number sent := by
        cases effect with
        | handed place write => exact noted.onSocket place fun _ _ isDone => isDone
        | closed place =>
            have closed : ((scene.note [.engine now (.closed place)]).onSocket place fun socket =>
                { socket with isOpen := false }).IsDoneWith number sent :=
              noted.onSocket place fun _ _ _ => .inr rfl
            have silent : sentOn number [.closed place] = [] := rfl
            exact closed.note silent
        | _ => exact noted
      exact ih performed

theorem push (done : scene.IsDoneWith number sent) (left : Option Attempt) (socket : Socket) :
    ({ scene with attempt := left, sockets := scene.sockets ++ [socket] } : Scene).IsDoneWith
      number sent := by
  obtain ⟨⟨old, there, isDone⟩, whole⟩ := done
  refine ⟨⟨old, ?_, isDone⟩, whole⟩
  change (scene.sockets ++ [socket])[number]? = some old
  rw [List.getElem?_append_left (List.getElem?_eq_some_iff.mp there).1]
  exact there

theorem beat (done : scene.IsDoneWith number sent) (beat : Beat scene after) :
    after.IsDoneWith number sent := by
  cases beat with
  | show_ board => exact done
  | @hear now stimulus first middle rest awake takes onset =>
      have heard : ((scene.withInbox rest).note [.heard now stimulus]).IsDoneWith number sent :=
        IsDoneWith.note done rfl
      exact heard.performAll now first
  | miss ceased takes => exact IsDoneWith.note done rfl
  | tick awake tick => exact done.performAll _ _
  | farewell said => exact done.performAll _ _
  | commence here stage => exact done
  | fail here failure =>
      have left : ({ scene with attempt := none } : Scene).IsDoneWith number sent := done
      exact left.mail _ _
  | @accept attempt here running nodelay echo script =>
      have silent : sentOn number [.accepted scene.sockets.length nodelay] = [] := rfl
      exact mail (note (done.push none _) silent) _ _
  | @reject attempt left here later nodelay echo script =>
      have silent : sentOn number
          [.accepted scene.sockets.length nodelay, .closed scene.sockets.length] = [] := rfl
      exact note (done.push left _) silent
  | @read place socket there isOpen =>
      refine mail (done.onSocket place ?_) _ _
      rintro other member isDone
      cases there.symm.trans member
      exact isDone
  | @write place socket there isOpen =>
      refine IsDoneWith.mail ?_ _ _
      by_cases same : place = number
      · subst same
        obtain ⟨⟨old, here, isDone⟩, whole⟩ := done
        cases there.symm.trans here
        have halted : socket.writer.halted = true :=
          isDone.resolve_right fun closed => nomatch isOpen.symm.trans closed
        have still : socket.write.socket.writer.halted = true := by
          rw [socket.writer_write, Writer.run_of_halted halted]
          exact halted
        have nothing : sentOn place (socket.write.sights place) = [] := by
          rw [sentOn_sights]
          exact congrArg Link.Writing.sent (Writer.run_of_halted halted socket.script)
        have before : scene.IsDoneWith place sent := ⟨⟨socket, there, isDone⟩, whole⟩
        exact note (before.onSocket place fun _ _ _ => .inl still) nothing
      · refine note ?_ (sentOn_sights_other same _)
        obtain ⟨⟨old, here, isDone⟩, whole⟩ := done
        refine ⟨⟨old, ?_, isDone⟩, whole⟩
        change (scene.sockets.modify place fun _ => socket.write.socket)[number]? = _
        rw [List.getElem?_modify_ne _ _ same]
        exact here
  | @arrive place socket there isOpen pieces =>
      have silent : sentOn number [.arrived place pieces] = [] := rfl
      refine note (done.onSocket place fun other _ isDone => ?_) silent
      rw [Socket.IsDone, other.writer_arrive, other.isOpen_arrive]
      exact isDone
  | @finish place socket there isOpen =>
      have silent : sentOn number [.ended place] = [] := rfl
      have finished : (scene.onSocket place Socket.finish).IsDoneWith number sent :=
        done.onSocket place fun _ _ isDone => isDone
      exact finished.note silent
  | release place => exact done.onSocket place fun _ _ isDone => isDone
  | prepare place script => exact done.onSocket place fun _ _ isDone => isDone

theorem beats (done : scene.IsDoneWith number sent) (beats : Beats scene after) :
    after.IsDoneWith number sent := by
  induction beats with
  | refl => exact done
  | tail _ beat ih => exact ih.beat beat

end IsDoneWith

end Scene

/-- After every schedule, what each socket has accepted are whole buffers, which joined the
queue one right behind the other, and a part of the buffer that joined next, which may be
empty but is never all of it.  No buffer with anything in it is accepted as a whole twice, be
it by one socket or by two.  And once the writing on a socket has failed, or the client has
closed the socket, it accepts nothing more, whatever is done. -/
theorem Simulation.buffers_arrive_whole_and_once (endpoint : Endpoint) (settings : Settings)
    (source : SyncSource) (plans : List Plan) (fallback : Plan) (schedule : List Doing) :
    let start := Simulation.start endpoint settings source plans fallback
    let record := (start.after schedule).record
    let sockets := (start.after schedule).sockets
    (∀ number, ∃ cut rest,
      completedOn number record ++ rest <:+: enqueuedIn (effectsIn record) ∧
        sentOn number record = octetsOf (completedOn number record) ++ cut ∧
        (cut = [] ∨ ∃ next more, rest = next :: more ∧ cut <+: next.octets ∧
          cut.length < next.octets.length)) ∧
      (((List.range sockets.length).flatMap fun number => completedOn number record).filter
        fun write => !write.octets.isEmpty).Nodup ∧
      (∀ number, sockets.length ≤ number → sentOn number record = []) ∧
      ∀ number socket, sockets[number]? = some socket → socket.IsDone →
        ∀ more, sentOn number (start.after (schedule ++ more)).record = sentOn number record := by
  intro start record sockets
  have loaded : (start.after schedule).scene.IsLoaded :=
    Simulation.after_holds endpoint settings source plans fallback
      (.start endpoint settings source plans fallback) (fun beat loaded => loaded.beat beat) schedule
  have stocked := loaded.stocked
  have length : (start.after schedule).scene.writers.length = sockets.length := List.length_map _
  refine ⟨fun number => ?_, ?_, fun number beyond => ?_, fun number socket there isDone more => ?_⟩
  · have front : sentOn number record <+: octetsOf (handedTo number (effectsIn record)) := by
      cases there : (start.after schedule).scene.writers[number]? with
      | some writer => exact (stocked.fed number writer there).front
      | none =>
          obtain ⟨-, unsent⟩ := stocked.unused number (List.getElem?_eq_none_iff.mp there)
          exact (show sentOn number record = [] from unsent) ▸ List.nil_prefix
    obtain ⟨cut, rest, whole, parts, next⟩ := covered_split front
    refine ⟨cut, rest, ?_, parts, next⟩
    exact (show completedOn number record ++ rest = _ from whole) ▸ loaded.stretch.whole number
  · have claims {number : Nat} {write : QueuedWrite} (completed : write ∈ completedOn number record)
        (something : write.octets ≠ []) : (start.after schedule).scene.Claims number write :=
      ⟨(covered_isPrefix _ _).subset completed, something, fun _ _ _ => completed⟩
    rw [List.filter_flatMap, List.nodup_flatMap]
    constructor
    · intro number _
      exact (((covered_isPrefix _ _).sublist.nodup (loaded.nodup_handedTo number)).filter _)
    · refine List.Pairwise.imp ?_ List.nodup_range
      intro first second differs write one two
      obtain ⟨firstCompleted, something⟩ := List.mem_filter.mp one
      obtain ⟨secondCompleted, -⟩ := List.mem_filter.mp two
      have nonempty : write.octets ≠ [] := by
        intro empty
        rw [empty] at something
        cases something
      exact differs (stocked.single write first second (claims firstCompleted nonempty)
        (claims secondCompleted nonempty))
  · exact (stocked.unused number (length.symm ▸ beyond)).2
  · have sound : (start.after schedule).IsSound :=
      (after_follows (isSound_start endpoint settings source plans fallback) schedule).isSound
        (isSound_start endpoint settings source plans fallback)
    have beats := (after_follows sound more).beats
    have done : (start.after schedule).scene.IsDoneWith number (sentOn number record) :=
      ⟨⟨socket, there, isDone⟩, rfl⟩
    have appended : start.after (schedule ++ more) = (start.after schedule).after more :=
      List.foldl_append
    rw [appended]
    exact (done.beats beats).2

end RequestMux.Network
