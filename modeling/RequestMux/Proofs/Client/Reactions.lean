import RequestMux.Proofs.Client.Ledger

/-!
# What a reaction does to those who wait

A reaction tears the connection down, ends it, breaks the engine down, or goes on.  Only the
first two empty the table and dismiss everybody in it; a reaction that goes on changes one entry
at most, and lets no buffer go that was not reported as written.
-/

namespace RequestMux.Client

open Pending (Alarm Entry Table Waiter displaced tickets)

/-- The caller whom an effect dismisses. -/
def Effect.dismissed? : Effect → Option Nat
  | .resolved ticket .error => some ticket
  | _ => none

/-- The tickets of the callers that were dismissed, in order. -/
def dismissedIn (effects : List Effect) : List Nat := effects.filterMap Effect.dismissed?

@[simp]
theorem dismissedIn_append (effects more : List Effect) :
    dismissedIn (effects ++ more) = dismissedIn effects ++ dismissedIn more :=
  List.filterMap_append

@[simp]
theorem dismissedIn_map_error (told : List Nat) :
    dismissedIn (told.map fun ticket => .resolved ticket .error) = told := by
  simp [dismissedIn, List.filterMap_map, Function.comp_def, Effect.dismissed?]

/-- Who is dismissed is told. -/
theorem AreSilent.dismissedIn {effects : List Effect} (silent : AreSilent effects) :
    Client.dismissedIn effects = [] := by
  refine List.filterMap_eq_nil_iff.mpr fun effect member => ?_
  have untold := (silent effect member).1
  cases effect with
  | resolved _ _ => cases untold
  | _ => rfl

/-- The bytes that a stimulus asks to be sent. -/
def Stimulus.octets : Stimulus → Bytes
  | .command (.write packet _) => packet.data
  | .ping sync => (Field.Packer.withSync Wire.Header.pingMsg sync).finish.data
  | _ => []

namespace Engine

/-- The causes for which an engine tears the connection down and connects again: a failed read, a
failed write, a ping without a response, or the command. -/
inductive IsCut (now : Time) (engine : Engine) : Stimulus → Prop where
  | readFailed (fault : ClientError) :
      IsCut now engine (.report engine.generation (.readFailed fault))
  | writeFailed (failure : IoFailure) (part : Bool) :
      IsCut now engine (.report engine.generation (.writeFailed failure part))
  | pingFailed {alarm : Alarm} {rung table : Table} {entry : Entry}
      (ringing : engine.pending.ring? now = some (alarm, rung))
      (fired : rung.takeExpired alarm.sync now = (.fired entry, table))
      (pinged : entry.waiter = .ping) (connected : engine.phase = .connected) :
      IsCut now engine .alarm
  | reconnect : IsCut now engine (.command .reconnect)

/-- Whether a buffer is queued or with the writer. -/
def Holds (engine : Engine) (write : QueuedWrite) : Prop :=
  write ∈ engine.queue ∨ engine.inFlight = some write

/-- Whether a change keeps the generation, all requests and all buffers. -/
structure Keeps (engine after : Engine) : Prop where
  life : after.life = engine.life
  generation : after.generation = engine.generation
  pending : after.pending = engine.pending
  held : ∀ write, engine.Holds write → after.Holds write

/-- Whether everybody in the table is dismissed and the generation is left. -/
structure IsTorn (engine : Engine) (effects : List Effect) (after : Engine) : Prop where
  dismissed : (dismissedIn effects).Perm (tickets engine.pending.entries)
  told : (resolvedIn effects).Perm (tickets engine.pending.entries)
  emptied : after.pending.entries = []
  left : after.generation = engine.generation + 1
  unlinked : after.link = none

/-- What becomes of the table when a reaction goes on. -/
inductive Shifts (now : Time) (engine : Engine) (stimulus : Stimulus) (effects : List Effect)
    (after : Engine) : Prop where
  | still (same : after.pending.entries.map Entry.claim = engine.pending.entries.map Entry.claim)
      (undismissed : dismissedIn effects = [])
  /-- A request enters, and takes the place of another with its id. -/
  | entered {sync : UInt32} {waiter : Waiter} {write : QueuedWrite}
      (asked : stimulus.Asks sync waiter)
      (entries : after.pending.entries =
        (engine.pending.erase sync).entries ++ [engine.entryFor now sync waiter])
      (dismissed : dismissedIn effects = (displaced (engine.pending.find? sync)).toList)
      (registered : .registered (engine.entryFor now sync waiter) ∈ effects)
      (enqueued : .enqueued write ∈ effects) (job : write.job = engine.nextJob)
      (octets : write.octets = stimulus.octets) (held : after.Holds write)
  | answered {packet : Wire.Packet} {entry : Entry}
      (heard : stimulus = .report engine.generation (.frame packet))
      (found : engine.pending.find? packet.header.sync = some entry)
      (entries : after.pending.entries = (engine.pending.erase packet.header.sync).entries)
      (undismissed : dismissedIn effects = [])
  | expired {sync : UInt32} {entry : Entry} (heard : stimulus = .alarm)
      (found : engine.pending.find? sync = some entry) (due : entry.deadline ≤ now)
      (entries : after.pending.entries = (engine.pending.erase sync).entries)
      (undismissed : dismissedIn effects = [])

/-- Whether a reaction neither ends the generation nor loses a buffer that was not written. -/
structure GoesOn (now : Time) (engine : Engine) (stimulus : Stimulus) (effects : List Effect)
    (after : Engine) : Prop where
  running : after.life = .running
  generation : after.generation = engine.generation
  shifts : engine.Shifts now stimulus effects after
  held : ∀ write, engine.Holds write → after.Holds write ∨
    stimulus = .report engine.generation .written ∧ engine.inFlight = some write

/-- What a reaction does to those who wait. -/
inductive Reacts (now : Time) (engine : Engine) (stimulus : Stimulus) (effects : List Effect)
    (after : Engine) : Prop where
  | cut (cause : engine.IsCut now stimulus) (running : after.life = .running)
      (torn : engine.IsTorn effects after)
  | shutDown (asked : stimulus = .command .shutdown) (stopped : after.life = .stopped)
      (torn : engine.IsTorn effects after)
  | collapse (uncut : ¬engine.IsCut now stimulus) (unasked : stimulus ≠ .command .shutdown)
      (collapsed : after.life = .collapsed)
      (same : after.generation = engine.generation) (emptied : after.pending.entries = [])
      (undismissed : dismissedIn effects = [])
  | goOn (uncut : ¬engine.IsCut now stimulus) (unasked : stimulus ≠ .command .shutdown)
      (goes : engine.GoesOn now stimulus effects after)

namespace Keeps

variable {engine middle after : Engine}

theorem refl (engine : Engine) : engine.Keeps engine := ⟨rfl, rfl, rfl, fun _ held => held⟩

theorem trans (first : engine.Keeps middle) (second : middle.Keeps after) : engine.Keeps after :=
  ⟨second.life.trans first.life, second.generation.trans first.generation,
    second.pending.trans first.pending, fun write held => second.held write (first.held write held)⟩

theorem settle (engine : Engine) (ticket : Nat) (outcome : Outcome) :
    engine.Keeps (engine.settle ticket outcome).1 :=
  ⟨rfl, rfl, rfl, fun _ held => held⟩

theorem schedulePing (engine : Engine) (now : Time) : engine.Keeps (engine.schedulePing now) :=
  ⟨rfl, rfl, rfl, fun _ held => held⟩

theorem beginConnect (engine : Engine) : engine.Keeps engine.beginConnect.1 :=
  ⟨rfl, rfl, rfl, fun _ held => held⟩

/-- A buffer that is handed over is still held. -/
theorem pumpWrites (engine : Engine) : engine.Keeps engine.pumpWrites.1 := by
  unfold Engine.pumpWrites
  split
  · next socket write rest free linked first =>
      refine ⟨rfl, rfl, rfl, fun other held => ?_⟩
      rcases held with queued | busy
      · rw [first] at queued
        rcases List.mem_cons.mp queued with rfl | later
        · exact .inr rfl
        · exact .inl later
      · exact nomatch free.symm.trans busy
  · exact ⟨rfl, rfl, rfl, fun _ held => held⟩

theorem dispatch (isOpen : engine.phase ≠ .shuttingDown) : engine.Keeps engine.dispatch.1 := by
  unfold Engine.dispatch
  split
  · exact beginConnect engine
  · exact refl engine
  · exact pumpWrites engine
  · next closing => exact absurd closing isOpen

theorem enqueue (isOpen : engine.phase ≠ .shuttingDown) (octets : Bytes) (counted : Bool) :
    engine.Keeps (engine.enqueue octets counted).1 := by
  let pushed := (engine.push octets counted).1
  have kept : engine.Keeps pushed :=
    ⟨rfl, rfl, rfl, fun _ held => held.imp_left (List.mem_append_left _)⟩
  have stillOpen : pushed.phase ≠ .shuttingDown := isOpen
  exact kept.trans (dispatch stillOpen)

theorem yieldTo (engine : Engine) (now : Time) (sync : UInt32) (replaced : Option Entry) :
    engine.Keeps (engine.yieldTo now sync replaced).1 := by
  unfold Engine.yieldTo
  split
  · next ticket _ => exact settle engine ticket .error
  · exact schedulePing engine now
  · exact refl engine

theorem yieldToPing (engine : Engine) (replaced : Option Entry) :
    engine.Keeps (engine.yieldToPing replaced).1 := by
  unfold Engine.yieldToPing
  split
  · next ticket _ => exact settle engine ticket .error
  · exact refl engine

end Keeps

variable {now : Time} {engine : Engine} {stimulus : Stimulus}

theorem silent_pumpWrites (engine : Engine) : AreSilent engine.pumpWrites.2 := by
  unfold pumpWrites
  split
  · exact .single ⟨rfl, rfl⟩
  · exact nofun

theorem silent_enqueue (engine : Engine) (octets : Bytes) (counted : Bool) :
    AreSilent (engine.enqueue octets counted).2 := by
  refine AreSilent.append (.single ⟨rfl, rfl⟩) ?_
  unfold dispatch
  split
  · exact .beginConnect _
  · exact nofun
  · exact silent_pumpWrites _
  · exact nofun

/-- What joins the queue is held. -/
theorem holds_enqueue (isOpen : engine.phase ≠ .shuttingDown) (octets : Bytes) (counted : Bool) :
    (engine.enqueue octets counted).1.Holds ⟨engine.nextJob, octets, counted⟩ := by
  let pushed := (engine.push octets counted).1
  have queued : pushed.Holds ⟨engine.nextJob, octets, counted⟩ :=
    .inl (List.mem_append_right _ List.mem_cons_self)
  have stillOpen : pushed.phase ≠ .shuttingDown := isOpen
  exact (Keeps.dispatch stillOpen).held _ queued

/-- The caller whose id a request takes over is dismissed, and nobody else. -/
theorem dismissedIn_yieldTo (engine : Engine) (now : Time) (sync : UInt32)
    (replaced : Option Entry) :
    dismissedIn (engine.yieldTo now sync replaced).2 = (displaced replaced).toList := by
  unfold yieldTo displaced
  cases replaced with
  | none => rfl
  | some entry =>
      simp only [Option.map_some, Option.bind_some]
      cases entry.waiter <;> rfl

theorem dismissedIn_yieldToPing (engine : Engine) (replaced : Option Entry) :
    dismissedIn (engine.yieldToPing replaced).2 = (displaced replaced).toList := by
  unfold yieldToPing displaced
  cases replaced with
  | none => rfl
  | some entry =>
      simp only [Option.map_some, Option.bind_some]
      cases entry.waiter <;> rfl

theorem dismissedIn_dismissAll (engine : Engine) :
    dismissedIn engine.dismissAll.2 = tickets engine.pending.entries := by
  have noted := (AreSilent.dismissing engine.pending.entries).dismissedIn
  have dismissed := dismissedIn_map_error (tickets engine.pending.entries)
  exact (dismissedIn_append _ _).trans (by rw [noted, dismissed]; rfl)

theorem resolvedIn_dismissAll (engine : Engine) :
    resolvedIn engine.dismissAll.2 = tickets engine.pending.entries := by
  have noted := (AreSilent.dismissing engine.pending.entries).resolvedIn
  have dismissed := resolvedIn_map_resolved (tickets engine.pending.entries) .error
  exact (resolvedIn_append _ _).trans (by rw [noted, dismissed]; rfl)

/-- A teardown dismisses everybody in the table. -/
theorem teardown_isTorn (engine : Engine) :
    engine.IsTorn engine.teardown.2 engine.teardown.1 where
  dismissed := by
    change (dismissedIn (engine.release.2 ++ engine.release.1.dismissAll.2)).Perm _
    rw [dismissedIn_append, (AreSilent.release engine).dismissedIn, dismissedIn_dismissAll]
    exact .refl _
  told := by
    change (resolvedIn (engine.release.2 ++ engine.release.1.dismissAll.2)).Perm _
    rw [resolvedIn_append, (AreSilent.release engine).resolvedIn, resolvedIn_dismissAll]
    exact .refl _
  emptied := rfl
  left := rfl
  unlinked := rfl

/-- Silent effects, before or behind, dismiss nobody. -/
theorem IsTorn.amid {effects before behind : List Effect} {after later : Engine}
    (torn : engine.IsTorn effects after) (first : AreSilent before) (last : AreSilent behind)
    (same : (later.pending, later.generation, later.link) =
      (after.pending, after.generation, after.link)) :
    engine.IsTorn (before ++ effects ++ behind) later := by
  simp only [Prod.mk.injEq] at same
  obtain ⟨pending, generation, link⟩ := same
  refine ⟨?_, ?_, pending ▸ torn.emptied, generation.trans torn.left, link.trans torn.unlinked⟩
  · rw [dismissedIn_append, dismissedIn_append, first.dismissedIn, last.dismissedIn,
      List.append_nil]
    exact torn.dismissed
  · rw [resolvedIn_append, resolvedIn_append, first.resolvedIn, last.resolvedIn, List.append_nil]
    exact torn.told

theorem reconnect_isTorn (isOpen : engine.phase ≠ .shuttingDown) :
    engine.IsTorn engine.reconnect.2 engine.reconnect.1 := by
  unfold reconnect
  rw [if_neg isOpen]
  exact (teardown_isTorn engine).amid (List.forall_mem_nil _) (.beginConnect _) rfl

theorem life_reconnect (engine : Engine) : engine.reconnect.1.life = engine.life := by
  unfold reconnect
  split <;> rfl

theorem shutDown_isTorn (engine : Engine) :
    engine.IsTorn engine.shutDown.2 engine.shutDown.1 := by
  let flagged : Engine := { engine with board := { engine.board with shuttingDown := true } }
  let closing := flagged.setPhase .shuttingDown
  have noted : AreSilent [.noted .shutDown] := .single ⟨rfl, rfl⟩
  have torn : closing.IsTorn engine.shutDown.2 engine.shutDown.1 :=
    (teardown_isTorn closing).amid (List.forall_mem_nil _) noted rfl
  exact ⟨torn.dismissed, torn.told, torn.emptied, torn.left, torn.unlinked⟩

/-- What changes neither the table nor the generation, and dismisses nobody, goes on. -/
theorem Keeps.goesOn {effects : List Effect} {after : Engine} (kept : engine.Keeps after)
    (running : engine.life = .running) (undismissed : dismissedIn effects = []) :
    engine.GoesOn now stimulus effects after where
  running := kept.life.trans running
  generation := kept.generation
  shifts := .still (by rw [kept.pending]) undismissed
  held write held := .inl (kept.held write held)

/-- A request enters the table with its buffer. -/
theorem goesOn_of_entered (awake : engine.IsAwake) {sync : UInt32} {waiter : Waiter}
    (asked : stimulus.Asks sync waiter) (reaction : Reaction) {counted : Bool}
    (kept : Keeps { engine with
      pending := (engine.pending.register (engine.entryFor now sync waiter)).2 } reaction.1)
    (phase : reaction.1.phase = engine.phase) (job : reaction.1.nextJob = engine.nextJob)
    (registered : .registered (engine.entryFor now sync waiter) ∈ reaction.2)
    (dismissed : dismissedIn reaction.2 = (displaced (engine.pending.find? sync)).toList) :
    engine.GoesOn now stimulus
      (reaction.andThen (Engine.enqueue stimulus.octets counted)).2
      (reaction.andThen (Engine.enqueue stimulus.octets counted)).1 := by
  have isOpen : reaction.1.phase ≠ .shuttingDown := phase ▸ awake.open_
  have all := kept.trans (.enqueue isOpen stimulus.octets counted)
  have entries := (Table.register_entries engine.pending (engine.entryFor now sync waiter)).2
  constructor
  case running => exact all.life.trans awake.running
  case generation => exact all.generation
  case shifts =>
    refine .entered asked ?_ ?_ (List.mem_append_left _ registered)
      (List.mem_append_right _ List.mem_cons_self) job rfl (holds_enqueue isOpen _ counted)
    · exact (congrArg Table.entries all.pending).trans entries
    · refine (dismissedIn_append _ _).trans ?_
      rw [dismissed, (silent_enqueue _ _ _).dismissedIn, List.append_nil]
  case held => exact fun write held => .inl (all.held write held)

theorem phase_nextJob_yieldTo (engine : Engine) (now : Time) (sync : UInt32)
    (replaced : Option Entry) :
    (engine.yieldTo now sync replaced).1.phase = engine.phase ∧
      (engine.yieldTo now sync replaced).1.nextJob = engine.nextJob := by
  unfold yieldTo
  split <;> exact ⟨rfl, rfl⟩

theorem phase_nextJob_yieldToPing (engine : Engine) (replaced : Option Entry) :
    (engine.yieldToPing replaced).1.phase = engine.phase ∧
      (engine.yieldToPing replaced).1.nextJob = engine.nextJob := by
  unfold yieldToPing
  split <;> exact ⟨rfl, rfl⟩

/-- An engine that breaks down forgets its callers, and dismisses nobody. -/
theorem dismissedIn_collapse (forgotten : List Nat) (engine : Engine) :
    dismissedIn (engine.collapse forgotten).2 = [] := by
  simp [collapse, dismissedIn, List.filterMap_map, Function.comp_def, Effect.dismissed?]

theorem write_reacts (awake : engine.IsAwake) (packet : Wire.Packet) (ticket : Option Nat) :
    engine.Reacts now (.command (.write packet ticket)) (engine.write now packet ticket).2
      (engine.write now packet ticket).1 := by
  unfold write
  split
  · exact .goOn nofun nofun (Keeps.goesOn (.enqueue awake.open_ _ _) awake.running
      (silent_enqueue _ _ _).dismissedIn)
  · next ticket =>
      split
      · exact .collapse nofun nofun rfl rfl rfl (dismissedIn_collapse _ engine)
      · let sync := packet.header.sync
        let entered := engine.register now sync (.caller ticket)
        have asked : (Stimulus.command (.write packet (some ticket))).Asks sync (.caller ticket) :=
          ⟨rfl, rfl⟩
        have found : entered.1 = engine.pending.find? sync :=
          (Table.register_entries engine.pending (engine.entryFor now sync (.caller ticket))).1
        obtain ⟨phase, job⟩ := phase_nextJob_yieldTo entered.2.1 now sync entered.1
        refine .goOn nofun nofun (goesOn_of_entered awake asked
          (entered.2.andThen (yieldTo now sync entered.1))
          (.yieldTo _ now sync entered.1) phase job List.mem_cons_self ?_)
        rw [← found]
        exact dismissedIn_yieldTo entered.2.1 now sync entered.1

theorem sendPing_reacts (awake : engine.IsAwake) (sync : UInt32) :
    engine.Reacts now (.ping sync) (engine.sendPing now sync).2 (engine.sendPing now sync).1 := by
  let quiet : Engine := { engine with pingAt := none }
  unfold sendPing
  dsimp only
  split
  · exact .collapse nofun nofun rfl rfl rfl (dismissedIn_collapse _ quiet)
  · let entered := quiet.register now sync .ping
    have asked : (Stimulus.ping sync).Asks sync .ping := ⟨rfl, rfl⟩
    have found : entered.1 = engine.pending.find? sync :=
      (Table.register_entries engine.pending (engine.entryFor now sync .ping)).1
    obtain ⟨phase, job⟩ := phase_nextJob_yieldToPing entered.2.1 entered.1
    have kept := Keeps.yieldToPing entered.2.1 entered.1
    refine .goOn nofun nofun (goesOn_of_entered awake asked
      (entered.2.andThen (yieldToPing entered.1))
      ⟨kept.life, kept.generation, kept.pending, kept.held⟩ phase job List.mem_cons_self ?_)
    rw [← found]
    exact dismissedIn_yieldToPing entered.2.1 entered.1

/-- Whoever gets a response, or whose time is up, is not dismissed; a ping without a response lets
the connection be torn down. -/
theorem complete_keeps (engine : Engine) (now : Time) (waiter : Waiter) (outcome : Outcome)
    (told : outcome ≠ .error)
    (uncut : waiter = .ping → engine.phase = .connected → outcome.isOk = true) :
    engine.Keeps (engine.complete now waiter outcome).1 ∧
      dismissedIn (engine.complete now waiter outcome).2 = [] := by
  cases waiter with
  | caller ticket =>
      refine ⟨.settle engine ticket outcome, ?_⟩
      cases outcome with
      | error => exact absurd rfl told
      | _ => rfl
  | ping =>
      change engine.Keeps (engine.pingDone now outcome).1 ∧
        dismissedIn (engine.pingDone now outcome).2 = []
      unfold pingDone
      split
      · next connected =>
          rw [if_pos (uncut rfl connected)]
          exact ⟨.schedulePing engine now, rfl⟩
      · exact ⟨.refl engine, rfl⟩

theorem handleFrame_reacts (awake : engine.IsAwake) (packet : Wire.Packet) :
    engine.Reacts now (.report engine.generation (.frame packet))
      (engine.handleFrame now packet).2 (engine.handleFrame now packet).1 := by
  refine .goOn nofun nofun ?_
  unfold handleFrame
  split
  · next entry table resolved =>
      obtain ⟨found, left⟩ := Table.resolve_some resolved
      let without : Engine := { engine with pending := table }
      obtain ⟨kept, undismissed⟩ :=
        complete_keeps without now entry.waiter (.ok packet) nofun fun _ _ => rfl
      have entries := (congrArg Table.entries kept.pending).trans left
      exact ⟨kept.life.trans awake.running, kept.generation,
        .answered rfl found entries undismissed, fun write held => .inl (kept.held write held)⟩
  · exact Keeps.goesOn (.refl engine) awake.running rfl

/-- A ping without a response lets the connection be torn down. -/
theorem pingFailed_reacts (awake : engine.IsAwake) (distinct : engine.pending.IsDistinct)
    {alarm : Pending.Alarm} {rung table : Table} {entry : Entry}
    (ringing : engine.pending.ring? now = some (alarm, rung))
    (fired : rung.takeExpired alarm.sync now = (.fired entry, table))
    (pinged : entry.waiter = .ping) (connected : engine.phase = .connected) :
    let without : Engine := { engine with pending := table }
    engine.Reacts now .alarm
      (.expired alarm.sync :: (without.complete now entry.waiter .timeout).2)
      (without.complete now entry.waiter .timeout).1 := by
  intro without
  obtain ⟨found, left⟩ := Table.fired_of_ringing ringing fired
  have fails : without.complete now entry.waiter .timeout =
      (without.emit (.warned (.pingFailed .timeout))).andThen reconnect := by
    rw [pinged]
    exact if_pos connected
  have said : AreSilent [.expired alarm.sync, .warned (.pingFailed .timeout)] :=
    AreSilent.append (.single ⟨rfl, rfl⟩) (.single ⟨rfl, rfl⟩)
  have stillOpen : without.phase ≠ .shuttingDown := awake.open_
  have torn := (reconnect_isTorn stillOpen).amid said (List.forall_mem_nil _) rfl
  rw [List.append_nil] at torn
  -- the ping has left the table, and it has no caller
  have same : (tickets table.entries).Perm (tickets engine.pending.entries) := by
    have erased := Table.tickets_erase distinct found
    rw [pinged, ← left] at erased
    exact erased.symm
  rw [fails]
  exact .cut (.pingFailed ringing fired pinged connected)
    ((life_reconnect without).trans awake.running)
    ⟨torn.dismissed.trans same, torn.told.trans same, torn.emptied, torn.left, torn.unlinked⟩

theorem handleAlarm_reacts (awake : engine.IsAwake) (distinct : engine.pending.IsDistinct) :
    engine.Reacts now .alarm (engine.handleAlarm now).2 (engine.handleAlarm now).1 := by
  unfold handleAlarm
  split
  · next silent =>
      refine .goOn (fun cause => ?_) nofun (Keeps.goesOn (.refl engine) awake.running rfl)
      cases cause with
      | pingFailed ringing => cases silent.symm.trans ringing
  · next alarm rung ringing =>
      split
      · next entry table fired =>
          obtain ⟨found, left⟩ := Table.fired_of_ringing ringing fired
          let without : Engine := { engine with pending := table }
          by_cases cut : entry.waiter = .ping ∧ engine.phase = .connected
          · exact pingFailed_reacts awake distinct ringing fired cut.1 cut.2
          · obtain ⟨kept, undismissed⟩ :=
              complete_keeps without now entry.waiter .timeout nofun
                fun pinged connected => absurd ⟨pinged, connected⟩ cut
            have entries := (congrArg Table.entries kept.pending).trans left
            refine .goOn (fun cause => ?_) nofun
              ⟨kept.life.trans awake.running, kept.generation,
                .expired rfl found (Table.due_of_fired fired) entries undismissed,
                fun write held => .inl (kept.held write held)⟩
            cases cause with
            | pingFailed again also pinged connected =>
                cases ringing.symm.trans again
                cases fired.symm.trans also
                exact cut ⟨pinged, connected⟩
      · next expiry table early taken =>
          refine .goOn (fun cause => ?_) nofun
            ⟨awake.running, rfl, .still (Table.claims_of_ringing ringing taken early) rfl,
              fun write held => .inl held⟩
          cases cause with
          | pingFailed again also =>
              cases ringing.symm.trans again
              cases taken.symm.trans also
              exact absurd rfl (early _)

theorem handleReport_reacts (awake : engine.IsAwake) (report : Report) :
    engine.Reacts now (.report engine.generation report)
      (engine.handleReport now report).2 (engine.handleReport now report).1 := by
  cases report with
  | connected socket =>
      let attached : Engine :=
        { engine.setPhase .connected with link := some socket, attempting := false }
      have kept : engine.Keeps attached := ⟨rfl, rfl, rfl, fun _ held => held⟩
      have said : AreSilent [.attached socket, .noted (.connected engine.generation)] :=
        AreSilent.append (.single ⟨rfl, rfl⟩) (.single ⟨rfl, rfl⟩)
      have quiet := said.append (silent_pumpWrites (attached.schedulePing now))
      exact .goOn nofun nofun
        (((kept.trans (.schedulePing attached now)).trans (.pumpWrites _)).goesOn awake.running
          quiet.dismissedIn)
  | connectFailed failure =>
      have said : AreSilent [.warned (.connectFailed failure)] := .single ⟨rfl, rfl⟩
      have quiet := said.append (.beginConnect { engine with attempting := false })
      exact .goOn nofun nofun
        (Keeps.goesOn ⟨rfl, rfl, rfl, fun _ held => held⟩ awake.running quiet.dismissedIn)
  | frame packet => exact handleFrame_reacts awake packet
  | readFailed fault =>
      have said : AreSilent [.warned (.readFailed fault)] := .single ⟨rfl, rfl⟩
      have torn := (reconnect_isTorn awake.open_).amid said (List.forall_mem_nil _) rfl
      rw [List.append_nil] at torn
      exact .cut (.readFailed fault) ((life_reconnect engine).trans awake.running) torn
  | written =>
      let free : Engine := { engine with inFlight := none }
      have kept := Keeps.pumpWrites free
      have delivered : AreSilent (engine.inFlight.toList.map .delivered) :=
        .map _ fun _ => ⟨rfl, rfl⟩
      refine .goOn nofun nofun ⟨kept.life.trans awake.running, kept.generation,
        .still (by rw [← kept.pending]; rfl)
          (delivered.append (silent_pumpWrites free)).dismissedIn, fun write held => ?_⟩
      rcases held with queued | busy
      · exact .inl (kept.held write (.inl queued))
      · exact .inr ⟨rfl, busy⟩
  | writeFailed failure part =>
      let left : Engine := (engine.takeBack part).1
      have warned : AreSilent [.warned (.writeFailed failure)] := .single ⟨rfl, rfl⟩
      have said : AreSilent (.warned (.writeFailed failure) :: (engine.takeBack part).2) :=
        warned.append (.map _ fun _ => ⟨rfl, rfl⟩)
      have stillOpen : left.phase ≠ .shuttingDown := awake.open_
      have torn := (reconnect_isTorn stillOpen).amid said
        (List.forall_mem_nil _) rfl
      rw [List.append_nil] at torn
      exact .cut (.writeFailed failure part) ((life_reconnect left).trans awake.running)
        ⟨torn.dismissed, torn.told, torn.emptied, torn.left, torn.unlinked⟩

/-- Every reaction tears the connection down, ends it, breaks the engine down, or goes on. -/
theorem step_reacts (now : Time) (awake : engine.IsAwake) (distinct : engine.pending.IsDistinct)
    (stimulus : Stimulus) :
    engine.Reacts now stimulus (engine.step now stimulus).2 (engine.step now stimulus).1 := by
  unfold step
  rw [awake.running]
  cases stimulus with
  | command command =>
      cases command with
      | write packet ticket => exact write_reacts awake packet ticket
      | reconnect =>
          exact .cut .reconnect ((life_reconnect engine).trans awake.running)
            (reconnect_isTorn awake.open_)
      | disablePing =>
          exact .goOn nofun nofun
            (Keeps.goesOn ⟨rfl, rfl, rfl, fun _ held => held⟩ awake.running rfl)
      | shutdown => exact .shutDown rfl rfl (shutDown_isTorn engine)
  | report generation report =>
      dsimp only
      split
      · next current =>
          subst current
          exact handleReport_reacts awake report
      · next old =>
          have quiet := (AreSilent.ignoreReport engine report).dismissedIn
          have same : (engine.ignoreReport report).1 = engine := by cases report <;> rfl
          refine .goOn (fun cause => ?_) nofun (Keeps.goesOn ?_ awake.running quiet)
          · cases cause <;> exact old rfl
          · rw [same]
            exact .refl engine
  | alarm => exact handleAlarm_reacts awake distinct
  | ping sync => exact sendPing_reacts awake sync

end Engine

end RequestMux.Client
