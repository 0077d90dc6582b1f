import RequestMux.Proofs.Client.Turns

/-!
# Coherence of the engine

Between two reactions the parts of an engine fit together: its phase tells whether there is
an attempt or a socket, what needs a socket is there only with one, and whatever waits is on
its way.  Within a reaction only the last is not so: a buffer may have joined the queue and a
request the table before the engine sees to it that they get on their way.
-/

namespace RequestMux.Client

open Pending (Entry Table Waiter)

/-- Whether a command asks for a socket: a write with or without a ticket, or a reconnect. -/
def Command.isOpening : Command → Bool
  | .write _ _ => true
  | .reconnect => true
  | _ => false

def Stimulus.isOpening : Stimulus → Bool
  | .command given => given.isOpening
  | _ => false

namespace Engine

/-- Whether the phase of an engine tells what it has, and what needs a socket is there only with
one. -/
structure IsFitting (engine : Engine) : Prop where
  connecting : engine.phase = .connecting ↔ engine.attempting = true
  connected : engine.phase = .connected ↔ engine.link.isSome = true
  inFlight : engine.inFlight.isSome = true → engine.phase = .connected
  scheduled : engine.pingAt.isSome = true → engine.phase = .connected
  pinged : ∀ entry ∈ engine.pending.entries, entry.waiter = .ping → engine.phase = .connected
  shown : engine.board.phase = engine.phase
  calm : engine.phase ≠ .connected → engine.board.writing = false

/-- Whether besides everything that waits is on its way, and the board is true. -/
structure IsCoherent (engine : Engine) : Prop extends engine.IsFitting where
  writing : engine.board.writing = engine.inFlight.any QueuedWrite.counted
  flowing : engine.phase = .connected → engine.inFlight = none → engine.queue = []
  engaged : engine.queue ≠ [] ∨ engine.pending.entries ≠ [] →
    engine.phase = .connecting ∨ engine.phase = .connected

/-- Whether an engine has nothing that needs a socket. -/
structure IsBare (engine : Engine) : Prop where
  unlinked : engine.link = none
  free : engine.inFlight = none
  unscheduled : engine.pingAt = none
  unpinged : ∀ entry ∈ engine.pending.entries, entry.waiter ≠ .ping
  calm : engine.board.writing = false

variable {now : Time} {engine : Engine}

theorem IsFitting.isBare (fitting : engine.IsFitting) (away : engine.phase ≠ .connected) :
    engine.IsBare := by
  have isNone {Item : Type} {item : Option Item}
      (there : item.isSome = true → engine.phase = .connected) : item = none :=
    Option.not_isSome_iff_eq_none.mp fun some => away (there some)
  exact ⟨isNone fitting.connected.mpr, isNone fitting.inFlight, isNone fitting.scheduled,
    fun entry member waits => away (fitting.pinged entry member waits), fitting.calm away⟩

/-- The next buffer goes to the writer, if it is free and there is one. -/
theorem pumpWrites_isCoherent (fitting : engine.IsFitting) (connected : engine.phase = .connected) :
    engine.pumpWrites.1.IsCoherent := by
  have linked : engine.link.isSome = true := fitting.connected.mp connected
  unfold pumpWrites
  split
  · exact ⟨⟨fitting.connecting, fitting.connected, fun _ => connected, fitting.scheduled,
      fitting.pinged, fitting.shown, fun other => absurd connected other⟩, rfl,
      fun _ => nofun, fun _ => .inr connected⟩
  · next stuck =>
      refine ⟨⟨fitting.connecting, fitting.connected, fitting.inFlight, fitting.scheduled,
        fitting.pinged, fitting.shown, fun other => absurd connected other⟩, rfl,
        fun _ free => ?_, fun _ => .inr connected⟩
      obtain ⟨socket, here⟩ := Option.isSome_iff_exists.mp linked
      cases waiting : engine.queue with
      | nil => exact waiting
      | cons write rest => exact (stuck socket write rest free here waiting).elim

/-- An attempt may begin where nothing needs a socket. -/
theorem beginConnect_isCoherent (bare : engine.IsBare) : engine.beginConnect.1.IsCoherent where
  connecting := ⟨fun _ => rfl, fun _ => rfl⟩
  connected := ⟨nofun, fun linked => by simp [beginConnect, setPhase, bare.unlinked] at linked⟩
  inFlight busy := by simp [beginConnect, setPhase, bare.free] at busy
  scheduled due := by simp [beginConnect, setPhase, bare.unscheduled] at due
  pinged entry member waits := absurd waits (bare.unpinged entry member)
  shown := rfl
  calm _ := bare.calm
  writing := by simp [beginConnect, setPhase, bare.free, bare.calm]
  flowing := nofun
  engaged _ := .inl rfl

/-- Whatever has joined the queue or the table gets on its way. -/
theorem dispatch_isCoherent (fitting : engine.IsFitting) (isOpen : engine.phase ≠ .shuttingDown) :
    engine.dispatch.1.IsCoherent := by
  unfold dispatch
  split
  · next vacant => exact beginConnect_isCoherent (fitting.isBare (by simp [vacant]))
  · next dialing =>
      have bare := fitting.isBare (by simp [dialing])
      refine ⟨fitting, ?_, fun connected => absurd (dialing.symm.trans connected) nofun,
        fun _ => .inl dialing⟩
      rw [bare.calm, bare.free]
      rfl
  · next connected => exact pumpWrites_isCoherent fitting connected
  · next closing => exact absurd closing isOpen

theorem enqueue_isCoherent (fitting : engine.IsFitting) (isOpen : engine.phase ≠ .shuttingDown)
    (octets : Bytes) (counted : Bool) : (engine.enqueue octets counted).1.IsCoherent := by
  have pushed : (engine.push octets counted).1.IsFitting := { fitting with }
  exact dispatch_isCoherent pushed isOpen

/-- Whatever there was, a teardown leaves nothing that needs a socket. -/
theorem teardown_isBare (engine : Engine) : engine.teardown.1.IsBare :=
  ⟨rfl, rfl, rfl, nofun, rfl⟩

/-- A reconnect leaves a coherent engine, whatever it was before. -/
theorem reconnect_isCoherent (isOpen : engine.phase ≠ .shuttingDown) :
    engine.reconnect.1.IsCoherent := by
  unfold reconnect
  rw [if_neg isOpen]
  exact beginConnect_isCoherent (teardown_isBare engine)

/-- So does a socket that comes. -/
theorem attach_isCoherent (now : Time) (socket : Nat) :
    (engine.attach now socket).1.IsCoherent := by
  let attached : Engine :=
    { engine.setPhase .connected with link := some socket, attempting := false }
  have fitting : (attached.schedulePing now).IsFitting := by
    refine ⟨⟨nofun, nofun⟩, ⟨fun _ => rfl, fun _ => rfl⟩, fun _ => rfl, fun _ => rfl,
      fun _ _ _ => rfl, rfl, fun other => absurd rfl other⟩
  exact pumpWrites_isCoherent fitting rfl

/-- An engine that was shut down has nothing left. -/
theorem shutDown_isCoherent (engine : Engine) : engine.shutDown.1.IsCoherent where
  connecting := ⟨nofun, nofun⟩
  connected := ⟨nofun, nofun⟩
  inFlight := nofun
  scheduled := nofun
  pinged := nofun
  shown := rfl
  calm _ := rfl
  writing := rfl
  flowing := nofun
  engaged := by
    rintro (queued | waiting)
    · exact absurd rfl queued
    · exact absurd rfl waiting

namespace IsFitting

theorem settle (fitting : engine.IsFitting) (ticket : Nat) (outcome : Outcome) :
    (engine.settle ticket outcome).1.IsFitting :=
  { fitting with }

/-- A ping is scheduled only with a socket. -/
theorem schedulePing (fitting : engine.IsFitting) (now : Time) :
    (engine.schedulePing now).IsFitting where
  connecting := fitting.connecting
  connected := fitting.connected
  inFlight := fitting.inFlight
  scheduled due := by
    unfold Engine.schedulePing at due
    dsimp only at due
    split at due
    · split at due
      · next wanted => exact eq_of_beq (Bool.and_eq_true_iff.mp wanted).2
      · cases due
    · cases due
  pinged := fitting.pinged
  shown := fitting.shown
  calm := fitting.calm

/-- A request may enter the table; a ping, only with a socket. -/
theorem register (fitting : engine.IsFitting) (now : Time) (sync : UInt32) {waiter : Waiter}
    (asked : waiter = .ping → engine.phase = .connected) :
    (engine.register now sync waiter).2.1.IsFitting where
  connecting := fitting.connecting
  connected := fitting.connected
  inFlight := fitting.inFlight
  scheduled := fitting.scheduled
  pinged entry member waits := by
    have entered := (Table.register_entries engine.pending (engine.entryFor now sync waiter)).2
    change entry ∈ (engine.pending.register (engine.entryFor now sync waiter)).2.entries at member
    rw [entered] at member
    rcases List.mem_append.mp member with old | new
    · exact fitting.pinged entry (List.mem_of_mem_filter old) waits
    · rw [List.mem_singleton.mp new] at waits
      exact asked waits
  shown := fitting.shown
  calm := fitting.calm

theorem yieldTo (fitting : engine.IsFitting) (now : Time) (sync : UInt32)
    (replaced : Option Entry) : (engine.yieldTo now sync replaced).1.IsFitting := by
  unfold Engine.yieldTo
  split
  · next ticket _ => exact fitting.settle ticket .error
  · exact fitting.schedulePing now
  · exact fitting

theorem yieldToPing (fitting : engine.IsFitting) (replaced : Option Entry) :
    (engine.yieldToPing replaced).1.IsFitting := by
  unfold Engine.yieldToPing
  split
  · next ticket _ => exact fitting.settle ticket .error
  · exact fitting

end IsFitting

theorem phase_yieldTo (now : Time) (sync : UInt32) (replaced : Option Entry) :
    (engine.yieldTo now sync replaced).1.phase = engine.phase := by
  unfold yieldTo
  split <;> rfl

theorem phase_yieldToPing (replaced : Option Entry) :
    (engine.yieldToPing replaced).1.phase = engine.phase := by
  unfold yieldToPing
  split <;> rfl

namespace IsCoherent

theorem settle (coherent : engine.IsCoherent) (ticket : Nat) (outcome : Outcome) :
    (engine.settle ticket outcome).1.IsCoherent :=
  { coherent with }

theorem schedulePing (coherent : engine.IsCoherent) (now : Time) :
    (engine.schedulePing now).IsCoherent :=
  ⟨coherent.toIsFitting.schedulePing now, coherent.writing, coherent.flowing, coherent.engaged⟩

/-- A new connection has nothing, and shows it. -/
theorem start (settings : Settings) : (Engine.start settings).IsCoherent where
  connecting := ⟨nofun, nofun⟩
  connected := ⟨nofun, nofun⟩
  inFlight := nofun
  scheduled := nofun
  pinged := nofun
  shown := rfl
  calm _ := rfl
  writing := rfl
  flowing := nofun
  engaged some := some.elim (absurd rfl) (absurd rfl)

/-- Entries may leave the table. -/
theorem withTable (coherent : engine.IsCoherent) {table : Table}
    (waited : ∀ entry ∈ table.entries, ∃ other ∈ engine.pending.entries,
      other.waiter = entry.waiter) :
    ({ engine with pending := table } : Engine).IsCoherent where
  connecting := coherent.connecting
  connected := coherent.connected
  inFlight := coherent.inFlight
  scheduled := coherent.scheduled
  pinged entry member waits := by
    obtain ⟨other, before, same⟩ := waited entry member
    exact coherent.pinged other before (same.trans waits)
  shown := coherent.shown
  calm := coherent.calm
  writing := coherent.writing
  flowing := coherent.flowing
  engaged := by
    rintro (queued | waiting)
    · exact coherent.engaged (.inl queued)
    · obtain ⟨entry, member⟩ := List.exists_mem_of_ne_nil _ waiting
      obtain ⟨other, before, -⟩ := waited entry member
      exact coherent.engaged (.inr (List.ne_nil_of_mem before))

theorem pingDone (coherent : engine.IsCoherent) (now : Time) (outcome : Outcome) :
    (engine.pingDone now outcome).1.IsCoherent := by
  unfold Engine.pingDone
  split
  · next connected =>
      split
      · exact coherent.schedulePing now
      · exact reconnect_isCoherent (by simp [emit, connected])
  · exact coherent

theorem complete (coherent : engine.IsCoherent) (now : Time) (waiter : Waiter)
    (outcome : Outcome) : (engine.complete now waiter outcome).1.IsCoherent := by
  cases waiter with
  | caller ticket => exact coherent.settle ticket outcome
  | ping => exact coherent.pingDone now outcome

/-- To write a packet leaves the engine coherent, unless no alarm can be set for its response. -/
theorem write (coherent : engine.IsCoherent) (isOpen : engine.phase ≠ .shuttingDown) (now : Time)
    (packet : Wire.Packet) (ticket : Option Nat) :
    (engine.write now packet ticket).1.life = .collapsed ∨
      (engine.write now packet ticket).1.IsCoherent := by
  unfold Engine.write
  split
  · exact .inr (enqueue_isCoherent coherent.toIsFitting isOpen packet.data true)
  · next ticket =>
      split
      · exact .inl rfl
      · let sync := packet.header.sync
        let entered := engine.register now sync (.caller ticket)
        have fitting : entered.2.1.IsFitting := coherent.toIsFitting.register now sync nofun
        have yielded := fitting.yieldTo now sync entered.1
        have stillOpen : (yieldTo now sync entered.1 entered.2.1).1.phase ≠ .shuttingDown := by
          rw [phase_yieldTo]
          exact isOpen
        exact .inr (enqueue_isCoherent yielded stillOpen packet.data true)

/-- A ping is sent with a socket. -/
theorem sendPing (coherent : engine.IsCoherent) (connected : engine.phase = .connected) (now : Time)
    (sync : UInt32) :
    (engine.sendPing now sync).1.life = .collapsed ∨
      (engine.sendPing now sync).1.IsCoherent := by
  unfold Engine.sendPing
  dsimp only
  split
  · exact .inl rfl
  · let quiet : Engine := { engine with pingAt := none }
    let entered := quiet.register now sync .ping
    have unscheduled : quiet.IsFitting := { coherent.toIsFitting with scheduled := nofun }
    have fitting : entered.2.1.IsFitting := unscheduled.register now sync fun _ => connected
    have yielded := fitting.yieldToPing entered.1
    have stillOpen : (yieldToPing entered.1 entered.2.1).1.phase ≠ .shuttingDown := by
      rw [phase_yieldToPing]
      change engine.phase ≠ .shuttingDown
      simp [connected]
    exact .inr (enqueue_isCoherent yielded stillOpen _ false)

theorem handleFrame (coherent : engine.IsCoherent) (now : Time) (packet : Wire.Packet) :
    (engine.handleFrame now packet).1.IsCoherent := by
  unfold Engine.handleFrame
  split
  · next entry table found =>
      have left : table.entries = (engine.pending.erase packet.header.sync).entries :=
        (Table.resolve_some found).2
      have without : ({ engine with pending := table } : Engine).IsCoherent := by
        refine coherent.withTable fun other member => ⟨other, ?_, rfl⟩
        rw [left] at member
        exact List.mem_of_mem_filter member
      exact without.complete now entry.waiter (.ok packet)
  · exact coherent

/-- A buffer that is done makes room for the next. -/
theorem written (coherent : engine.IsCoherent) :
    (pumpWrites { engine with inFlight := none }).1.IsCoherent := by
  by_cases connected : engine.phase = .connected
  · have free : ({ engine with inFlight := none } : Engine).IsFitting :=
      { coherent.toIsFitting with inFlight := nofun }
    exact pumpWrites_isCoherent free connected
  · have bare := coherent.toIsFitting.isBare connected
    have idle : pumpWrites { engine with inFlight := none } = (engine.publishWriting, []) := by
      simp [pumpWrites, publishWriting, bare.unlinked, bare.free]
    rw [idle]
    refine ⟨{ coherent.toIsFitting with calm := fun _ => ?_ }, rfl, coherent.flowing,
      coherent.engaged⟩
    simp [publishWriting, bare.free]

/-- Whatever a report brings, it leaves the engine coherent, if no attempt is reported to have
failed but one that is under way. -/
theorem handleReport (coherent : engine.IsCoherent) (isOpen : engine.phase ≠ .shuttingDown)
    (now : Time) {report : Report}
    (dialing : ∀ failure, report = .connectFailed failure → engine.attempting = true) :
    (engine.handleReport now report).1.IsCoherent := by
  cases report with
  | connected socket => exact attach_isCoherent now socket
  | connectFailed failure =>
      have phase : engine.phase = .connecting := coherent.connecting.mpr (dialing failure rfl)
      have bare := coherent.toIsFitting.isBare (by simp [phase])
      exact beginConnect_isCoherent ⟨bare.unlinked, bare.free, bare.unscheduled, bare.unpinged,
        bare.calm⟩
  | frame packet => exact coherent.handleFrame now packet
  | readFailed fault => exact reconnect_isCoherent isOpen
  | written => exact coherent.written
  | writeFailed failure part => exact reconnect_isCoherent isOpen

/-- An alarm changes no more of the table than that an entry leaves it. -/
theorem handleAlarm (coherent : engine.IsCoherent) (now : Time) :
    (engine.handleAlarm now).1.IsCoherent := by
  unfold Engine.handleAlarm
  split
  · exact coherent
  · next alarm rung ringing =>
      split
      · next entry table expired =>
          have without : ({ engine with pending := table } : Engine).IsCoherent := by
            refine coherent.withTable fun other member => ⟨other, ?_, rfl⟩
            rw [(Table.fired_of_ringing ringing expired).2] at member
            exact List.mem_of_mem_filter member
          exact without.complete now entry.waiter .timeout
      · next expiry table early expired =>
          have same : table.entries.map Entry.claim = engine.pending.entries.map Entry.claim :=
            Table.claims_of_ringing ringing expired early
          refine coherent.withTable fun other member => ?_
          have claimed : other.claim ∈ engine.pending.entries.map Entry.claim :=
            same ▸ List.mem_map_of_mem member
          obtain ⟨before, there, claim⟩ := List.mem_map.mp claimed
          exact ⟨before, there, congrArg (fun claim => claim.2.2.2) claim⟩

/-- Every reaction leaves a coherent engine coherent, unless no alarm can be set for a request, if
only an attempt that is under way can be reported to have failed, and pings are sent only with a
socket. -/
theorem step (coherent : engine.IsCoherent) (awake : engine.IsAwake) (now : Time)
    (stimulus : Stimulus)
    (dialing : ∀ failure, stimulus = .report engine.generation (.connectFailed failure) →
      engine.attempting = true)
    (pinging : ∀ sync, stimulus = .ping sync → engine.phase = .connected) :
    (engine.step now stimulus).1.life = .collapsed ∨
      (engine.step now stimulus).1.IsCoherent := by
  unfold Engine.step
  rw [awake.running]
  cases stimulus with
  | command command =>
      cases command with
      | write packet ticket => exact coherent.write awake.open_ now packet ticket
      | reconnect => exact .inr (reconnect_isCoherent awake.open_)
      | disablePing => exact .inr { coherent with scheduled := nofun }
      | shutdown => exact .inr (shutDown_isCoherent engine)
  | report generation report =>
      dsimp only
      split
      · next current =>
          subst current
          refine .inr (coherent.handleReport awake.open_ now fun failure failed => ?_)
          exact dialing failure (congrArg _ failed)
      · cases report <;> exact .inr coherent
  | alarm => exact .inr (coherent.handleAlarm now)
  | ping sync => exact coherent.sendPing (pinging sync rfl) now sync

end IsCoherent

/-! An engine that has left the phase without socket and attempt does not come back to it. -/

theorem phase_pumpWrites (engine : Engine) : engine.pumpWrites.1.phase = engine.phase := by
  unfold pumpWrites
  split <;> rfl

theorem phase_dispatch_ne (engine : Engine) : engine.dispatch.1.phase ≠ .disconnected := by
  unfold dispatch
  split
  · exact nofun
  · next dialing => simp [dialing]
  · next connected => simp [phase_pumpWrites, connected]
  · next closing => simp [closing]

theorem phase_reconnect_ne (engine : Engine) : engine.reconnect.1.phase ≠ .disconnected := by
  unfold reconnect
  split
  · next closing => simp [closing]
  · exact nofun

theorem phase_attach_ne (engine : Engine) (now : Time) (socket : Nat) :
    (engine.attach now socket).1.phase ≠ .disconnected := by
  let attached : Engine :=
    { engine.setPhase .connected with link := some socket, attempting := false }
  have kept : (engine.attach now socket).1.phase = .connected :=
    phase_pumpWrites (attached.schedulePing now)
  simp [kept]

theorem vacant_of_complete (engine : Engine) {waiter : Waiter} {outcome : Outcome}
    (vacant : (engine.complete now waiter outcome).1.phase = .disconnected) :
    engine.phase = .disconnected := by
  cases waiter with
  | caller ticket => exact vacant
  | ping =>
      change (engine.pingDone now outcome).1.phase = _ at vacant
      unfold pingDone at vacant
      split at vacant
      · split at vacant
        · exact vacant
        · exact absurd vacant (phase_reconnect_ne engine)
      · exact vacant

theorem vacant_of_handleReport {report : Report}
    (vacant : (engine.handleReport now report).1.phase = .disconnected) :
    engine.phase = .disconnected := by
  cases report with
  | connected socket => exact absurd vacant (phase_attach_ne engine now socket)
  | connectFailed failure => cases vacant
  | frame packet =>
      change (engine.handleFrame now packet).1.phase = _ at vacant
      unfold handleFrame at vacant
      split at vacant
      · next entry table _ =>
          exact vacant_of_complete { engine with pending := table } vacant
      · exact vacant
  | readFailed fault => exact absurd vacant (phase_reconnect_ne _)
  | written => exact (phase_pumpWrites { engine with inFlight := none }).symm.trans vacant
  | writeFailed failure part => exact absurd vacant (phase_reconnect_ne _)

theorem vacant_of_handleAlarm (vacant : (engine.handleAlarm now).1.phase = .disconnected) :
    engine.phase = .disconnected := by
  unfold handleAlarm at vacant
  split at vacant
  · exact vacant
  · split at vacant
    · next entry table _ =>
        exact vacant_of_complete { engine with pending := table } vacant
    · exact vacant

/-- An engine is without socket and attempt only as long as it was asked for neither. -/
theorem vacant_of_step (awake : engine.IsAwake) {stimulus : Stimulus}
    (vacant : (engine.step now stimulus).1.phase = .disconnected) :
    (engine.step now stimulus).1.life = .collapsed ∨
      engine.phase = .disconnected ∧ stimulus.isOpening = false := by
  unfold step at vacant ⊢
  rw [awake.running] at vacant ⊢
  cases stimulus with
  | command command =>
      cases command with
      | write packet ticket =>
          change (engine.write now packet ticket).1.phase = _ at vacant
          change (engine.write now packet ticket).1.life = _ ∨ _
          unfold write at vacant ⊢
          split at vacant
          · exact absurd vacant (phase_dispatch_ne _)
          · split at vacant
            · next impossible => exact .inl (by rw [if_pos impossible]; rfl)
            · exact absurd vacant (phase_dispatch_ne _)
      | reconnect => exact absurd vacant (phase_reconnect_ne engine)
      | disablePing => exact .inr ⟨vacant, rfl⟩
      | shutdown => cases vacant
  | report generation report =>
      dsimp only at vacant
      split at vacant
      · exact .inr ⟨vacant_of_handleReport vacant, rfl⟩
      · cases report <;> exact .inr ⟨vacant, rfl⟩
  | alarm => exact .inr ⟨vacant_of_handleAlarm vacant, rfl⟩
  | ping sync =>
      change (engine.sendPing now sync).1.phase = _ at vacant
      change (engine.sendPing now sync).1.life = _ ∨ _
      unfold sendPing at vacant ⊢
      dsimp only at vacant ⊢
      split at vacant
      · next impossible => exact .inl (by rw [if_pos impossible]; rfl)
      · exact absurd vacant (phase_dispatch_ne _)

end Engine

end RequestMux.Client
