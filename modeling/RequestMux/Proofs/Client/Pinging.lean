import RequestMux.Proofs.Client.Alarms
import RequestMux.Proofs.Client.Carriage
import RequestMux.Proofs.Client.States

/-!
# The liveness ping

As long as pings are wanted and a socket is served, there is exactly one ping: it is scheduled, or
it waits for its response.  A response, a request that takes its id and a new socket schedule it
anew; it is never scheduled while another waits.
-/

namespace RequestMux.Client

open Pending (Entry Table Waiter)

namespace Pending

/-- Whether the connection itself waits. -/
def Entry.isPing (entry : Entry) : Bool := decide (entry.waiter = .ping)

namespace Table

/-- How many pings wait for a response. -/
def pings (table : Table) : Nat := table.entries.countP Entry.isPing

variable {table left : Table} {sync : UInt32} {entry : Entry}

theorem pings_eq_zero_iff : table.pings = 0 ↔ ∀ entry ∈ table.entries, entry.waiter ≠ .ping := by
  simp [pings, List.countP_eq_zero, Entry.isPing]

theorem pings_of_erase (distinct : table.IsDistinct) (found : table.find? sync = some entry)
    (erased : left.entries = (table.erase sync).entries) :
    table.pings = left.pings + if entry.isPing then 1 else 0 := by
  have counted := (entries_erase distinct found).countP_eq Entry.isPing
  rw [List.countP_cons, ← erased] at counted
  exact counted

/-- A new entry counts, and the one that it replaces does no longer. -/
theorem pings_register (distinct : table.IsDistinct) (entry : Entry) :
    table.pings + (if entry.isPing then 1 else 0) =
      (table.register entry).1.toList.countP Entry.isPing + (table.register entry).2.pings := by
  have counted := (entries_register distinct entry).countP_eq Entry.isPing
  rw [List.countP_append, List.countP_append, List.countP_singleton] at counted
  exact counted

theorem pings_of_claims (same : left.entries.map Entry.claim = table.entries.map Entry.claim) :
    left.pings = table.pings := by
  have byClaim (entries : List Entry) : entries.countP Entry.isPing =
      (entries.map Entry.claim).countP fun claim => decide (claim.2.2.2 = .ping) := by
    rw [List.countP_map]
    rfl
  rw [pings, pings, byClaim, byClaim, same]

end Table

end Pending

namespace Engine

/-- How many pings are scheduled or wait for a response. -/
def probes (engine : Engine) : Nat := engine.pingAt.toList.length + engine.pending.pings

/-- Whether there is no more than one ping, and with a socket no less, if pings are wanted. -/
structure IsProbing (engine : Engine) : Prop where
  wanted : engine.pingEnabled = true → engine.settings.pingInterval.isSome = true
  scheduled : engine.pingAt.isSome = true → engine.pingEnabled = true
  single : engine.probes ≤ 1
  going : engine.phase = .connected → engine.pingEnabled = true → engine.probes = 1

variable {now : Time} {engine after : Engine}

namespace IsProbing

theorem start (settings : Settings) : (Engine.start settings).IsProbing :=
  ⟨fun wanted => wanted, nofun, Nat.zero_le _, nofun⟩

/-- What neither touches the pings nor brings a socket. -/
theorem of_same (probing : engine.IsProbing)
    (same : (after.settings, after.pingEnabled, after.pingAt) =
      (engine.settings, engine.pingEnabled, engine.pingAt))
    (pings : after.pending.pings = engine.pending.pings)
    (phase : after.phase = .connected → engine.phase = .connected) : after.IsProbing := by
  simp only [Prod.mk.injEq] at same
  obtain ⟨settings, enabled, pingAt⟩ := same
  have probes : after.probes = engine.probes := by rw [Engine.probes, Engine.probes, pingAt, pings]
  constructor
  case wanted =>
    rw [enabled, settings]
    exact probing.wanted
  case scheduled =>
    rw [enabled, pingAt]
    exact probing.scheduled
  case single =>
    rw [probes]
    exact probing.single
  case going =>
    rw [enabled, probes]
    exact fun connected => probing.going (phase connected)

/-- Without a socket and without a ping, nothing is asked but that pings may be wanted. -/
theorem of_idle (wanted : after.pingEnabled = true → after.settings.pingInterval.isSome = true)
    (unscheduled : after.pingAt = none) (emptied : after.pending.entries = [])
    (away : after.phase ≠ .connected) : after.IsProbing where
  wanted := wanted
  scheduled due := by
    rw [unscheduled] at due
    cases due
  single := by
    have none : after.probes = 0 := by
      rw [Engine.probes, unscheduled, Table.pings, emptied]
      rfl
    rw [none]
    exact Nat.zero_le 1
  going connected := absurd connected away

/-- Where no ping waits, one may be scheduled. -/
theorem schedulePing (engine : Engine)
    (wanted : engine.pingEnabled = true → engine.settings.pingInterval.isSome = true)
    (quiet : engine.pending.pings = 0) (now : Time) : (engine.schedulePing now).IsProbing := by
  have probes : (engine.schedulePing now).probes =
      (engine.schedulePing now).pingAt.toList.length := by
    change _ + engine.pending.pings = _
    rw [quiet]
    rfl
  cases interval : engine.settings.pingInterval with
  | none =>
      have unwanted : engine.pingEnabled = false := by
        rw [interval] at wanted
        exact Bool.eq_false_iff.mpr fun enabled => nomatch wanted enabled
      have unscheduled : (engine.schedulePing now).pingAt = none := by
        simp [Engine.schedulePing, interval]
      refine ⟨wanted, ?_, ?_, fun _ enabled => nomatch unwanted.symm.trans enabled⟩
      · rw [unscheduled]
        exact nofun
      · rw [probes, unscheduled]
        exact Nat.zero_le 1
  | some span =>
      have pingAt : (engine.schedulePing now).pingAt =
          if engine.pingEnabled && engine.phase == .connected then some (now + span.toNat)
          else none := by
        simp [Engine.schedulePing, interval]
      constructor
      case wanted => exact wanted
      case scheduled =>
        intro due
        rw [pingAt] at due
        split at due
        · next ready => exact (Bool.and_eq_true_iff.mp ready).1
        · cases due
      case single =>
        rw [probes, pingAt]
        split
        · exact Nat.le_refl 1
        · exact Nat.zero_le 1
      case going =>
        intro connected enabled
        have ready : (engine.pingEnabled && engine.phase == .connected) = true :=
          Bool.and_eq_true_iff.mpr ⟨enabled, beq_iff_eq.mpr connected⟩
        rw [probes, pingAt, if_pos ready]
        rfl

/-- Where a ping is scheduled, none waits. -/
theorem quiet_of_scheduled (probing : engine.IsProbing) (due : engine.pingAt.isSome = true) :
    engine.pending.pings = 0 := by
  obtain ⟨time, scheduled⟩ := Option.isSome_iff_exists.mp due
  have single := probing.single
  rw [probes, scheduled] at single
  exact Nat.le_zero.mp (Nat.le_of_add_le_add_left single)

theorem pings_le_one (probing : engine.IsProbing) : engine.pending.pings ≤ 1 :=
  Nat.le_trans (Nat.le_add_left _ _) probing.single

theorem settle (probing : engine.IsProbing) (ticket : Nat) (outcome : Outcome) :
    (engine.settle ticket outcome).1.IsProbing :=
  probing.of_same rfl rfl id

theorem beginConnect (probing : engine.IsProbing) : engine.beginConnect.1.IsProbing :=
  probing.of_same rfl rfl nofun

theorem pumpWrites (probing : engine.IsProbing) : engine.pumpWrites.1.IsProbing := by
  unfold Engine.pumpWrites
  split <;> exact probing.of_same rfl rfl id

theorem enqueue (probing : engine.IsProbing) (octets : Bytes) (counted : Bool) :
    (engine.enqueue octets counted).1.IsProbing := by
  have pushed : (engine.push octets counted).1.IsProbing := probing.of_same rfl rfl id
  change (dispatch (engine.push octets counted).1).1.IsProbing
  unfold Engine.dispatch
  split
  · exact pushed.beginConnect
  · exact pushed
  · exact pushed.pumpWrites
  · exact pushed.of_same rfl rfl id

/-- A teardown leaves no ping. -/
theorem reconnect (probing : engine.IsProbing) (isOpen : engine.phase ≠ .shuttingDown) :
    engine.reconnect.1.IsProbing := by
  unfold Engine.reconnect
  rw [if_neg isOpen]
  exact of_idle probing.wanted rfl rfl nofun

theorem shutDown (probing : engine.IsProbing) : engine.shutDown.1.IsProbing :=
  of_idle probing.wanted rfl rfl nofun

/-- A ping that is answered is scheduled again; one that is not costs the socket. -/
theorem pingDone (engine : Engine)
    (wanted : engine.pingEnabled = true → engine.settings.pingInterval.isSome = true)
    (quiet : engine.pending.pings = 0) (connected : engine.phase = .connected) (now : Time)
    (outcome : Outcome) : (engine.pingDone now outcome).1.IsProbing := by
  unfold Engine.pingDone
  rw [if_pos connected]
  split
  · exact schedulePing engine wanted quiet now
  · have isOpen : engine.phase ≠ .shuttingDown := by simp [connected]
    change engine.reconnect.1.IsProbing
    unfold Engine.reconnect
    rw [if_neg isOpen]
    exact of_idle wanted rfl rfl nofun

/-- An entry leaves the table and is given its outcome. -/
theorem leave (probing : engine.IsProbing) (coherent : engine.IsCoherent)
    (distinct : engine.pending.IsDistinct) {table : Table} {sync : UInt32} {entry : Entry}
    (found : engine.pending.find? sync = some entry)
    (left : table.entries = (engine.pending.erase sync).entries) (now : Time) (outcome : Outcome) :
    (complete now entry.waiter outcome { engine with pending := table }).1.IsProbing := by
  let without : Engine := { engine with pending := table }
  have counted := Table.pings_of_erase distinct found left
  cases waits : entry.waiter with
  | caller ticket =>
      have other : entry.isPing = false := by simp [Entry.isPing, waits]
      rw [other] at counted
      have same : without.IsProbing := probing.of_same rfl counted.symm id
      exact same.settle ticket outcome
  | ping =>
      have connected : engine.phase = .connected :=
        coherent.pinged entry (Table.find?_sync found).1 waits
      have one : entry.isPing = true := by simp [Entry.isPing, waits]
      rw [one, if_pos rfl] at counted
      have single := probing.pings_le_one
      have quiet : without.pending.pings = 0 := by
        change table.pings = 0
        omega
      exact pingDone without probing.wanted quiet connected now outcome

/-- A request that takes over the id of the ping has the ping scheduled again. -/
theorem yieldTo (probing : engine.IsProbing) (distinct : engine.pending.IsDistinct) (now : Time)
    (sync : UInt32) (ticket : Nat) :
    let entered := engine.register now sync (.caller ticket)
    (Engine.yieldTo now sync entered.1 entered.2.1).1.IsProbing := by
  intro entered
  let made := engine.entryFor now sync (.caller ticket)
  have counted := Table.pings_register distinct made
  have caller : made.isPing = false := rfl
  rw [caller] at counted
  change (Engine.yieldTo now sync (engine.pending.register made).1
    { engine with pending := (engine.pending.register made).2 }).1.IsProbing
  have same (unreplaced : (engine.pending.register made).1.toList.countP Entry.isPing = 0) :
      ({ engine with pending := (engine.pending.register made).2 } : Engine).IsProbing := by
    refine probing.of_same rfl ?_ id
    rw [unreplaced] at counted
    exact (counted.trans (Nat.zero_add _)).symm
  cases replaced : (engine.pending.register made).1 with
  | none => exact same (by rw [replaced]; rfl)
  | some old =>
      unfold Engine.yieldTo
      simp only [Option.map_some]
      cases waits : old.waiter with
      | caller other =>
          refine IsProbing.settle (same ?_) other .error
          simp [replaced, Entry.isPing, waits]
      | ping =>
          have one : (engine.pending.register made).1.toList.countP Entry.isPing = 1 := by
            simp [replaced, Entry.isPing, waits]
          have single := probing.pings_le_one
          have quiet : (engine.pending.register made).2.pings = 0 := by
            rw [one] at counted
            simp only [Bool.false_eq_true, if_false, Nat.add_zero] at counted
            omega
          let entered : Engine := { engine with pending := (engine.pending.register made).2 }
          exact schedulePing entered probing.wanted quiet now

theorem write (probing : engine.IsProbing) (distinct : engine.pending.IsDistinct) (now : Time)
    (packet : Wire.Packet) (ticket : Option Nat) :
    (engine.write now packet ticket).1.life = .collapsed ∨
      (engine.write now packet ticket).1.IsProbing := by
  unfold Engine.write
  split
  · exact .inr (probing.enqueue packet.data true)
  · next ticket =>
      split
      · exact .inl rfl
      · have yielded := probing.yieldTo distinct now packet.header.sync ticket
        exact .inr (yielded.enqueue packet.data true)

/-- A ping that was scheduled waits for its response. -/
theorem sendPing (probing : engine.IsProbing) (distinct : engine.pending.IsDistinct)
    (due : engine.pingAt.isSome = true) (now : Time) (sync : UInt32) :
    (engine.sendPing now sync).1.life = .collapsed ∨
      (engine.sendPing now sync).1.IsProbing := by
  unfold Engine.sendPing
  dsimp only
  split
  · exact .inl rfl
  · let made := engine.entryFor now sync .ping
    let registered := engine.pending.register made
    have quiet := probing.quiet_of_scheduled due
    have counted := Table.pings_register distinct made
    have one : made.isPing = true := rfl
    rw [one, if_pos rfl, quiet] at counted
    -- whoever had the id was a caller: no ping was waiting
    have replaced : registered.1.toList.countP Entry.isPing = 0 := by
      refine List.countP_eq_zero.mpr fun old member pinged => ?_
      rw [show registered.1 = engine.pending.find? sync from
        (Table.register_entries engine.pending made).1, Option.mem_toList] at member
      exact Table.pings_eq_zero_iff.mp quiet old (Table.find?_sync member).1
        (of_decide_eq_true pinged)
    have waiting : registered.2.pings = 1 := by
      change 0 + 1 = registered.1.toList.countP Entry.isPing + registered.2.pings at counted
      rw [replaced, Nat.zero_add, Nat.zero_add] at counted
      exact counted.symm
    have entered : ({ engine with pingAt := none, pending := registered.2 } : Engine).IsProbing :=
      ⟨probing.wanted, nofun, Nat.le_of_eq ((Nat.zero_add _).trans waiting),
        fun _ _ => (Nat.zero_add _).trans waiting⟩
    have yielded : (Engine.yieldToPing registered.1
        { engine with pingAt := none, pending := registered.2 }).1.IsProbing := by
      unfold Engine.yieldToPing
      split
      · exact entered.settle _ .error
      · exact entered
    exact .inr (yielded.enqueue _ false)

/-- A new socket has a ping scheduled. -/
theorem attach (probing : engine.IsProbing) (coherent : engine.IsCoherent)
    (dialing : engine.attempting = true) (now : Time) (socket : Nat) :
    (engine.attach now socket).1.IsProbing := by
  have phase : engine.phase = .connecting := coherent.connecting.mpr dialing
  have bare := coherent.toIsFitting.isBare (by simp [phase])
  have quiet : engine.pending.pings = 0 := Table.pings_eq_zero_iff.mpr bare.unpinged
  let attached : Engine :=
    { engine.setPhase .connected with link := some socket, attempting := false }
  have scheduled : (attached.schedulePing now).IsProbing :=
    schedulePing attached probing.wanted quiet now
  exact scheduled.pumpWrites

theorem handleReport (probing : engine.IsProbing) (coherent : engine.IsCoherent)
    (distinct : engine.pending.IsDistinct) (isOpen : engine.phase ≠ .shuttingDown) (now : Time)
    {report : Report}
    (attaching : ∀ socket, report = .connected socket → engine.attempting = true) :
    (engine.handleReport now report).1.IsProbing := by
  cases report with
  | connected socket => exact probing.attach coherent (attaching socket rfl) now socket
  | connectFailed failure =>
      have given : ({ engine with attempting := false } : Engine).IsProbing :=
        probing.of_same rfl rfl id
      exact given.beginConnect
  | frame packet =>
      change (engine.handleFrame now packet).1.IsProbing
      unfold Engine.handleFrame
      split
      · next entry table resolved =>
          obtain ⟨found, left⟩ := Table.resolve_some resolved
          exact probing.leave coherent distinct found left now (.ok packet)
      · exact probing
  | readFailed fault => exact probing.reconnect isOpen
  | written =>
      have free : ({ engine with inFlight := none } : Engine).IsProbing :=
        probing.of_same rfl rfl id
      exact free.pumpWrites
  | writeFailed failure part =>
      have left : (engine.takeBack part).1.IsProbing := probing.of_same rfl rfl id
      exact left.reconnect isOpen

theorem handleAlarm (probing : engine.IsProbing) (coherent : engine.IsCoherent)
    (distinct : engine.pending.IsDistinct) (now : Time) :
    (engine.handleAlarm now).1.IsProbing := by
  unfold Engine.handleAlarm
  split
  · exact probing
  · next alarm rung ringing =>
      split
      · next entry table fired =>
          obtain ⟨found, left⟩ := Table.fired_of_ringing ringing fired
          exact probing.leave coherent distinct found left now .timeout
      · next expiry table early taken =>
          exact probing.of_same rfl
            (Table.pings_of_claims (Table.claims_of_ringing ringing taken early)) id

/-- Every reaction keeps the ping, unless no alarm can be set for it, if only an attempt that is
under way is reported to have given a socket, and a ping comes only where one was scheduled. -/
theorem step (probing : engine.IsProbing) (coherent : engine.IsCoherent)
    (distinct : engine.pending.IsDistinct) (awake : engine.IsAwake) (now : Time)
    (stimulus : Stimulus)
    (attaching : ∀ socket, stimulus = .report engine.generation (.connected socket) →
      engine.attempting = true)
    (pinging : ∀ sync, stimulus = .ping sync → engine.pingAt.isSome = true) :
    (engine.step now stimulus).1.life = .collapsed ∨ (engine.step now stimulus).1.IsProbing := by
  unfold Engine.step
  rw [awake.running]
  cases stimulus with
  | command command =>
      cases command with
      | write packet ticket => exact probing.write distinct now packet ticket
      | reconnect => exact .inr (probing.reconnect awake.open_)
      | disablePing =>
          refine .inr ⟨nofun, nofun, ?_, fun _ => nofun⟩
          exact Nat.le_trans (Nat.le_of_eq (Nat.zero_add _)) probing.pings_le_one
      | shutdown => exact .inr probing.shutDown
  | report generation report =>
      dsimp only
      split
      · next current =>
          subst current
          exact .inr (probing.handleReport coherent distinct awake.open_ now
            fun socket came => attaching socket (congrArg _ came))
      · cases report <;> exact .inr probing
  | alarm => exact .inr (probing.handleAlarm coherent distinct now)
  | ping sync => exact probing.sendPing distinct (pinging sync rfl) now sync

end IsProbing

/-- Pings stay wanted until the engine is told to send none. -/
theorem pingEnabled_step (awake : engine.IsAwake) (now : Time) (stimulus : Stimulus) :
    (engine.step now stimulus).1.pingEnabled = true ↔
      engine.pingEnabled = true ∧ stimulus ≠ .command .disablePing := by
  let motive (_ : List Effect) (after : Engine) : Prop :=
    after.pingEnabled = true ↔ engine.pingEnabled = true ∧ stimulus ≠ .command .disablePing
  refine (step_course now awake stimulus).holds (motive := motive) []
    (fun {first middle} onset => ?_) fun {past before more next} _ tick held => ?_
  · have same (kept : middle.pingEnabled = engine.pingEnabled)
        (other : stimulus ≠ .command .disablePing) : motive ([] ++ first) middle := by
      change middle.pingEnabled = true ↔ _
      rw [kept]
      exact (and_iff_left other).symm
    cases onset with
    | disablePing => exact ⟨nofun, fun wanted => absurd rfl wanted.2⟩
    | plain told => exact same rfl fun disables => by rw [disables] at told; cases told
    | enter talk pingAt asked said possible =>
        exact same rfl fun disables => by rw [disables] at asked; exact asked
    | collapse asked impossible =>
        exact same rfl fun disables => by rw [disables] at asked; exact asked
    | _ => exact same rfl nofun
  · have kept : next.pingEnabled = before.pingEnabled := by cases tick <;> rfl
    change next.pingEnabled = true ↔ _
    rw [kept]
    exact held

end Engine

theorem Stimulus.eq_ping_of_asks {stimulus : Stimulus} {sync : UInt32}
    (asked : stimulus.Asks sync .ping) : stimulus = .ping sync := by
  cases stimulus with
  | command command =>
      cases command with
      | write packet ticket =>
          cases ticket with
          | none => exact asked.elim
          | some ticket => exact nomatch asked.2
      | _ => exact asked.elim
  | ping other => exact congrArg Stimulus.ping asked.1.symm
  | _ => exact asked.elim

/-- Whether the engine has heard in some turns that it is to send no more pings. -/
def IsUnpinged (turns : List Turn) : Prop :=
  ∃ turn ∈ turns, turn.heard? = some (.command .disablePing)

theorem isUnpinged_append (turns : List Turn) (turn : Turn) :
    IsUnpinged (turns ++ [turn]) ↔
      IsUnpinged turns ∨ turn.heard? = some (.command .disablePing) := by
  simp [IsUnpinged, or_and_right, exists_or]

/-- Whether a connection has one ping after some turns if it wants pings, and else none to come. -/
structure Connection.IsProbing (turns : List Turn) (connection : Connection) : Prop where
  single : connection.engine.pending.pings ≤ 1
  exclusive : connection.engine.pingAt.isSome = true → connection.engine.pending.pings = 0
  scheduled : connection.engine.pingAt.isSome = true → connection.engine.phase = .connected
  waiting : connection.engine.pending.pings ≠ 0 → connection.engine.phase = .connected
  wanted : connection.engine.pingAt.isSome = true →
    connection.engine.settings.pingInterval.isSome = true ∧ ¬IsUnpinged turns
  /-- Either it is scheduled or it waits. -/
  going : connection.engine.phase = .connected →
    connection.engine.settings.pingInterval.isSome = true → ¬IsUnpinged turns →
      connection.engine.pingAt.isSome = true ∨ connection.engine.pending.pings = 1

namespace Turn

/-- Pings stay wanted in every turn but that in which the engine hears otherwise. -/
theorem pingEnabled_after (turn : Turn) (sound : turn.before.IsSound) :
    turn.after.engine.pingEnabled = true ↔
      turn.before.engine.pingEnabled = true ∧ turn.heard? ≠ some (.command .disablePing) := by
  cases turn.becomes sound with
  | idle board unheard like engine silent =>
      rw [engine, unheard]
      exact (and_iff_left nofun).symm
  | heard stimulus board more hears awake like engine effects farewell =>
      rw [engine, hears]
      exact (Engine.pingEnabled_step awake turn.time stimulus).trans
        (and_congr_right' (Option.some_inj.not.symm))

/-- A turn keeps the ping, unless the engine breaks down. -/
theorem IsApt.probing {turn : Turn} (apt : turn.IsApt) (sound : turn.before.IsSound)
    (distinct : turn.before.engine.pending.IsDistinct)
    (stands : turn.before.engine.life = .collapsed ∨
      turn.before.engine.IsCoherent ∧ turn.before.engine.IsProbing) :
    turn.after.engine.life = .collapsed ∨ turn.after.engine.IsProbing := by
  cases turn.becomes sound with
  | idle board unheard like engine silent =>
      rw [engine]
      exact stands.imp_right fun standing => standing.2.of_same rfl rfl id
  | heard stimulus board more hears awake like engine effects farewell =>
      obtain ⟨coherent, probing⟩ :=
        stands.resolve_left fun collapsed => nomatch awake.running.symm.trans collapsed
      rw [engine]
      refine (probing.step coherent distinct awake turn.time stimulus ?_ ?_).imp_right
        fun probing => probing.of_same rfl rfl id
      · rintro socket rfl
        exact apt.attaching awake.running socket (stimulus?_of_heard? hears)
      · rintro sync rfl
        exact apt.pinging awake.running sync (stimulus?_of_heard? hears)

/-- What waits after a turn waited before, in the same generation, or was asked for in it. -/
theorem origin_of_pending (turn : Turn) (sound : turn.before.IsSound)
    (distinct : turn.before.engine.pending.IsDistinct) {entry : Entry}
    (member : entry ∈ turn.after.engine.pending.entries) :
    (turn.after.engine.generation = turn.before.engine.generation ∧
        ∃ other ∈ turn.before.engine.pending.entries, other.claim = entry.claim) ∨
      ∃ stimulus, turn.heard? = some stimulus ∧ stimulus.Asks entry.sync entry.waiter := by
  cases turn.becomes sound with
  | idle board unheard like engine silent =>
      rw [engine] at member ⊢
      exact .inl ⟨rfl, entry, member, rfl⟩
  | heard stimulus board more hears awake like engine effects farewell =>
      rw [engine] at member ⊢
      change entry ∈ (turn.before.engine.step turn.time stimulus).1.pending.entries at member
      have nobody (emptied : (turn.before.engine.step turn.time stimulus).1.pending.entries = []) :
          False := by
        rw [emptied] at member
        cases member
      cases Engine.step_reacts turn.time awake distinct stimulus with
      | cut cause running torn => exact (nobody torn.emptied).elim
      | shutDown asked stopped torn => exact (nobody torn.emptied).elim
      | collapse uncut unasked collapsed same emptied => exact (nobody emptied).elim
      | goOn uncut unasked goes =>
          rcases goes.shifts.origin member with ⟨other, before, claim⟩ | ⟨write, asked, -⟩
          · exact .inl ⟨goes.generation, other, before, claim⟩
          · exact .inr ⟨stimulus, hears, asked⟩

theorem asked_of_pending (turn : Turn) (sound : turn.before.IsSound)
    (distinct : turn.before.engine.pending.IsDistinct) {entry : Entry}
    (member : entry ∈ turn.after.engine.pending.entries) :
    (∃ other ∈ turn.before.engine.pending.entries,
        other.waiter = entry.waiter ∧ other.sync = entry.sync) ∨
      ∃ stimulus, turn.heard? = some stimulus ∧ stimulus.Asks entry.sync entry.waiter := by
  rcases turn.origin_of_pending sound distinct member with ⟨-, other, before, claim⟩ | asked
  · simp only [Entry.claim, Prod.mk.injEq] at claim
    obtain ⟨sync, -, -, waiter⟩ := claim
    exact .inl ⟨other, before, waiter, sync⟩
  · exact .inr asked

/-- A ping waits because it was sent. -/
theorem ping_heard (turn : Turn) (sound : turn.before.IsSound)
    (distinct : turn.before.engine.pending.IsDistinct) {entry : Entry}
    (member : entry ∈ turn.after.engine.pending.entries) (waits : entry.waiter = .ping) :
    (∃ other ∈ turn.before.engine.pending.entries,
        other.waiter = .ping ∧ other.sync = entry.sync) ∨
      turn.heard? = some (.ping entry.sync) := by
  rcases turn.asked_of_pending sound distinct member with
    ⟨other, before, waiter, sync⟩ | ⟨stimulus, heard, asked⟩
  · exact .inl ⟨other, before, waiter.trans waits, sync⟩
  · rw [waits] at asked
    exact .inr (heard.trans (congrArg some (Stimulus.eq_ping_of_asks asked)))

end Turn

namespace Connection

/-- What a run in which the world keeps to what the engine has told it keeps of the pings. -/
structure Probes (settings : Settings) (turns : List Turn) (connection : Connection) : Prop where
  accounts : Accounts (acceptedIn turns) (history turns) connection
  stands : connection.engine.life = .collapsed ∨
    connection.engine.IsCoherent ∧ connection.engine.IsProbing
  enabled : connection.engine.pingEnabled = true ↔
    settings.pingInterval.isSome = true ∧ ¬IsUnpinged turns
  heard : ∀ entry ∈ connection.engine.pending.entries, entry.waiter = .ping →
    ∃ turn ∈ turns, turn.heard? = some (.ping entry.sync)

theorem probes_of_apt (endpoint : Endpoint) (settings : Settings) (moves : List (Time × Move))
    (apt : ∀ turn ∈ (start endpoint settings).turns moves, turn.IsApt) :
    ((start endpoint settings).run moves).Probes settings
      ((start endpoint settings).turns moves) := by
  let motive (turns : List Turn) (connection : Connection) : Prop :=
    (∀ turn ∈ turns, turn.IsApt) → connection.Probes settings turns
  have unpinged : ¬IsUnpinged [] := fun ⟨_, member, _⟩ => nomatch member
  have began : motive [] (start endpoint settings) := fun _ =>
    ⟨.start endpoint settings, .inr ⟨.start settings, .start settings⟩,
      (and_iff_left unpinged).symm, nofun⟩
  refine run_invariant (motive := motive) (fun past turn held apt => ?_) moves began apt
  obtain ⟨accounts, stands, enabled, heard⟩ := held fun other earlier =>
    apt other (List.mem_append_left _ earlier)
  have last : turn.IsApt := apt turn (List.mem_append_right _ List.mem_cons_self)
  constructor
  case accounts =>
    rw [acceptedIn_append, history_append, history_singleton]
    exact accounts.turn turn
  case stands =>
    rcases last.coherent accounts.sound (stands.imp_right And.left) with collapsed | coherent
    · exact .inl collapsed
    · exact (last.probing accounts.sound accounts.ledger.distinct stands).imp_right
        fun probing => ⟨coherent, probing⟩
  case enabled =>
    rw [turn.pingEnabled_after accounts.sound, enabled, isUnpinged_append, not_or, and_assoc]
  case heard =>
    intro entry member waits
    rcases turn.ping_heard accounts.sound accounts.ledger.distinct member waits with
      ⟨other, before, alike, sync⟩ | now
    · obtain ⟨earlier, there, heard⟩ := heard other before alike
      exact ⟨earlier, List.mem_append_left _ there, sync ▸ heard⟩
    · exact ⟨turn, List.mem_append_right _ List.mem_cons_self, now⟩

/-- In every run in which the world keeps to what the engine has told it there is one ping, and no
more, as long as pings are wanted and a socket is served, unless the engine has broken down. -/
theorem isProbing_of_apt (endpoint : Endpoint) (settings : Settings) (moves : List (Time × Move))
    (apt : ∀ turn ∈ (start endpoint settings).turns moves, turn.IsApt) :
    let connection := (start endpoint settings).run moves
    connection.engine.life = .collapsed ∨
      connection.IsProbing ((start endpoint settings).turns moves) := by
  intro connection
  obtain ⟨-, stands, enabled, -⟩ := probes_of_apt endpoint settings moves apt
  have same : connection.engine.settings = settings :=
    (Lifecycle.run endpoint settings moves).same
  refine stands.imp_right fun ⟨coherent, probing⟩ => ?_
  constructor
  case single => exact probing.pings_le_one
  case exclusive => exact probing.quiet_of_scheduled
  case scheduled => exact coherent.scheduled
  case waiting =>
    intro some
    obtain ⟨entry, member, waits⟩ : ∃ entry ∈ connection.engine.pending.entries,
        entry.waiter = .ping := by
      simpa [Table.pings_eq_zero_iff] using some
    exact coherent.pinged entry member waits
  case wanted =>
    intro due
    rw [same]
    exact enabled.mp (probing.scheduled due)
  case going =>
    intro connected configured pinged
    rw [same] at configured
    have one := probing.going connected (enabled.mpr ⟨configured, pinged⟩)
    rw [Engine.probes] at one
    cases due : connection.engine.pingAt with
    | some time => exact .inl rfl
    | none =>
        rw [show ((start endpoint settings).run moves).engine.pingAt = none from due] at one
        exact .inr ((Nat.zero_add _).symm.trans one)

end Connection

end RequestMux.Client
