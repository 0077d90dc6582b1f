import RequestMux.Proofs.Client.Alarms

/-!
# Letters

A letter is a packet with the ticket of the caller who waits for its response.  An engine that is
given nothing but letters with ids of their own, and is told of nothing but that its attempts fail
or succeed, that buffers are written and that letters have come back, keeps the letters that are
open in the order in which they came: in its table all of them, in its queue the last of them.
-/

namespace RequestMux.Client

open Pending (Entry Table Waiter)

/-- A packet that is written, and the ticket of the caller who is to learn its outcome. -/
structure Letter where
  ticket : Nat
  packet : Wire.Packet
  deriving DecidableEq, Repr

namespace Letter

/-- The id under which the response comes. -/
def sync (letter : Letter) : UInt32 := letter.packet.header.sync

/-- The command that writes a letter. -/
def command (letter : Letter) : Command := .write letter.packet (some letter.ticket)

/-- What the entry of a letter waits for. -/
def watch (letter : Letter) : UInt32 × Waiter := (letter.sync, .caller letter.ticket)

end Letter

/-- What an entry waits for, whenever and with whichever buffer. -/
def Pending.Entry.watch (entry : Entry) : UInt32 × Waiter := (entry.sync, entry.waiter)

/-- Whether an effect changes nothing outside the engine, and is no sign of a deadline. -/
def Effect.isMute : Effect → Bool
  | .registered _ | .enqueued _ | .delivered _ | .answered _ _ | .noted _ | .warned _ => true
  | _ => false

/-- Buffers of letters are handed to the writer of a socket, one at most. -/
inductive Hands (number : Nat) : List Letter → List Effect → Prop where
  | none : Hands number [] []
  | one (letter : Letter) {write : QueuedWrite} (same : write.octets = letter.packet.data) :
      Hands number [letter] [.handed number write]

namespace Engine

/-- The engine waits for the responses to these letters, of which the last are in its queue, and
so many requests are outstanding. -/
structure HasOpen (settings : Settings) (letters queued : List Letter) (count : Nat)
    (engine : Engine) : Prop where
  settings : engine.settings = settings
  running : engine.life = .running
  generation : engine.generation = 0
  unpinged : engine.pingAt = none
  welcoming : engine.board.shuttingDown = false
  shown : engine.board.phase = engine.phase
  outstanding : engine.board.outstanding = count
  armed : engine.pending.IsArmed
  pending : engine.pending.entries.map Entry.watch = letters.map Letter.watch
  queue : engine.queue.map QueuedWrite.octets = queued.map fun letter => letter.packet.data

/-- The writer of a socket has as many buffers as before and those that were handed to it; it is
without one only if none is left. -/
structure Pumped (settings : Settings) (letters handed later : List Letter)
    (count number busy : Nat) (reaction : Reaction) : Prop where
  hasOpen : reaction.1.HasOpen settings letters later count
  hands : Hands number handed reaction.2
  phase : reaction.1.phase = .connected
  link : reaction.1.link = some number
  busy : reaction.1.inFlight.toList.length = busy + handed.length
  flowing : reaction.1.inFlight = none → later = []

/-- Where the engine stands with its socket. -/
def stand (engine : Engine) : Phase × Option Nat × Option QueuedWrite :=
  (engine.phase, engine.link, engine.inFlight)

variable {settings : Settings} {letters queued : List Letter} {count number : Nat}
  {engine after : Engine} {letter : Letter} {now : Time}

namespace HasOpen

/-- The ids of the entries are those of the letters. -/
theorem syncs (has : engine.HasOpen settings letters queued count) :
    engine.pending.entries.map Entry.sync = letters.map Letter.sync := by
  have both := congrArg (List.map Prod.fst) has.pending
  rwa [List.map_map, List.map_map] at both

theorem patience (has : engine.HasOpen settings letters queued count) :
    engine.patience = settings.effectiveReadTimeout.toNat := by
  rw [Engine.patience, has.settings]

theorem told (has : engine.HasOpen settings letters queued count) (report : Report) (now : Time) :
    engine.step now (.report 0 report) = engine.handleReport now report := by
  simp only [Engine.step, has.running, has.generation, if_true]

/-- The handle counts another request. -/
theorem submitted (has : engine.HasOpen settings letters queued count) :
    ({ engine with board := { engine.board with outstanding := count + 1 } } : Engine).HasOpen
      settings letters queued (count + 1) :=
  ⟨has.settings, has.running, has.generation, has.unpinged, has.welcoming, has.shown, rfl,
    has.armed, has.pending, has.queue⟩

/-- A letter with an id of its own joins the table and the queue. -/
theorem write (has : engine.HasOpen settings letters queued count)
    (possible : settings.effectiveReadTimeout.toNat ≤ longestDelay)
    (free : letter.sync ∉ letters.map Letter.sync) (now : Time) :
    ∃ entered entry write,
      engine.step now (.command letter.command) =
        Reaction.andThen (entered, [.registered entry, .enqueued write]) dispatch ∧
      entered.HasOpen settings (letters ++ [letter]) (queued ++ [letter]) count ∧
      entered.stand = engine.stand ∧
      ∀ other ∈ entered.pending.entries, other ∈ engine.pending.entries ∨
        other.deadline = now + settings.effectiveReadTimeout.toNat := by
  have absent : engine.pending.find? letter.sync = none := by
    refine List.find?_eq_none.mpr fun entry member same => free ?_
    rw [← has.syncs]
    exact List.mem_map.mpr ⟨entry, member, beq_iff_eq.mp same⟩
  let entry := engine.pending.newEntry letter.sync (now + engine.patience) engine.nextJob
    (.caller letter.ticket)
  let buffer : QueuedWrite := ⟨engine.nextJob, letter.packet.data, true⟩
  let table := (engine.pending.register entry).2
  let entered : Engine := { engine with
    pending := table
    queue := engine.queue ++ [buffer]
    nextJob := engine.nextJob + 1 }
  have entries : table.entries = engine.pending.entries ++ [entry] := by
    have left : (engine.pending.erase entry.sync).entries = engine.pending.entries :=
      congrArg Table.entries (Table.erase_of_find?_none absent)
    rw [(Table.register_entries _ _).2, left]
  have replaced : (engine.pending.register entry).1 = none :=
    (Table.register_entries _ _).1.trans absent
  refine ⟨entered, entry, buffer, ?_, ?_, rfl, fun other member => ?_⟩
  · have able : ¬longestDelay < engine.patience := Nat.not_lt_of_le (has.patience ▸ possible)
    have yielding (reaction : Reaction) :
        reaction.andThen (yieldTo now letter.sync none) = reaction :=
      Prod.ext rfl (List.append_nil _)
    have registered : engine.register now letter.sync (.caller letter.ticket) =
        (none, { engine with pending := table }, [.registered entry]) :=
      Prod.ext replaced rfl
    have written : engine.step now (.command letter.command) =
        engine.write now letter.packet (some letter.ticket) := by
      rw [Engine.step, has.running]
      rfl
    rw [written, Engine.write, if_neg able]
    change Reaction.andThen (Reaction.andThen (engine.register now letter.sync _).2
      (yieldTo now letter.sync (engine.register now letter.sync _).1)) _ = _
    rw [registered, yielding]
    rfl
  · refine ⟨has.settings, has.running, has.generation, has.unpinged, has.welcoming, has.shown,
      has.outstanding, has.armed.register _ _ _ _, ?_, ?_⟩
    · rw [List.map_append, ← has.pending]
      exact (congrArg (List.map Entry.watch) entries).trans List.map_append
    · rw [@List.map_append _ _ _ queued, ← has.queue]
      exact List.map_append
  · rcases List.mem_append.mp (entries ▸ member) with old | new
    · exact .inl old
    · refine .inr ?_
      rw [List.mem_singleton.mp new, ← has.patience]
      rfl

/-- A letter that came back, the one that is open longest, leaves the table, and its caller is
told. -/
theorem frame (has : engine.HasOpen settings (letter :: letters) queued (count + 1))
    (now : Time) :
    ∃ after entry, engine.step now (.report 0 (.frame letter.packet)) =
        (after, [.answered entry letter.packet, .resolved letter.ticket (.ok letter.packet)]) ∧
      after.HasOpen settings letters queued count ∧ after.stand = engine.stand := by
  obtain ⟨entry, entries, split, watch, watches⟩ := List.map_eq_cons_iff.mp has.pending
  have sync : entry.sync = letter.sync := congrArg Prod.fst watch
  have waiter : entry.waiter = .caller letter.ticket := congrArg Prod.snd watch
  have first : entry ∈ engine.pending.entries := split ▸ List.mem_cons_self
  have found : engine.pending.find? letter.sync = some entry := sync ▸ has.armed.isKeyed.find?_eq first
  let table := (engine.pending.erase letter.sync).disarm entry.alarm
  have left : table.entries = entries := by
    have distinct := has.armed.distinct
    rw [Table.IsDistinct, split] at distinct
    have others := (List.nodup_cons.mp distinct).1
    change engine.pending.entries.filter (fun other => other.sync != letter.sync) = entries
    rw [split, List.filter_cons, sync, bne_self_eq_false, if_neg Bool.false_ne_true]
    refine List.filter_eq_self.mpr fun other member => bne_iff_ne.mpr fun same => others ?_
    rw [sync, ← same]
    exact List.mem_map_of_mem member
  let after : Engine := { engine with
    pending := table
    board := { engine.board with outstanding := engine.board.outstanding - 1 } }
  refine ⟨after, entry, ?_, ?_, rfl⟩
  · have resolved := Table.resolve_of_find? found
    have looked : engine.pending.resolve letter.packet.header.sync = (some entry, table) := resolved
    rw [has.told, handleReport, handleFrame, looked]
    dsimp only
    rw [waiter]
    rfl
  · refine ⟨has.settings, has.running, has.generation, has.unpinged, has.welcoming, has.shown, ?_,
      has.armed.leave found, ?_, has.queue⟩
    · change engine.board.outstanding - 1 = count
      rw [has.outstanding]
      rfl
    · exact (congrArg (List.map Entry.watch) left).trans watches

/-- The writer gets a buffer, if it has none and there is one. -/
theorem pump (has : engine.HasOpen settings letters queued count)
    (connected : engine.phase = .connected) (linked : engine.link = some number) :
    ∃ handed later, queued = handed ++ later ∧ Pumped settings letters handed later count number
      engine.inFlight.toList.length engine.pumpWrites := by
  have still (same : engine.pumpWrites = (engine.publishWriting, []))
      (flowing : engine.inFlight = none → queued = []) :
      ∃ handed later, queued = handed ++ later ∧ Pumped settings letters handed later count number
        engine.inFlight.toList.length engine.pumpWrites := by
    rw [same]
    exact ⟨[], queued, rfl, ⟨has.settings, has.running, has.generation, has.unpinged,
      has.welcoming, has.shown, has.outstanding, has.armed, has.pending, has.queue⟩, .none,
      connected, linked, rfl, flowing⟩
  cases busy : engine.inFlight with
  | some write =>
      rw [← busy]
      refine still ?_ fun none => nomatch busy.symm.trans none
      rw [pumpWrites, busy]
  | none =>
      rw [← busy]
      cases waiting : queued with
      | nil =>
          have empty : engine.queue = [] := List.map_eq_nil_iff.mp (waiting ▸ has.queue)
          rw [← waiting]
          refine still ?_ fun _ => waiting
          rw [pumpWrites, busy, linked, empty]
      | cons letter later =>
          obtain ⟨write, rest, line, octets, others⟩ :=
            List.map_eq_cons_iff.mp (has.queue.trans (congrArg (List.map _) waiting))
          have pumped : engine.pumpWrites =
              (({ engine with inFlight := some write, queue := rest } : Engine).publishWriting,
                [.handed number write]) := by
            rw [pumpWrites, busy, linked, line]
          rw [pumped, busy]
          exact ⟨[letter], later, rfl, ⟨has.settings, has.running, has.generation, has.unpinged,
            has.welcoming, has.shown, has.outstanding, has.armed, has.pending, others⟩,
            .one letter octets, connected, linked, rfl, nofun⟩

/-- The buffer that was with the writer is written, and the writer gets the next one. -/
theorem written (has : engine.HasOpen settings letters queued count) (now : Time) :
    ∃ idle effects, engine.step now (.report 0 .written) =
        Reaction.andThen (idle, effects) pumpWrites ∧ (∀ effect ∈ effects, effect.isMute = true) ∧
      idle.HasOpen settings letters queued count ∧
      idle.stand = (engine.phase, engine.link, none) := by
  refine ⟨{ engine with inFlight := none }, engine.inFlight.toList.map .delivered, ?_, ?_,
    ⟨has.settings, has.running, has.generation, has.unpinged, has.welcoming, has.shown,
      has.outstanding, has.armed, has.pending, has.queue⟩, rfl⟩
  · rw [has.told]
    rfl
  · rintro effect member
    obtain ⟨write, -, rfl⟩ := List.mem_map.mp member
    rfl

/-- An engine that never pings serves a new socket. -/
theorem connected (has : engine.HasOpen settings letters queued count)
    (pingless : settings.pingInterval = none) (unused : engine.inFlight = none)
    (number : Nat) (now : Time) :
    ∃ attached, engine.step now (.report 0 (.connected number)) =
        Reaction.andThen (attached, [.attached number, .noted (.connected 0)]) pumpWrites ∧
      attached.HasOpen settings letters queued count ∧
      attached.stand = (.connected, some number, none) := by
  refine ⟨({ engine.setPhase .connected with
    link := some number, attempting := false } : Engine).schedulePing now, ?_, ?_, ?_⟩
  · rw [has.told, handleReport, attach, has.generation]
  · refine ⟨has.settings, has.running, has.generation, ?_, has.welcoming, rfl, has.outstanding,
      has.armed, has.pending, has.queue⟩
    have never : engine.settings.pingInterval = none := has.settings ▸ pingless
    simp only [schedulePing, setPhase, never]
  · simp only [stand, schedulePing, setPhase, unused]

/-- After an attempt has failed the next one is called for. -/
theorem failed (has : engine.HasOpen settings letters queued count) (failure : IoFailure)
    (now : Time) :
    ∃ after, engine.step now (.report 0 (.connectFailed failure)) =
        (after, [.warned (.connectFailed failure), .noted (.connecting 0), .dialed 0]) ∧
      after.HasOpen settings letters queued count ∧ after.pending = engine.pending ∧
      after.stand = (.connecting, engine.link, engine.inFlight) := by
  refine ⟨{ engine.setPhase .connecting with attempting := true }, ?_,
    ⟨has.settings, has.running, has.generation, has.unpinged, has.welcoming, rfl,
      has.outstanding, has.armed, has.pending, has.queue⟩, rfl, rfl⟩
  rw [has.told]
  simp only [handleReport, emit, Reaction.andThen, beginConnect, setPhase, has.generation,
    List.singleton_append]

/-- With the first letter an attempt is called for. -/
theorem dispatched (has : engine.HasOpen settings letters queued count)
    (vacant : engine.phase = .disconnected) :
    ∃ after, engine.dispatch = (after, [.noted (.connecting 0), .dialed 0]) ∧
      after.HasOpen settings letters queued count ∧ after.pending = engine.pending ∧
      after.stand = (.connecting, engine.link, engine.inFlight) := by
  refine ⟨{ engine.setPhase .connecting with attempting := true }, ?_,
    ⟨has.settings, has.running, has.generation, has.unpinged, has.welcoming, rfl,
      has.outstanding, has.armed, has.pending, has.queue⟩, rfl, rfl⟩
  rw [dispatch, vacant]
  simp only [beginConnect, has.generation, setPhase]

end HasOpen

end Engine

end RequestMux.Client
