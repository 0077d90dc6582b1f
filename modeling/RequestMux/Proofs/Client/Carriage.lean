import RequestMux.Proofs.Client.Accounts
import RequestMux.Proofs.Client.Hearing
import RequestMux.Proofs.Client.Reactions

/-!
# The buffers of pending requests

Whoever waits for a response waits for one to a buffer that is on its way: the buffer that was
queued when the request was entered is still in the queue, or with the writer, or was written on
the socket that the connection still has.
-/

namespace RequestMux.Client

open Pending (Entry Table Waiter)

namespace Turn

/-- Whether a request is entered in a turn, and a buffer queued for it. -/
structure Sends (turn : Turn) (entry : Entry) (write : QueuedWrite) : Prop where
  asked : ∃ stimulus ∈ turn.heard?,
    stimulus.Asks entry.sync entry.waiter ∧ write.octets = stimulus.octets
  registered : ∃ made, .registered made ∈ turn.effects ∧ made.claim = entry.claim
  enqueued : .enqueued write ∈ turn.effects
  numbered : write.job = entry.job

theorem Sends.of_claim {turn : Turn} {entry other : Entry} {write : QueuedWrite}
    (sends : turn.Sends entry write) (same : entry.claim = other.claim) :
    turn.Sends other write := by
  obtain ⟨⟨stimulus, heard, asked, octets⟩, ⟨made, registered, claim⟩, enqueued, numbered⟩ := sends
  have parts := same
  simp only [Entry.claim, Prod.mk.injEq] at parts
  obtain ⟨sync, -, job, waiter⟩ := parts
  exact ⟨⟨stimulus, heard, sync ▸ waiter ▸ asked, octets⟩,
    ⟨made, registered, claim.trans same⟩, enqueued, numbered.trans job⟩

/-- The buffer of which the socket of a generation reports in a turn that it is written. -/
def written? (generation : Nat) (turn : Turn) : Option QueuedWrite :=
  if turn.heard? = some (.report generation .written) ∧
      turn.before.engine.generation = generation then turn.before.engine.inFlight
  else none

end Turn

/-- The buffers of which the socket of a generation has reported that they are written. -/
def writtenIn (generation : Nat) (turns : List Turn) : List QueuedWrite :=
  turns.filterMap (Turn.written? generation)

/-- Whether the buffer that was queued for a request is on its way to the peer, or has gone there on
the socket of the engine's generation. -/
def Engine.Carries (turns : List Turn) (engine : Engine) (entry : Entry) : Prop :=
  ∃ write, (∃ turn ∈ turns, turn.Sends entry write) ∧
    (write ∈ engine.queue ∨ engine.inFlight = some write ∨
      write ∈ writtenIn engine.generation turns)

/-- A request that is there after a reaction was there before, or has just been entered. -/
theorem Engine.Shifts.origin {now : Time} {engine after : Engine} {stimulus : Stimulus}
    {effects : List Effect} (shifts : engine.Shifts now stimulus effects after) {entry : Entry}
    (member : entry ∈ after.pending.entries) :
    (∃ other ∈ engine.pending.entries, other.claim = entry.claim) ∨
      ∃ write, stimulus.Asks entry.sync entry.waiter ∧ write.octets = stimulus.octets ∧
        .registered entry ∈ effects ∧ .enqueued write ∈ effects ∧ write.job = entry.job ∧
        after.Holds write := by
  have former {sync : UInt32} (left : entry ∈ (engine.pending.erase sync).entries) :
      ∃ other ∈ engine.pending.entries, other.claim = entry.claim :=
    ⟨entry, List.mem_of_mem_filter left, rfl⟩
  cases shifts with
  | still same undismissed =>
      have there : entry.claim ∈ engine.pending.entries.map Entry.claim :=
        same ▸ List.mem_map_of_mem member
      obtain ⟨other, here, claim⟩ := List.mem_map.mp there
      exact .inl ⟨other, here, claim⟩
  | entered asked entries dismissed registered enqueued job octets held =>
      rw [entries] at member
      rcases List.mem_append.mp member with old | new
      · exact .inl (former old)
      · cases List.mem_singleton.mp new
        exact .inr ⟨_, asked, octets, registered, enqueued, job, held⟩
  | answered heard found entries => exact .inl (former (entries ▸ member))
  | expired heard found due entries => exact .inl (former (entries ▸ member))

namespace Turn

variable {turn : Turn} {past : List Turn}

/-- A buffer that was carried before a turn is carried after it, unless the generation is left. -/
theorem carries_of_held (after : Engine) {entry other : Entry}
    (carries : turn.before.engine.Carries past entry)
    (same : after.generation = turn.before.engine.generation)
    (held : ∀ write, turn.before.engine.Holds write → after.Holds write ∨
      turn.heard? = some (.report turn.before.engine.generation .written) ∧
        turn.before.engine.inFlight = some write)
    (claim : entry.claim = other.claim) : after.Carries (past ++ [turn]) other := by
  obtain ⟨write, ⟨sender, earlier, sends⟩, there⟩ := carries
  refine ⟨write, ⟨sender, List.mem_append_left _ earlier, sends.of_claim claim⟩, ?_⟩
  rw [same, writtenIn, List.filterMap_append, List.mem_append]
  have moved (holds : turn.before.engine.Holds write) :
      write ∈ after.queue ∨ after.inFlight = some write ∨
        write ∈ past.filterMap (written? turn.before.engine.generation) ∨
        write ∈ [turn].filterMap (written? turn.before.engine.generation) := by
    rcases held write holds with still | ⟨reported, inFlight⟩
    · exact still.imp_right .inl
    · have reports : turn.written? turn.before.engine.generation = some write :=
        (if_pos ⟨reported, rfl⟩).trans inFlight
      exact .inr (.inr (.inr (List.mem_filterMap.mpr ⟨turn, List.mem_cons_self, reports⟩)))
  rcases there with queued | inFlight | written
  · exact moved (.inl queued)
  · exact moved (.inr inFlight)
  · exact .inr (.inr (.inl written))

/-- Whatever happens in a turn, every request that is pending afterwards is carried. -/
theorem carries (sound : turn.before.IsSound) (distinct : turn.before.engine.pending.IsDistinct)
    (carried : ∀ entry ∈ turn.before.engine.pending.entries,
      turn.before.engine.Carries past entry) :
    ∀ entry ∈ turn.after.engine.pending.entries,
      turn.after.engine.Carries (past ++ [turn]) entry := by
  intro entry member
  cases turn.becomes sound with
  | idle board unheard like becomes silent =>
      rw [becomes] at member ⊢
      exact carries_of_held { turn.before.engine with board } (carried entry member) rfl
        (fun write held => .inl held) rfl
  | heard stimulus board more hears awake like becomes effects farewell =>
      rw [becomes] at member ⊢
      have nobody (emptied : (turn.before.engine.step turn.time stimulus).1.pending.entries = []) :
          entry ∉ (turn.before.engine.step turn.time stimulus).1.pending.entries := by
        rw [emptied]
        exact List.not_mem_nil
      cases Engine.step_reacts turn.time awake distinct stimulus with
      | cut cause running torn => exact absurd member (nobody torn.emptied)
      | shutDown asked stopped torn => exact absurd member (nobody torn.emptied)
      | collapse uncut unasked collapsed same emptied => exact absurd member (nobody emptied)
      | goOn uncut unasked goes =>
          rcases goes.shifts.origin member with ⟨other, before, claim⟩ | newly
          · refine carries_of_held
              { (turn.before.engine.step turn.time stimulus).1 with board }
              (carried other before) goes.generation (fun write held => ?_) claim
            rcases goes.held write held with still | ⟨reported, inFlight⟩
            · exact .inl still
            · exact .inr ⟨reported ▸ hears, inFlight⟩
          · obtain ⟨write, asked, octets, registered, enqueued, job, held⟩ := newly
            have seen {effect : Effect}
                (member : effect ∈ (turn.before.engine.step turn.time stimulus).2) :
                effect ∈ turn.effects := by
              rw [effects]
              exact List.mem_append_left _ member
            refine ⟨write, ⟨turn, List.mem_append_right _ List.mem_cons_self, ?_⟩,
              held.imp_right .inl⟩
            exact ⟨⟨stimulus, hears, asked, octets⟩, ⟨entry, seen registered, rfl⟩, seen enqueued,
              job⟩

end Turn

/-- After every run, for every pending request there is the turn in which it was entered, and the
buffer that was queued for it in the same turn, with the bytes that were asked for, is in the
queue, or with the writer, or was reported as written by the socket of the generation that the
engine is in. -/
theorem Connection.requests_are_carried (endpoint : Endpoint) (settings : Settings)
    (moves : List (Time × Move)) :
    let start := Connection.start endpoint settings
    let engine := (start.run moves).engine
    ∀ entry ∈ engine.pending.entries, engine.Carries (start.turns moves) entry := by
  intro start engine
  let motive (turns : List Turn) (connection : Connection) : Prop :=
    Accounts (acceptedIn turns) (history turns) connection ∧
      ∀ entry ∈ connection.engine.pending.entries, connection.engine.Carries turns entry
  have began : motive [] start := ⟨.start endpoint settings, nofun⟩
  refine (run_invariant (motive := motive) (fun past turn held => ?_) moves began).2
  obtain ⟨accounts, carried⟩ := held
  refine ⟨?_, turn.carries accounts.sound accounts.ledger.distinct carried⟩
  rw [acceptedIn_append, history_append, history_singleton]
  exact accounts.turn turn

end RequestMux.Client
