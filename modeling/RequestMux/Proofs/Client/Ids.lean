import RequestMux.Proofs.Client.Answers
import RequestMux.Proofs.Client.Causes
import RequestMux.Proofs.Client.Pinging

/-!
# Ids that are asked for once

A request enters the table under an id, and takes the place of whoever waits under the same id.  As
every id in the table was asked for before, this happens only where an id is asked for twice; and
only there does the engine warn that an id was used again.
-/

namespace RequestMux.Client

open Pending (Entry Table Waiter)

/-- The request that a command makes: its id, and the ticket of the caller who waits. -/
def Command.request? : Command → Option (UInt32 × Nat)
  | .write packet (some ticket) => some (packet.header.sync, ticket)
  | _ => none

/-- The id under which a stimulus asks for a response. -/
def Stimulus.sync? : Stimulus → Option UInt32
  | .command asked => asked.request?.map Prod.fst
  | .ping sync => some sync
  | _ => none

theorem Stimulus.Asks.sync? {stimulus : Stimulus} {sync : UInt32} {waiter : Waiter}
    (asked : stimulus.Asks sync waiter) : stimulus.sync? = some sync := by
  cases waiter with
  | caller ticket =>
      obtain ⟨packet, rfl, same⟩ := asked.of_caller
      exact congrArg some same
  | ping =>
      rw [Stimulus.eq_ping_of_asks asked]
      rfl

/-- The ids under which the engine was asked for responses in some turns. -/
def askedIn (turns : List Turn) : List UInt32 :=
  turns.filterMap fun turn => turn.heard?.bind Stimulus.sync?

theorem askedIn_append (turns : List Turn) (turn : Turn) :
    askedIn (turns ++ [turn]) = askedIn turns ++ (turn.heard?.bind Stimulus.sync?).toList := by
  rw [askedIn, List.filterMap_append]
  cases asked : turn.heard?.bind Stimulus.sync? <;> simp [askedIn, asked]

namespace Turn

/-- Whether nobody loses its place in the table to a request that is made in a turn, and nothing is
said of it. -/
structure IsUnmixed (turn : Turn) : Prop where
  free : ∀ stimulus ∈ turn.heard?, ∀ sync waiter, stimulus.Asks sync waiter →
    (turn.before.engine.register turn.time sync waiter).1 = none
  quiet : ∀ sync, .warned (.syncReused sync) ∉ turn.effects

/-- In a turn that asks for an id under which nobody waits, nobody loses its place. -/
theorem isUnmixed_of_free {turn : Turn} (sound : turn.before.IsSound)
    (free : ∀ stimulus ∈ turn.heard?, ∀ sync ∈ stimulus.sync?,
      ∀ entry ∈ turn.before.engine.pending.entries, entry.sync ≠ sync) : turn.IsUnmixed := by
  have vacant : ∀ stimulus ∈ turn.heard?, ∀ sync waiter, stimulus.Asks sync waiter →
      (turn.before.engine.register turn.time sync waiter).1 = none := by
    intro stimulus heard sync waiter asked
    have absent : turn.before.engine.pending.find? sync = none := by
      refine List.find?_eq_none.mpr fun entry member same => ?_
      exact free stimulus heard sync asked.sync? entry member (beq_iff_eq.mp same)
    have resolved := Table.resolve_of_absent absent
    exact congrArg Prod.fst resolved
  refine ⟨vacant, fun sync warned => ?_⟩
  cases turn.becomes sound with
  | idle board unheard like engine silent =>
      rw [silent] at warned
      cases warned
  | heard stimulus board more hears awake like engine effects farewell =>
      rw [effects] at warned
      rcases List.mem_append.mp warned with reacted | added
      · have warns := Engine.warns_step turn.before.engine turn.time stimulus
        cases warns _ reacted _ rfl with
        | syncReused asked replaced =>
            subst asked
            have free := vacant _ hears _ _ ⟨rfl, rfl⟩
            exact nomatch free.symm.trans replaced
      · exact Life.warns_of_isFarewell (farewell _ added) _ rfl

end Turn

/-- In a run in which no id is asked for twice, nobody ever loses its place in the table. -/
theorem Connection.ids_stay_apart (endpoint : Endpoint) (settings : Settings)
    (moves : List (Time × Move)) :
    let turns := (start endpoint settings).turns moves
    (askedIn turns).Nodup → ∀ turn ∈ turns, turn.IsUnmixed := by
  intro turns
  let motive (turns : List Turn) (connection : Connection) : Prop :=
    Accounts (acceptedIn turns) (history turns) connection ∧
      (∀ entry ∈ connection.engine.pending.entries, entry.sync ∈ askedIn turns) ∧
      ((askedIn turns).Nodup → ∀ turn ∈ turns, turn.IsUnmixed)
  have began : motive [] (start endpoint settings) :=
    ⟨.start endpoint settings, List.forall_mem_nil _, fun _ => List.forall_mem_nil _⟩
  have kept (past : List Turn) (turn : Turn) (held : motive past turn.before) :
      motive (past ++ [turn]) turn.after := by
    obtain ⟨accounts, known, unmixed⟩ := held
    refine ⟨?_, fun entry member => ?_, fun distinct other member => ?_⟩
    · rw [acceptedIn_append, history_append, history_singleton]
      exact accounts.turn turn
    · rw [askedIn_append]
      rcases turn.asked_of_pending accounts.sound accounts.ledger.distinct member with
        ⟨old, before, -, same⟩ | ⟨stimulus, heard, asked⟩
      · exact List.mem_append_left _ (same ▸ known old before)
      · refine List.mem_append_right _ ?_
        rw [heard, Option.bind_some, asked.sync?]
        exact List.mem_singleton_self _
    · rw [askedIn_append] at distinct
      obtain ⟨earlier, -, apart⟩ := List.nodup_append.mp distinct
      rcases List.mem_append.mp member with old | last
      · exact unmixed earlier other old
      · rw [List.mem_singleton.mp last]
        refine Turn.isUnmixed_of_free accounts.sound fun stimulus heard sync asked entry waits => ?_
        have now : sync ∈ (turn.heard?.bind Stimulus.sync?).toList := by
          rw [Option.mem_def.mp heard, Option.bind_some, Option.mem_def.mp asked]
          exact List.mem_singleton_self sync
        exact apart _ (known entry waits) _ now
  have held : motive turns _ := run_invariant (motive := motive) kept moves began
  exact held.2.2

end RequestMux.Client
