import RequestMux.Proofs.Client.Causes
import RequestMux.Proofs.Client.Hearing

/-!
# After a failed attempt

A running engine that learns that its attempt has failed calls for the next one, and that is all:
nobody is told anything, and what is queued and who waits stays as it is.
-/

namespace RequestMux.Client

/-- What an engine does about the failure of its attempt. -/
theorem Engine.step_connectFailed {engine : Engine} (now : Time) (running : engine.life = .running)
    (failure : IoFailure) :
    engine.step now (.report engine.generation (.connectFailed failure)) =
      (engine.beginConnect.1, [.warned (.connectFailed failure),
        .noted (.connecting engine.generation), .dialed engine.generation]) := by
  have handled : engine.step now (.report engine.generation (.connectFailed failure)) =
      engine.handleReport now (.connectFailed failure) := by
    unfold step
    rw [running]
    exact if_pos rfl
  exact handled

/-- An engine that is told of its socket attaches it first. -/
theorem Engine.mem_step_connected {engine : Engine} (now : Time)
    (running : engine.life = .running) (socket : Nat) :
    .attached socket ∈
      (engine.step now (.report engine.generation (.connected socket))).2 := by
  have handled : engine.step now (.report engine.generation (.connected socket)) =
      engine.handleReport now (.connected socket) := by
    unfold step
    rw [running]
    exact if_pos rfl
  rw [handled]
  exact List.mem_cons_self

/-- In a turn the engine learns that its attempt has failed.  The next attempt is called for in the
same generation, and nothing else changes. -/
structure Turn.Redials (failure : IoFailure) (turn : Turn) : Prop where
  told : turn.stimulus? =
    some (.report turn.before.engine.generation (.connectFailed failure))
  effects : turn.effects = [.warned (.connectFailed failure),
    .noted (.connecting turn.before.engine.generation),
    .dialed turn.before.engine.generation]
  after : turn.after = { turn.before with engine := turn.before.engine.beginConnect.1 }

namespace Turn

variable {turn : Turn} {failure : IoFailure}

/-- Neither the buffers nor those who wait are touched. -/
theorem Redials.unchanged (redials : turn.Redials failure) :
    turn.after.mailbox = turn.before.mailbox ∧
      turn.after.engine.queue = turn.before.engine.queue ∧
      turn.after.engine.inFlight = turn.before.engine.inFlight ∧
      turn.after.engine.pending = turn.before.engine.pending ∧
      turn.after.board.outstanding = turn.before.board.outstanding := by
  rw [redials.after]
  exact ⟨rfl, rfl, rfl, rfl, rfl⟩

end Turn

end RequestMux.Client
