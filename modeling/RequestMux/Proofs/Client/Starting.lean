import RequestMux.Proofs.Client.Causes
import RequestMux.Proofs.Client.Generations
import RequestMux.Proofs.Client.States

/-!
# When attempts are started

An attempt is started because the connection is torn down, because the attempt before it has failed,
or because there was none and a buffer has to get on its way.  Only the first attempt of all is of
this last kind.
-/

namespace RequestMux.Client

namespace Turn

variable {turn : Turn}

/-- What a turn does beyond telling callers has its cause in what the engine hears in it. -/
theorem mayCause (sound : turn.before.IsSound) {effect : Effect} (busy : effect.isIdle = false)
    (member : effect ∈ turn.effects) :
    ∃ stimulus, turn.heard? = some stimulus ∧
      turn.before.engine.MayCause turn.time stimulus effect := by
  obtain ⟨stimulus, hears, -, reacted, -⟩ := turn.reacted sound busy member
  exact ⟨stimulus, hears, turn.before.engine.does_step turn.time stimulus effect reacted⟩

/-- Once an attempt is started, the engine is no more without socket and attempt. -/
theorem IsApt.occupied_of_dialed (apt : turn.IsApt) (sound : turn.before.IsSound)
    (stands : turn.before.engine.life = .collapsed ∨ turn.before.engine.IsCoherent)
    {generation : Nat} (member : .dialed generation ∈ turn.effects)
    (running : turn.after.engine.life = .running) :
    turn.after.engine.phase ≠ .disconnected := by
  intro vacant
  obtain ⟨runs, before, unasked⟩ := vacant_before sound running vacant
  have coherent : turn.before.engine.IsCoherent :=
    stands.resolve_left fun collapsed => nomatch runs.symm.trans collapsed
  obtain ⟨stimulus, hears, may⟩ := turn.mayCause sound rfl member
  cases may with
  | ordinary ordinary => cases ordinary
  | opened asked =>
      subst asked
      cases unasked _ hears
  | openedByPing asked =>
      subst asked
      have due := apt.pinging runs _ (stimulus?_of_heard? hears)
      exact nomatch before.symm.trans (coherent.scheduled due)
  | failed reported =>
      subst reported
      have dials := apt.dialing runs _ (stimulus?_of_heard? hears)
      exact nomatch before.symm.trans (coherent.connecting.mpr dials)
  | torn cause =>
      cases turn.becomes sound with
      | idle board unheard => cases hears.symm.trans unheard
      | heard other board more also awake like engine effects farewell =>
          cases hears.symm.trans also
          obtain ⟨reaction, step, -, -⟩ := Engine.step_of_cut awake cause
          rw [engine, step] at vacant
          exact Engine.phase_reconnect_ne reaction.1 vacant

end Turn

namespace Connection

/-- As long as a running engine is without socket and attempt, it has never started one. -/
theorem undialed_of_vacant (endpoint : Endpoint) (settings : Settings) (moves : List (Time × Move))
    (apt : ∀ turn ∈ (start endpoint settings).turns moves, turn.IsApt)
    (running : ((start endpoint settings).run moves).engine.life = .running)
    (vacant : ((start endpoint settings).run moves).engine.phase = .disconnected) :
    ∀ turn ∈ (start endpoint settings).turns moves, ∀ generation,
      .dialed generation ∉ turn.effects := by
  let motive (turns : List Turn) (connection : Connection) : Prop :=
    (∀ turn ∈ turns, turn.IsApt) → connection.IsSound ∧
      (connection.engine.life = .collapsed ∨ connection.engine.IsCoherent) ∧
      (connection.engine.life = .running → connection.engine.phase = .disconnected →
        ∀ turn ∈ turns, ∀ generation, .dialed generation ∉ turn.effects)
  have began : motive [] (start endpoint settings) := fun _ =>
    ⟨.start endpoint settings, .inr (.start settings), fun _ _ _ member => nomatch member⟩
  have held : motive ((start endpoint settings).turns moves)
      ((start endpoint settings).run moves) := by
    refine run_invariant (motive := motive) (fun past turn held apt => ?_) moves began
    obtain ⟨sound, stands, undialed⟩ := held fun other earlier =>
      apt other (List.mem_append_left _ earlier)
    have last : turn.IsApt := apt turn (List.mem_append_right _ List.mem_cons_self)
    refine ⟨sound.make turn.time turn.move, last.coherent sound stands, ?_⟩
    intro running vacant other member generation dialed
    obtain ⟨runs, before, -⟩ := Turn.vacant_before sound running vacant
    rcases List.mem_append.mp member with earlier | now
    · exact undialed runs before other earlier generation dialed
    · rw [List.mem_singleton.mp now] at dialed
      exact last.occupied_of_dialed sound stands dialed running vacant
  exact (held apt).2.2 running vacant

end Connection

end RequestMux.Client
