import RequestMux.Proofs.Network.Arising
import RequestMux.Proofs.Network.Untracked

/-!
# Steps that only callers notice

Some steps of a simulation do no more than tell callers something: somebody who awaits an outcome
learns it, or the alarm of a caller rings.  The others depend on nothing that is kept for callers.
So two simulations that are the same without their callers go on in the same way, though one may
take more steps and its clock may be ahead while nothing else happens.
-/

namespace RequestMux.Network

open Client (Connection Engine Report Stimulus Time longestDelay)
open Client.Pending (Alarm Entry Table)

namespace Simulation

/-- Whether nothing goes on before a timer goes off. -/
def isIdle (simulation : Simulation) : Bool :=
  simulation.connection.mailbox.isEmpty && simulation.tasks.isEmpty

/-- The time at which something goes on. -/
def moment (simulation : Simulation) : Time :=
  if simulation.isIdle then simulation.nextTimer?.elim 0 (max simulation.now) else simulation.now

/-- A simulation without the callers, at the time at which something else than they goes on. -/
def outline (simulation : Simulation) : Simulation :=
  { simulation.untracked with now := simulation.untracked.moment }

variable {simulation other : Simulation}

end Simulation

end RequestMux.Network
