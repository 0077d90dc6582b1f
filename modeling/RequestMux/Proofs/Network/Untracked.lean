import RequestMux.Proofs.Client.Untracked
import RequestMux.Proofs.Network.Veil

/-!
# A simulation that tracks nobody

Without the callers, a simulation has no outcomes to deliver and nobody who awaits one.  What its
network does is the same: callers are told, and those who await an outcome run, without anybody
else noticing.
-/

namespace RequestMux.Network

open Client (Connection Effect Reaction Report Stimulus Time)

namespace Task

/-- Whether a task only tells somebody an outcome. -/
def isAwaiter : Task → Bool
  | .awaiter _ _ => true
  | _ => false

end Task

/-- What is seen without the callers, if anything is. -/
def Sight.untracked? : Sight → Option Sight
  | .heard _ .alarm => none
  | .heard time stimulus => some (.heard time stimulus.untracked)
  | .engine time effect => if effect.isOutward then some (.engine time effect) else none
  | .result _ _ _ => none
  | sight => some sight

namespace Simulation

/-- A simulation without the callers. -/
def untracked (simulation : Simulation) : Simulation :=
  { simulation with
    connection := simulation.connection.untracked
    tasks := simulation.tasks.filter fun task => !task.isAwaiter
    awaited := []
    seen := simulation.seen.filterMap Sight.untracked? }

section Untracked

variable (simulation : Simulation)

end Untracked

section Alike

variable {simulation other : Simulation}

end Alike

end Simulation

namespace Operation

/-- The same operation, but nobody waits for a response. -/
def untracked : Operation → Operation
  | .write _ packet => .send packet
  | .request _ packet => .send packet
  | given => given

/-- Whether an operation takes no time and does not depend on whether a request is pending. -/
def isPlain : Operation → Bool
  | .gentleShutdown => false
  | .elapse _ => false
  | _ => true

end Operation

namespace Simulation

end Simulation

end RequestMux.Network
