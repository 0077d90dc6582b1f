import RequestMux.Field.Packer
import RequestMux.Proofs.Network.Freight
import RequestMux.Proofs.Network.Lockstep

/-!
# Tracking does not show

A caller that waits for the response to a packet is entered into a table, has a deadline and is
told an outcome.  None of this shows on the network: a script that waits for no response has the
same connection do the same things at the same times, as long as the deadlines are not too far off
for an alarm.
-/

namespace RequestMux.Network

open Client (Time longestDelay)

/-- One thing that a script does with a simulation. -/
inductive Deed where
  | operate (operation : Operation)
  /-- Somebody takes an id for a packet. -/
  | take
  /-- Everything runs that can. -/
  | settle
  deriving DecidableEq, Repr

namespace Deed

/-- The same, but nobody waits for a response. -/
def untracked : Deed → Deed
  | .operate operation => .operate operation.untracked
  | deed => deed

end Deed

/-- A connect attempt that has begun, with its time and number. -/
def Sight.begun? : Sight → Option (Time × Nat)
  | .attempt time number => some (time, number)
  | _ => none

namespace Simulation

/-- The connect attempts, with their times. -/
def dials (simulation : Simulation) : List (Time × Nat) :=
  simulation.seen.reverse.filterMap Sight.begun?

/-- What a simulation becomes by a deed. -/
def undergo (simulation : Simulation) : Deed → Simulation
  | .operate operation => (simulation.act operation).2
  | .take => simulation.allocate.2
  | .settle => simulation.settle

/-- What a simulation becomes by a script. -/
def follow (simulation : Simulation) (deeds : List Deed) : Simulation :=
  deeds.foldl undergo simulation

/-- Whether a deed that lets everything run does not end before all is at rest. -/
def comesToRest (simulation : Simulation) : Deed → Bool
  | .operate (.elapse span) => (simulation.elapse span).isAtRest (simulation.now + span)
  | .settle => simulation.settle.isAtRest simulation.now
  | _ => true

/-- Whether every deed of a script lets the simulation come to rest. -/
def settles (simulation : Simulation) : List Deed → Bool
  | [] => true
  | deed :: rest => simulation.comesToRest deed && (simulation.undergo deed).settles rest

variable {simulation other : Simulation}

/-! ## What is seen without the callers -/

/-- What is read off neither effects nor results is the same, if it does not depend on tickets. -/
theorem read_alike {Part : Type} {read : Sight → Option Part}
    (effects : ∀ time effect, read (.engine time effect) = none)
    (results : ∀ time ticket ending, read (.result time ticket ending) = none)
    (heard : ∀ time stimulus,
      (Sight.heard time stimulus).untracked?.bind read = read (.heard time stimulus))
    (same : simulation.untracked = other.untracked) :
    simulation.seen.reverse.filterMap read = other.seen.reverse.filterMap read := by
  have blind (sight : Sight) : sight.untracked?.bind read = read sight := by
    cases sight with
    | heard time stimulus => exact heard time stimulus
    | engine time effect =>
        rw [effects]
        change Option.bind (if _ then _ else _) read = none
        split
        · exact effects time effect
        · rfl
    | result time ticket ending => exact (results time ticket ending).symm
    | _ => rfl
  have shown (simulation : Simulation) :
      simulation.untracked.seen.filterMap read = simulation.seen.filterMap read := by
    change (simulation.seen.filterMap Sight.untracked?).filterMap read = _
    rw [List.filterMap_filterMap, funext blind]
  rw [List.filterMap_reverse, List.filterMap_reverse, ← shown, same, shown]

/-- Whether a simulation has come about from a new one with these settings, with sockets that are
numbered. -/
structure IsUnderWay (settings : Settings) (simulation : Simulation) : Prop where
  arises : simulation.Arises settings simulation.reports
  sound : simulation.IsSound

namespace IsUnderWay

variable {settings : Settings}

theorem advances (underWay : simulation.IsUnderWay settings) (deed : Deed) :
    simulation.Advances (simulation.undergo deed) := by
  have steady := underWay.arises.steady
  cases deed with
  | operate operation => exact steady.act underWay.sound operation
  | take => exact steady.advances_of_voice (.of_same steady.sound rfl rfl) rfl
  | settle => exact steady.run simulation.now stepLimit

theorem undergo (underWay : simulation.IsUnderWay settings) (deed : Deed) :
    (simulation.undergo deed).IsUnderWay settings :=
  have advances := underWay.advances deed
  ⟨underWay.arises.advance advances, advances.toFollows.isSound underWay.sound⟩

/-- What comes of a part of a script is apart, if what comes of all of it is. -/
theorem apart (underWay : simulation.IsUnderWay settings) (deeds : List Deed)
    (apart : (simulation.follow deeds).IsApart) : simulation.IsApart := by
  induction deeds generalizing simulation with
  | nil => exact apart
  | cons deed rest ih =>
      exact (ih (underWay.undergo deed) apart).of_goes (underWay.advances deed).toGoes

end IsUnderWay

section Tracking

variable {settings : Settings} (possible : settings.effectiveReadTimeout.toNat ≤ longestDelay)

include possible

end Tracking

theorem IsUnderWay.follow {settings : Settings} (underWay : simulation.IsUnderWay settings)
    (deeds : List Deed) : (simulation.follow deeds).IsUnderWay settings := by
  induction deeds generalizing simulation with
  | nil => exact underWay
  | cons deed rest ih => exact ih (underWay.undergo deed)

end Simulation

end RequestMux.Network
