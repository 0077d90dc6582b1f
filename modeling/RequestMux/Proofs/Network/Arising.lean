import RequestMux.Proofs.Client.Pinging
import RequestMux.Proofs.Network.Enactment

/-!
# Simulations that have come about

Whatever was done with a new simulation, its connection has gone through a run of turns in which
the world kept to what the engine had told it.  So it has no more than one ping, and the engine has
heard of each ping that waits for its response.
-/

namespace RequestMux.Network

open Client (Connection Engine Lifecycle Report Time Turn longestDelay)
open Client.Pending (Entry Table)

/-- A ping that the engine is to send, and when. -/
def Sight.pinged? : Sight → Option (Time × UInt32)
  | .heard time (.ping sync) => some (time, sync)
  | _ => none

/-- A packet that the engine is given to write. -/
def Sight.written? : Sight → Option Wire.Packet
  | .heard _ (.command (.write packet _)) => some packet
  | _ => none

namespace Simulation

/-- The pings that the engine has sent, with their times and ids. -/
def pings (simulation : Simulation) : List (Time × UInt32) :=
  simulation.spoken.filterMap Sight.pinged?

/-- The packets that the engine was given to write. -/
def writes (simulation : Simulation) : List Wire.Packet :=
  simulation.spoken.filterMap Sight.written?

/-- Whether no packet that was given to the engine carries the id of a ping. -/
def IsApart (simulation : Simulation) : Prop :=
  ∀ packet ∈ simulation.writes, ∀ ping ∈ simulation.pings, packet.header.sync ≠ ping.2

instance (simulation : Simulation) : Decidable simulation.IsApart :=
  inferInstanceAs (Decidable (∀ packet ∈ simulation.writes, ∀ ping ∈ simulation.pings, _))

variable {simulation after : Simulation}

/-- What was seen stays seen. -/
theorem IsApart.of_goes (goes : simulation.Goes after) (apart : after.IsApart) :
    simulation.IsApart := by
  obtain ⟨moves, enacts⟩ := goes.enacts
  intro packet written ping pinged
  have seen : ∀ sight ∈ simulation.spoken, sight ∈ after.spoken := by
    intro sight member
    rw [enacts.spoken]
    exact List.mem_append_left _ member
  obtain ⟨sight, there, writes⟩ := List.mem_filterMap.mp written
  obtain ⟨other, here, pings⟩ := List.mem_filterMap.mp pinged
  exact apart packet (List.mem_filterMap.mpr ⟨sight, seen sight there, writes⟩) ping
    (List.mem_filterMap.mpr ⟨other, seen other here, pings⟩)

/-- Whether a simulation, with some reports that the engine has not taken, has come about from a new
one with these settings. -/
structure Arises (settings : Settings) (inbox : List (Nat × Report)) (simulation : Simulation) :
    Prop where
  goes : ∃ endpoint source plans fallback,
    (start endpoint settings source plans fallback).Goes simulation
  steady : simulation.IsSteady inbox

namespace Arises

variable {settings : Settings} {inbox rest : List (Nat × Report)}

theorem start (endpoint : Endpoint) (settings : Settings) (source : SyncSource)
    (plans : List Plan) (fallback : Plan) :
    (Simulation.start endpoint settings source plans fallback).Arises settings [] := by
  have steady := IsSteady.start endpoint settings source plans fallback
  exact ⟨⟨endpoint, source, plans, fallback, .of_voice steady.timely rfl⟩, steady⟩

theorem further (arises : simulation.Arises settings inbox) (goes : simulation.Goes after)
    (steady : after.IsSteady rest) : after.Arises settings rest := by
  obtain ⟨endpoint, source, plans, fallback, before⟩ := arises.goes
  exact ⟨⟨endpoint, source, plans, fallback, before.trans goes⟩, steady⟩

theorem advance (arises : simulation.Arises settings simulation.reports)
    (advances : simulation.Advances after) : after.Arises settings after.reports :=
  arises.further advances.toGoes (arises.steady.advance advances)

/-- The connection has gone through a run from its start, all of which was seen. -/
theorem enacts (arises : simulation.Arises settings inbox) :
    ∃ endpoint moves,
      simulation.connection = (Connection.start endpoint settings).run moves ∧
      simulation.spoken = ((Connection.start endpoint settings).turns moves).flatMap sightsIn ∧
      ∀ turn ∈ (Connection.start endpoint settings).turns moves, turn.IsApt := by
  obtain ⟨endpoint, source, plans, fallback, goes⟩ := arises.goes
  obtain ⟨moves, enacts⟩ := goes.enacts
  exact ⟨endpoint, moves, enacts.connection, enacts.spoken, enacts.apt⟩

theorem settings_eq (arises : simulation.Arises settings inbox) :
    simulation.settings = settings := by
  obtain ⟨endpoint, moves, connection, -⟩ := arises.enacts
  have same := (Lifecycle.run endpoint settings moves).same
  rw [Simulation.settings, connection, same]

theorem patience (arises : simulation.Arises settings inbox) :
    simulation.connection.engine.patience = settings.effectiveReadTimeout.toNat := by
  obtain ⟨endpoint, moves, connection, -⟩ := arises.enacts
  have same := (Lifecycle.run endpoint settings moves).same
  rw [connection, Engine.patience, same]

/-- The engine stands as long as alarms can be set. -/
theorem standing (arises : simulation.Arises settings inbox)
    (possible : settings.effectiveReadTimeout.toNat ≤ longestDelay) :
    simulation.connection.engine.life ≠ .collapsed := by
  obtain ⟨endpoint, moves, connection, -⟩ := arises.enacts
  rw [connection]
  exact (Lifecycle.run endpoint settings moves).stands possible

/-- There is no more than one ping, as long as alarms can be set. -/
theorem single (arises : simulation.Arises settings inbox)
    (possible : settings.effectiveReadTimeout.toNat ≤ longestDelay) :
    simulation.connection.engine.pending.pings ≤ 1 := by
  obtain ⟨endpoint, moves, connection, -, apt⟩ := arises.enacts
  rw [connection]
  rcases (Connection.probes_of_apt endpoint settings moves apt).stands with collapsed | ⟨-, probing⟩
  · exact absurd collapsed ((Lifecycle.run endpoint settings moves).stands possible)
  · exact probing.pings_le_one

/-- The engine has heard of every ping that waits. -/
theorem heard (arises : simulation.Arises settings inbox) {entry : Entry}
    (member : entry ∈ simulation.connection.engine.pending.entries) (waits : entry.waiter = .ping) :
    ∃ ping ∈ simulation.pings, ping.2 = entry.sync := by
  obtain ⟨endpoint, moves, connection, spoken, apt⟩ := arises.enacts
  rw [connection] at member
  obtain ⟨turn, there, heard⟩ :=
    (Connection.probes_of_apt endpoint settings moves apt).heard entry member waits
  refine ⟨(turn.time, entry.sync), List.mem_filterMap.mpr
    ⟨.heard turn.time (.ping entry.sync), ?_, rfl⟩, rfl⟩
  rw [spoken]
  refine List.mem_flatMap.mpr ⟨turn, there, List.mem_append_left _ ?_⟩
  rw [Turn.stimulus?_of_heard? heard]
  exact List.mem_cons_self

end Arises

end Simulation

end RequestMux.Network
