import RequestMux.Client.Engine
import RequestMux.Wire.Arrival

/-!
# What can be seen

A simulation keeps a record of what the engine hears and does and of what happens
on the network.  Every answer about a run is read off this record.
-/

namespace RequestMux.Network

open Client (Effect Outcome Stimulus Time)
open Wire (Piece)

/-- How a request ended for its caller. -/
inductive Ending where
  | outcome (outcome : Outcome)
  /-- The connection did not take the request. -/
  | refused (fault : ClientError)
  deriving DecidableEq, Repr

/-- Something that can be seen from outside. -/
inductive Sight where
  /-- The engine was told something; what it does about it follows. -/
  | heard (time : Time) (stimulus : Stimulus)
  /-- The engine did something. -/
  | engine (time : Time) (effect : Effect)
  /-- A caller learned how its request ended. -/
  | result (time : Time) (ticket : Nat) (ending : Ending)
  /-- A connect attempt has begun. -/
  | attempt (time : Time) (number : Nat)
  /-- The peer accepted an attempt. -/
  | accepted (socket : Nat) (nodelay : Bool)
  /-- The client closed a socket. -/
  | closed (socket : Nat)
  /-- A socket accepted bytes. -/
  | sent (socket : Nat) (octets : Bytes)
  /-- The peer sent something. -/
  | arrived (socket : Nat) (pieces : List Piece)
  /-- The peer closed its side. -/
  | ended (socket : Nat)
  deriving DecidableEq, Repr

end RequestMux.Network
