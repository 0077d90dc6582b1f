import RequestMux.Wire.Packet

/-!
# Outcomes of requests

Every accepted request ends with one outcome.  An outcome is not an error of the
caller: it says what became of the request on the connection.
-/

namespace RequestMux.Client

/-- A point in time, in milliseconds since the connection was made. -/
abbrev Time := Nat

/-- What became of a request. -/
inductive Outcome where
  /-- The response with its id arrived. -/
  | ok (packet : Wire.Packet)
  /-- The connection went away, or the id was taken over by another request. -/
  | error
  /-- Its deadline passed first. -/
  | timeout
  deriving DecidableEq, Repr

namespace Outcome

/-- The name of an outcome. -/
def code : Outcome → String
  | .ok _ => "Ok"
  | .error => "Err"
  | .timeout => "Timeout"

/-- Whether a response arrived. -/
def isOk : Outcome → Bool
  | .ok _ => true
  | _ => false

end Outcome

end RequestMux.Client
