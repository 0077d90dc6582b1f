import RequestMux.Client.Outcome
import RequestMux.Link.Writer

/-!
# Connect attempts

A plan says what becomes of one attempt.  An attempt that is not accepted within
the connect timeout has failed.  A failure is made known when the timeout is over
and not before, so that attempts never follow each other faster than that.
-/

namespace RequestMux.Network

open Client (Time)
open Link (Act Script)

/-- What the peer does with an attempt. -/
inductive Fate where
  | accept
  /-- It never answers. -/
  | hang
  | refuse (failure : IoFailure)
  deriving DecidableEq, Repr

/-- What becomes of one attempt, and of the socket that comes of it. -/
structure Plan where
  fate : Fate
  /-- Milliseconds until the peer decides. -/
  delay : Nat
  /-- Whether the peer sends back what it is sent. -/
  echo : Bool
  /-- The failure of setting up the accepted socket, if that fails. -/
  setupFailure : Option IoFailure
  script : Script
  deriving DecidableEq, Repr

/-- An attempt that took too long. -/
def timedOut : IoFailure := ⟨"connect timed out", false⟩

/-- What an attempt is waiting for. -/
inductive Stage where
  /-- It has not begun. -/
  | unstarted
  /-- The peer accepts at a given time; a failure after that is made known at `reportAt`. -/
  | accepting (time : Time) (plan : Plan) (reportAt : Time)
  /-- The failure is made known at a given time. -/
  | failing (time : Time) (failure : IoFailure)
  deriving DecidableEq, Repr

/-- What an attempt that begins now waits for. -/
def Plan.begin (plan : Plan) (now timeout : Time) : Stage :=
  if timeout < plan.delay then .failing (now + timeout) timedOut
  else
    match plan.fate with
    | .accept => .accepting (now + plan.delay) plan (now + timeout)
    | .hang => .failing (now + timeout) timedOut
    | .refuse failure => .failing (now + timeout) failure

/-- The time at which an attempt goes on by itself. -/
def Stage.due? : Stage → Option Time
  | .unstarted => none
  | .accepting time _ _ => some time
  | .failing time _ => some time

/-- An attempt under way. -/
structure Attempt where
  generation : Nat
  stage : Stage
  deriving DecidableEq, Repr

end RequestMux.Network
