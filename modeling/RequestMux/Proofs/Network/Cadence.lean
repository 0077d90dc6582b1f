import RequestMux.Proofs.Network.Pursuit
import RequestMux.Proofs.Network.Standing

/-!
# The cadence of attempts

An attempt that fails is followed by the next one when the connect timeout is over, however early
the peer refused it, and an attempt that succeeds is attached at that moment.
-/

namespace RequestMux.Network

open Client (Connection Effect Report Time longestDelay)

/-- Whether one attempt begins behind another: in a later generation, or when the timeout of the
other is over. -/
def IsSpaced (timeout : Time) (earlier later : Nat × Time) : Prop :=
  earlier.1 < later.1 ∨ earlier.1 = later.1 ∧ earlier.2 + timeout ≤ later.2

namespace Bid

/-- Whether an attempt may begin behind this bid. -/
def Admits (timeout : Time) (begun : Nat × Time) : Bid → Prop
  | .idle least => least ≤ begun.1
  | .called generation time => IsSpaced 0 (generation, time) begun
  | .underWay generation start _ => IsSpaced timeout (generation, start) begun

variable {timeout : Time} {bid last : Bid} {sights : List Sight}

end Bid

/-- What has become of a call for an attempt in what was seen since: it waits in the line while the
clock stands, it began at the same moment, or it was given up at the same moment. -/
inductive Answered (time : Time) (simulation : Simulation) : List Sight → Prop where
  | waits {more : List Sight} (quiet : ∀ sight ∈ more, sight.isBidding = false)
      (lined : .dial ∈ simulation.tasks) (still : simulation.now = time) :
      Answered time simulation more
  | begun {before rest : List Sight} (quiet : ∀ sight ∈ before, sight.isBidding = false)
      (number : Nat) : Answered time simulation (before ++ .attempt time number :: rest)
  | givenUp {before rest : List Sight} (quiet : ∀ sight ∈ before, sight.isBidding = false) :
      Answered time simulation (before ++ .engine time .hungUp :: rest)

/-- How an attempt has fared in what was seen since it began. -/
inductive Fares (timeout : Time) (generation : Nat) (start : Time) (plan : Plan)
    (simulation : Simulation) : List Sight → Prop where
  /-- It is under way, and its end is ahead wherever all is at rest. -/
  | goesOn {more : List Sight} (quiet : ∀ sight ∈ more, sight.isBidding = false)
      (waiting : simulation.now ≤ start + plan.span timeout)
      (ahead : simulation.isAtRest simulation.now = true →
        simulation.now < start + plan.span timeout) :
      Fares timeout generation start plan simulation more
  /-- It was given up before its end. -/
  | givenUp {before rest : List Sight} (quiet : ∀ sight ∈ before, sight.isBidding = false)
      {time : Time} (timely : time ≤ start + plan.span timeout) :
      Fares timeout generation start plan simulation (before ++ .engine time .hungUp :: rest)
  /-- It has succeeded within the timeout, and its socket was attached at that moment. -/
  | attached {before rest : List Sight} (quiet : ∀ sight ∈ before, sight.isBidding = false)
      (number : Nat) (succeeds : plan.failure? timeout = none) :
      Fares timeout generation start plan simulation
        (before ++ .engine (start + plan.delay) (.attached number) :: rest)
  /-- It has failed, which was handled when the timeout was over; the next attempt was called for at
  that moment. -/
  | failed {before rest : List Sight} (quiet : ∀ sight ∈ before, sight.isBidding = false)
      {failure : IoFailure} (fails : plan.failure? timeout = some failure)
      (answered : Answered (start + timeout) simulation rest) :
      Fares timeout generation start plan simulation
        (before ++ .engine (start + timeout) (.warned (.connectFailed failure)) ::
          .engine (start + timeout) (.noted (.connecting generation)) ::
            .engine (start + timeout) (.dialed generation) :: rest)

section Following

variable {simulation : Simulation} {timeout time start : Time} {generation : Nat} {plan : Plan}
  {sight : Sight} {sights : List Sight} {bid last : Bid}

theorem Answered.cons (other : sight.isBidding = false)
    (answered : Answered time simulation sights) : Answered time simulation (sight :: sights) := by
  cases answered with
  | waits quiet lined still => exact .waits (List.forall_mem_cons.mpr ⟨other, quiet⟩) lined still
  | @begun before rest quiet number =>
      exact @Answered.begun _ _ (sight :: before) rest (List.forall_mem_cons.mpr ⟨other, quiet⟩)
        number
  | @givenUp before rest quiet =>
      exact @Answered.givenUp _ _ (sight :: before) rest (List.forall_mem_cons.mpr ⟨other, quiet⟩)

theorem Fares.cons (other : sight.isBidding = false)
    (fares : Fares timeout generation start plan simulation sights) :
    Fares timeout generation start plan simulation (sight :: sights) := by
  have behind {before : List Sight} (quiet : ∀ sight ∈ before, sight.isBidding = false) :
      ∀ other ∈ sight :: before, other.isBidding = false :=
    List.forall_mem_cons.mpr ⟨other, quiet⟩
  cases fares with
  | goesOn quiet waiting ahead => exact .goesOn (behind quiet) waiting ahead
  | givenUp quiet timely => exact .givenUp (behind quiet) timely
  | attached quiet number succeeds => exact .attached (behind quiet) number succeeds
  | failed quiet fails answered => exact .failed (behind quiet) fails answered

/-- An attempt that is under way goes on until its end at most, and where all is at rest its end is
ahead. -/
theorem Simulation.Minds.underWay
    (minds : simulation.Minds timeout (.underWay generation start plan) simulation.reports)
    (standing : simulation.connection.engine.life ≠ .collapsed) :
    simulation.now ≤ start + plan.span timeout ∧
      (simulation.isAtRest simulation.now = true →
        simulation.now < start + plan.span timeout) := by
  have running : simulation.connection.engine.life = .running := by
    cases life : simulation.connection.engine.life with
    | running => rfl
    | stopped => exact nomatch minds.fits.stopped life
    | collapsed => exact absurd life standing
  refine ⟨minds.isTimely running, fun rests => ?_⟩
  obtain ⟨-, empty, timers⟩ := Simulation.of_isAtRest rests
  have waits : simulation.attempt.isSome = true := by
    refine (minds.ends running _ _ _ rfl).resolve_right ?_
    rintro ⟨entry, member, -⟩
    have lined := minds.lined.waiting (List.ne_nil_of_mem member)
    rw [empty] at lined
    cases lined
  obtain ⟨attempt, here⟩ := Option.isSome_iff_exists.mp waits
  obtain ⟨-, reaches⟩ := minds.governs.2 attempt here
  obtain ⟨due, awaited, bound⟩ := reaches.due
  have next : simulation.attemptDue? = some due := by
    rw [Simulation.attemptDue?, here]
    exact awaited
  obtain ⟨first, found, le⟩ := Simulation.nextTimer?_le_attemptDue next
  exact Nat.lt_of_lt_of_le (timers first found) (Nat.le_trans le bound)

namespace Bid.Goes

theorem answered (goes : bid.Goes timeout sights last) (called : bid = .called generation time)
    (minds : simulation.Minds timeout last simulation.reports) :
    Answered time simulation sights := by
  induction goes with
  | done bid =>
      subst called
      exact .waits (List.forall_mem_nil _) minds.governs.2.1 minds.governs.2.2
  | pass other later ih => exact (ih called minds).cons other
  | «begin» plan later ih =>
      cases called
      exact @Answered.begun _ _ [] _ (List.forall_mem_nil _) _
  | giveUp some timely later ih =>
      subst called
      obtain rfl : _ = time := timely
      exact @Answered.givenUp _ _ [] _ (List.forall_mem_nil _)
  | _ => cases called

theorem fares (goes : bid.Goes timeout sights last)
    (under : bid = .underWay generation start plan)
    (minds : simulation.Minds timeout last simulation.reports)
    (standing : simulation.connection.engine.life ≠ .collapsed) :
    Fares timeout generation start plan simulation sights := by
  induction goes with
  | done bid =>
      subst under
      obtain ⟨waiting, ahead⟩ := minds.underWay standing
      exact .goesOn (List.forall_mem_nil _) waiting ahead
  | pass other later ih => exact (ih under minds).cons other
  | fail fails punctual later ih =>
      cases under
      subst punctual
      exact @Fares.failed _ _ _ _ _ [] _ (List.forall_mem_nil _) _ fails (later.answered rfl minds)
  | attach succeeds punctual later ih =>
      cases under
      subst punctual
      exact @Fares.attached _ _ _ _ _ [] _ (List.forall_mem_nil _) _ succeeds
  | giveUp some timely later ih =>
      subst under
      exact @Fares.givenUp _ _ _ _ _ [] _ (List.forall_mem_nil _) _ timely
  | _ => cases under

end Bid.Goes

end Following

namespace Simulation

end Simulation

end RequestMux.Network
