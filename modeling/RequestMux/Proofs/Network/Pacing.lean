import RequestMux.Proofs.Network.Arising
import RequestMux.Proofs.Network.Bidding

/-!
# Attempts keep pace with the clock

Whatever is done with a simulation, its attempt and the line of its tasks fit to the bid of its
engine.  An attempt that has been called for is in the line, so that the clock stands until it has
begun; and the clock passes no attempt whose time has come.
-/

namespace RequestMux.Network

open Client (Command Connection Effect Engine Outcome Report Stimulus Time)

/-- What an attempt with this plan, begun at `start`, may be waiting for. -/
inductive Plan.Reaches (plan : Plan) (timeout start now : Time) : Stage → Prop where
  | accepting (accepts : plan.fate = .accept) (early : plan.delay ≤ timeout)
      (ahead : now ≤ start + plan.delay) :
      Reaches plan timeout start now (.accepting (start + plan.delay) plan (start + timeout))
  | failing {failure : IoFailure} (fails : plan.failure? timeout = some failure)
      (ahead : now ≤ start + timeout) :
      Reaches plan timeout start now (.failing (start + timeout) failure)

namespace Plan

variable {plan : Plan} {timeout start now : Time}

theorem reaches_begin (plan : Plan) (timeout now : Time) :
    plan.Reaches timeout now now (plan.begin now timeout) := by
  unfold Plan.begin
  split
  · next late => exact .failing (if_pos late) (Nat.le_add_right _ _)
  · next early =>
      split
      · next accepts => exact .accepting accepts (Nat.le_of_not_lt early) (Nat.le_add_right _ _)
      · next hangs =>
          exact .failing (by rw [failure?, if_neg early, hangs]) (Nat.le_add_right _ _)
      · next refuses =>
          exact .failing (by rw [failure?, if_neg early, refuses]) (Nat.le_add_right _ _)

theorem failure?_of_accept (accepts : plan.fate = .accept) (early : plan.delay ≤ timeout) :
    plan.failure? timeout = plan.setupFailure := by
  rw [failure?, if_neg (Nat.not_lt_of_le early), accepts]

/-- The clock has not passed the end of an attempt that still waits. -/
theorem Reaches.le {stage : Stage} (reaches : plan.Reaches timeout start now stage) :
    now ≤ start + plan.span timeout := by
  cases reaches with
  | accepting accepts early ahead =>
      cases fails : plan.failure? timeout with
      | none =>
          rw [span_of_success fails]
          exact ahead
      | some failure =>
          rw [span_of_failure fails]
          exact Nat.le_trans ahead (Nat.add_le_add_left early start)
  | failing fails ahead =>
      rw [span_of_failure fails]
      exact ahead

/-- An attempt that still waits goes on by its end. -/
theorem Reaches.due {stage : Stage} (reaches : plan.Reaches timeout start now stage) :
    ∃ due, stage.due? = some due ∧ due ≤ start + plan.span timeout := by
  cases reaches with
  | accepting accepts early ahead =>
      exact ⟨_, rfl, (Reaches.accepting accepts early (Nat.le_refl _)).le⟩
  | failing fails ahead => exact ⟨_, rfl, (Reaches.failing fails (Nat.le_refl _)).le⟩

end Plan

namespace Simulation

/-- What was seen, in order. -/
def chronicle (simulation : Simulation) : List Sight := simulation.seen.reverse

theorem chronicle_see (simulation : Simulation) (sight : Sight) :
    (simulation.see sight).chronicle = simulation.chronicle ++ [sight] :=
  List.reverse_cons

/-- An attempt of this generation has begun with the next plan. -/
def commence (generation : Nat) (simulation : Simulation) : Simulation :=
  { simulation with
    plans := simulation.plans.tail
    attempts := simulation.attempts + 1
    attempt := some ⟨generation, (simulation.plans.head?.getD simulation.fallback).begin
      simulation.now simulation.settings.connectTimeout.toNat⟩ }.see
    (.attempt simulation.now simulation.attempts)

/-- An attempt that was called for begins, and goes on at once if it need not wait. -/
theorem dial_cases {simulation : Simulation} {attempt : Attempt}
    (here : simulation.attempt = some attempt) :
    let begun := simulation.commence attempt.generation
    simulation.dial = begun ∨ ∃ next time, begun.attempt = some next ∧
      next.stage.due? = some time ∧ time ≤ begun.now ∧ simulation.dial = begun.proceed next := by
  intro begun
  unfold dial
  rw [here]
  dsimp only
  split
  · next time plan reportAt waits =>
      split
      · next come =>
          exact .inr ⟨_, time, rfl, congrArg Stage.due? waits, of_decide_eq_true come, rfl⟩
      · exact .inl rfl
  · exact .inl rfl

/-- Whether the line holds no task twice, and the engine is in it as long as there are reports. -/
structure IsLined (simulation : Simulation) : Prop where
  once : simulation.tasks.Nodup
  waiting : simulation.reports ≠ [] → .engine ∈ simulation.tasks

end Simulation

/-- Whether the attempt and the line of tasks are what this bid makes of them. -/
def Bid.Governs (timeout : Time) (simulation : Simulation) : Bid → Prop
  | .idle _ => simulation.attempt = none ∧ .dial ∉ simulation.tasks
  | .called generation time => simulation.attempt = some ⟨generation, .unstarted⟩ ∧
      .dial ∈ simulation.tasks ∧ simulation.now = time
  | .underWay generation start plan => .dial ∉ simulation.tasks ∧
      ∀ attempt ∈ simulation.attempt, attempt.generation = generation ∧
        plan.Reaches timeout start simulation.now attempt.stage

theorem Bid.Governs.congr {bid : Bid} {timeout : Time} {simulation after : Simulation}
    (governs : bid.Governs timeout simulation) (now : after.now = simulation.now)
    (attempt : after.attempt = simulation.attempt)
    (dial : .dial ∈ after.tasks ↔ .dial ∈ simulation.tasks) : bid.Governs timeout after := by
  cases bid with
  | idle least => exact ⟨attempt.trans governs.1, fun member => governs.2 (dial.mp member)⟩
  | called generation time =>
      exact ⟨attempt.trans governs.1, dial.mpr governs.2.1, now.trans governs.2.2⟩
  | underWay generation start plan =>
      refine ⟨fun member => governs.1 (dial.mp member), ?_⟩
      rw [attempt, now]
      exact governs.2

namespace Simulation

/-- What happens has nothing to do with attempts. -/
structure Spares (before after : Simulation) : Prop where
  now : after.now = before.now
  attempt : after.attempt = before.attempt
  engine : Bid.Fits.outline after.connection.engine = Bid.Fits.outline before.connection.engine
  reports : ∃ more, after.reports = before.reports ++ more ∧
    ∀ entry ∈ more, concludes entry.2 = false
  lined : before.IsLined → after.IsLined
  dial : .dial ∈ after.tasks ↔ .dial ∈ before.tasks
  seen : ∃ sights, after.chronicle = before.chronicle ++ sights ∧
    ∀ sight ∈ sights, sight.isBidding = false

namespace Spares

variable {before middle after simulation : Simulation}

/-- Nothing changes of what attempts depend on. -/
theorem of_same (now : after.now = before.now) (attempt : after.attempt = before.attempt)
    (engine : Bid.Fits.outline after.connection.engine =
      Bid.Fits.outline before.connection.engine)
    (reports : after.reports = before.reports) (tasks : after.tasks = before.tasks)
    (seen : after.seen = before.seen) : before.Spares after where
  now := now
  attempt := attempt
  engine := engine
  reports := ⟨[], reports.trans (List.append_nil _).symm, List.forall_mem_nil _⟩
  lined lined := ⟨tasks ▸ lined.once, by rw [reports, tasks]; exact lined.waiting⟩
  dial := by rw [tasks]
  seen := ⟨[], (congrArg List.reverse seen).trans (List.append_nil _).symm, List.forall_mem_nil _⟩

theorem refl (simulation : Simulation) : simulation.Spares simulation :=
  of_same rfl rfl rfl rfl rfl rfl

theorem trans (first : before.Spares middle) (second : middle.Spares after) :
    before.Spares after := by
  obtain ⟨reports, mailed, plain⟩ := first.reports
  obtain ⟨later, posted, alsoPlain⟩ := second.reports
  obtain ⟨sights, seen, quiet⟩ := first.seen
  obtain ⟨more, noted, alsoQuiet⟩ := second.seen
  refine ⟨second.now.trans first.now, second.attempt.trans first.attempt,
    second.engine.trans first.engine, ⟨reports ++ later, ?_, fun entry member => ?_⟩,
    second.lined ∘ first.lined, second.dial.trans first.dial, ⟨sights ++ more, ?_,
      fun sight member => ?_⟩⟩
  · rw [posted, mailed, List.append_assoc]
  · exact (List.mem_append.mp member).elim (plain entry) (alsoPlain entry)
  · rw [noted, seen, List.append_assoc]
  · exact (List.mem_append.mp member).elim (quiet sight) (alsoQuiet sight)

theorem see (simulation : Simulation) (sight : Sight) (quiet : sight.isBidding = false) :
    simulation.Spares (simulation.see sight) where
  now := rfl
  attempt := rfl
  engine := rfl
  reports := ⟨[], (List.append_nil _).symm, List.forall_mem_nil _⟩
  lined lined := ⟨lined.once, lined.waiting⟩
  dial := Iff.rfl
  seen := ⟨[sight], chronicle_see simulation sight,
    fun _ member => List.mem_singleton.mp member ▸ quiet⟩

theorem mem_wake {task other : Task} :
    other ∈ (simulation.wake task).tasks ↔ other ∈ simulation.tasks ∨ other = task := by
  unfold Simulation.wake
  split
  · next there => exact ⟨.inl, fun either => either.elim id fun same => same ▸ there⟩
  · exact List.mem_append.trans (or_congr_right List.mem_singleton)

/-- A task joins the line once. -/
theorem nodup_wake (once : simulation.tasks.Nodup) (task : Task) :
    (simulation.wake task).tasks.Nodup := by
  unfold Simulation.wake
  split
  · exact once
  · next absent => exact List.nodup_append.mpr ⟨once, List.nodup_singleton task,
      fun other member last joins same =>
        absent (List.mem_singleton.mp joins ▸ same ▸ member)⟩

theorem wake (simulation : Simulation) (task : Task) (other : task ≠ .dial) :
    simulation.Spares (simulation.wake task) := by
  have rest : (simulation.wake task).now = simulation.now ∧
      (simulation.wake task).attempt = simulation.attempt ∧
      (simulation.wake task).connection = simulation.connection ∧
      (simulation.wake task).reports = simulation.reports ∧
      (simulation.wake task).seen = simulation.seen := by
    unfold Simulation.wake
    split <;> exact ⟨rfl, rfl, rfl, rfl, rfl⟩
  obtain ⟨now, attempt, connection, reports, seen⟩ := rest
  refine ⟨now, attempt, by rw [connection], ⟨[], reports.trans (List.append_nil _).symm,
    List.forall_mem_nil _⟩, fun lined => ⟨nodup_wake lined.once task, fun some => ?_⟩, ?_,
    ⟨[], (congrArg List.reverse seen).trans (List.append_nil _).symm, List.forall_mem_nil _⟩⟩
  · rw [reports] at some
    exact mem_wake.mpr (.inl (lined.waiting some))
  · exact mem_wake.trans (or_iff_left fun same => other same.symm)

theorem close (number : Nat) (simulation : Simulation) :
    simulation.Spares (simulation.close number) where
  now := rfl
  attempt := rfl
  engine := rfl
  reports := ⟨[], (List.append_nil _).symm, List.forall_mem_nil _⟩
  lined lined := ⟨lined.once.filter _, fun some =>
    List.mem_filter.mpr ⟨lined.waiting some, rfl⟩⟩
  dial := ⟨fun member => List.mem_of_mem_filter member,
    fun member => List.mem_filter.mpr ⟨member, rfl⟩⟩
  seen := ⟨[.closed number], chronicle_see _ _,
    fun _ member => List.mem_singleton.mp member ▸ rfl⟩

theorem deliver (ticket : Nat) (outcome : Outcome) (simulation : Simulation) :
    simulation.Spares (simulation.deliver ticket outcome) := by
  unfold Simulation.deliver
  split
  · exact wake simulation (.awaiter ticket outcome) nofun
  · exact see simulation (.result simulation.now ticket (.outcome outcome)) rfl

/-- A report that does not tell how an attempt ended. -/
theorem report {report : Report} (plain : concludes report = false) (generation : Nat)
    (simulation : Simulation) : simulation.Spares (simulation.report generation report) := by
  unfold Simulation.report
  split
  · let mailed : Simulation :=
      { simulation with reports := simulation.reports ++ [(generation, report)] }
    have waked := wake mailed .engine nofun
    have same : (mailed.wake .engine).reports = mailed.reports := by
      unfold Simulation.wake
      split <;> rfl
    refine ⟨waked.now, waked.attempt, waked.engine, ⟨[(generation, report)], same,
      fun entry member => List.mem_singleton.mp member ▸ plain⟩, fun lined =>
        ⟨@nodup_wake mailed lined.once .engine, fun _ => mem_wake.mpr (.inr rfl)⟩, waked.dial,
          waked.seen⟩
  · exact refl simulation

theorem reports_of {reports : List Report} (plain : ∀ report ∈ reports, concludes report = false)
    (generation : Nat) (simulation : Simulation) :
    simulation.Spares (reports.foldl (fun simulation report => simulation.report generation report)
      simulation) := by
  induction reports generalizing simulation with
  | nil => exact refl simulation
  | cons first rest ih =>
      exact (report (plain first List.mem_cons_self) generation simulation).trans
        (ih (fun other member => plain other (List.mem_cons_of_mem first member)) _)

/-- What the engine does that has nothing to do with attempts. -/
theorem perform {effect : Effect} (quiet : Effect.isBidding effect = false)
    (simulation : Simulation) : simulation.Spares (simulation.perform effect) := by
  have seen : simulation.Spares (simulation.see (.engine simulation.now effect)) :=
    see simulation (.engine simulation.now effect) quiet
  have obeyed (simulation : Simulation) : simulation.Spares (simulation.obey effect) := by
    cases effect with
    | resolved ticket outcome => exact deliver ticket outcome simulation
    | abandoned ticket =>
        simp only [Simulation.obey]
        split
        · exact wake simulation (.awaiter ticket .error) Task.noConfusion
        · exact refl simulation
    | handed number write =>
        have changed : simulation.Spares (simulation.onSocket number fun socket =>
            { socket with writer := socket.writer.hand write.octets }) :=
          of_same rfl rfl rfl rfl rfl rfl
        exact changed.trans (wake _ (.writer number) Task.noConfusion)
    | closed number => exact close number simulation
    | dialed generation => cases quiet
    | hungUp => cases quiet
    | attached number => cases quiet
    | _ => exact refl simulation
  exact seen.trans (obeyed _)

theorem performs {effects : List Effect}
    (quiet : ∀ effect ∈ effects, Effect.isBidding effect = false) (simulation : Simulation) :
    simulation.Spares (effects.foldl Simulation.perform simulation) := by
  induction effects generalizing simulation with
  | nil => exact refl simulation
  | cons effect rest ih =>
      exact (perform (quiet effect List.mem_cons_self) simulation).trans
        (ih (fun other member => quiet other (List.mem_cons_of_mem effect member)) _)

theorem runReader (number : Nat) (simulation : Simulation) :
    simulation.Spares (simulation.runReader number) := by
  unfold Simulation.runReader
  split
  · exact refl simulation
  · next socket found =>
      have moved : simulation.Spares (simulation.onSocket number fun _ => socket.read.1) :=
        of_same rfl rfl rfl rfl rfl rfl
      refine moved.trans (reports_of (fun report member => ?_) socket.generation _)
      rcases Socket.mem_read member with ⟨packet, rfl⟩ | ⟨fault, rfl⟩ <;> rfl

theorem runWriter (number : Nat) (simulation : Simulation) :
    simulation.Spares (simulation.runWriter number) := by
  unfold Simulation.runWriter
  split
  · exact refl simulation
  · next socket found =>
      let written := socket.write
      let moved := simulation.onSocket number fun _ => written.socket
      let sent := if written.sent.isEmpty then moved else moved.see (.sent number written.sent)
      let answered := if written.echo.isEmpty then sent
        else (sent.see (.arrived number written.echo)).wake (.reader number)
      have first : simulation.Spares moved := of_same rfl rfl rfl rfl rfl rfl
      have second : moved.Spares sent := by
        unfold sent
        split
        · exact refl moved
        · exact see moved (.sent number written.sent) rfl
      have third : sent.Spares answered := by
        unfold answered
        split
        · exact refl sent
        · exact (see sent (.arrived number written.echo) rfl).trans
            (wake _ (.reader number) nofun)
      have last : answered.Spares (written.report.elim answered fun report =>
          answered.report socket.generation report) := by
        cases reported : written.report with
        | none => exact refl answered
        | some told =>
            refine report ?_ socket.generation answered
            rcases Socket.mem_write (Option.mem_def.mpr reported) with rfl | ⟨failure, part, rfl⟩ <;>
              rfl
      exact ((first.trans second).trans third).trans last

end Spares

end Simulation

end RequestMux.Network
