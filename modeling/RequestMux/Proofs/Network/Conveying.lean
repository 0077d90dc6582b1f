import RequestMux.Proofs.Client.Letters
import RequestMux.Proofs.Network.Pacing

/-!
# Letters in a simulation

Callers write letters, and nothing else is asked of a connection.  The letters whose callers have
been told, those that are open and those in the mailbox are, one behind the other, the letters that
were written.  Whatever the engine does for them, it tells callers one after the other and hands
buffers to the writer of its socket; all else that it does is only seen.
-/

namespace RequestMux.Network

open Client (Command Connection Effect Engine Letter Report Stimulus)

/-- What a caller learned, and its ticket. -/
def Sight.result? : Sight → Option (Nat × Ending)
  | .result _ ticket ending => some (ticket, ending)
  | _ => none

/-- The id whose deadline came. -/
def Sight.expiry? : Sight → Option UInt32
  | .engine _ (.expired sync) => some sync
  | _ => none

/-- The caller of a letter gets back the packet that was written. -/
def returned (letter : Letter) : Nat × Ending := (letter.ticket, .outcome (.ok letter.packet))

namespace Simulation

variable {simulation after : Simulation} {settings : Settings}
  {told letters queued posted : List Letter}

/-- What callers learned, in order. -/
def results (simulation : Simulation) : List (Nat × Ending) :=
  simulation.chronicle.filterMap Sight.result?

/-- The ids whose deadlines came, in order. -/
def expiries (simulation : Simulation) : List UInt32 :=
  simulation.chronicle.filterMap Sight.expiry?

/-- What is heard of requests outside. -/
def news (simulation : Simulation) : List (Nat × Ending) × List UInt32 :=
  (simulation.results, simulation.expiries)

/-- The callers of some letters have been told, others wait for a response, and others are in the
mailbox.  The last of those that wait are in the queue. -/
structure Conveys (settings : Settings) (told letters queued posted : List Letter)
    (simulation : Simulation) : Prop where
  handled : simulation.handled = true
  unawaited : simulation.awaited = []
  news : simulation.news = (told.map returned, [])
  mailbox : simulation.connection.mailbox = posted.map Letter.command
  engine : simulation.connection.engine.HasOpen settings letters queued
    (letters.length + posted.length)

/-- Nothing changes in what letters depend on but the connection. -/
structure Bystands (before after : Simulation) : Prop where
  handled : after.handled = before.handled
  awaited : after.awaited = before.awaited
  news : after.news = before.news

theorem news_see {sight : Sight} (silent : sight.result? = none) (early : sight.expiry? = none)
    (simulation : Simulation) : (simulation.see sight).news = simulation.news := by
  simp only [news, results, expiries, chronicle_see, List.filterMap_append, List.filterMap_cons,
    silent, early, List.filterMap_nil, List.append_nil]

namespace Bystands

theorem refl (simulation : Simulation) : simulation.Bystands simulation := ⟨rfl, rfl, rfl⟩

theorem trans {before middle : Simulation} (first : before.Bystands middle)
    (second : middle.Bystands after) : before.Bystands after :=
  ⟨second.handled.trans first.handled, second.awaited.trans first.awaited,
    second.news.trans first.news⟩

theorem see {sight : Sight} (silent : sight.result? = none) (early : sight.expiry? = none)
    (simulation : Simulation) : simulation.Bystands (simulation.see sight) :=
  ⟨rfl, rfl, news_see silent early simulation⟩

theorem wake (task : Task) (simulation : Simulation) :
    simulation.Bystands (simulation.wake task) := by
  unfold Simulation.wake
  split
  · exact refl simulation
  · exact ⟨rfl, rfl, rfl⟩

end Bystands

/-- The letters are as the engine has them. -/
theorem Conveys.take (conveys : simulation.Conveys settings told letters queued posted)
    (bystands : simulation.Bystands after) {others line mailbox : List Letter}
    (mail : after.connection.mailbox = mailbox.map Letter.command)
    (engine : after.connection.engine.HasOpen settings others line
      (others.length + mailbox.length)) :
    after.Conveys settings told others line mailbox :=
  ⟨bystands.handled.trans conveys.handled, bystands.awaited.trans conveys.unawaited,
    bystands.news.trans conveys.news, mail, engine⟩

/-- Nothing but the world around the connection changes. -/
theorem Conveys.bystand (conveys : simulation.Conveys settings told letters queued posted)
    (bystands : simulation.Bystands after) (same : after.connection = simulation.connection) :
    after.Conveys settings told letters queued posted :=
  conveys.take bystands (same ▸ conveys.mailbox) (same ▸ conveys.engine)

/-- When no letter is open and no attempt under way, no timer is set. -/
theorem Conveys.untimed (conveys : simulation.Conveys settings told [] queued posted)
    (idle : simulation.attempt = none) : simulation.nextTimer? = none := by
  have has := conveys.engine
  have entries : simulation.connection.engine.pending.entries = [] :=
    List.map_eq_nil_iff.mp has.pending
  have alarms : simulation.connection.engine.pending.alarms = [] := by
    rw [has.armed.armed, entries]
    rfl
  simp only [nextTimer?, alarmDue?, attemptDue?, pingDue?, Client.Pending.Table.nextAlarm?, alarms,
    idle, has.unpinged]
  rfl

/-- A letter is written, and waits in the mailbox. -/
theorem Conveys.write (conveys : simulation.Conveys settings told letters queued posted)
    (ticket : Nat) (packet : Wire.Packet) :
    ∃ connection : Connection, (simulation.act (.write ticket packet)).2 =
        { simulation with connection } ∧
      ({ simulation with connection } : Simulation).Conveys settings told letters queued
        (posted ++ [⟨ticket, packet⟩]) ∧
      connection.engine.stand = simulation.connection.engine.stand ∧
      connection.engine.pending = simulation.connection.engine.pending := by
  have has := conveys.engine
  let board := simulation.connection.engine.board
  let counted : Engine := { simulation.connection.engine with
    board := { board with outstanding := board.outstanding + 1 } }
  let written : Connection := { simulation.connection with
    engine := counted
    mailbox := simulation.connection.mailbox ++ [.write packet (some ticket)] }
  have submitted : simulation.connection.submit packet (some ticket) = (true, written) := by
    have welcome : simulation.connection.board.shuttingDown = false := has.welcoming
    have admits : ¬(simulation.connection.board.shuttingDown ||
        simulation.connection.engine.life != .running) = true := by
      rw [welcome, has.running]
      exact Bool.false_ne_true
    rw [Connection.submit, if_neg admits]
    refine congrArg (Prod.mk true) ?_
    rw [Connection.post]
    exact if_pos has.running
  refine ⟨written, ?_, ⟨conveys.handled, conveys.unawaited, conveys.news, ?_, ?_⟩, rfl, rfl⟩
  · simp only [act, throughHandle, conveys.handled, if_true, submit, submitted, withConnection]
  · change simulation.connection.mailbox ++ _ = _
    rw [conveys.mailbox, List.map_append]
    rfl
  · have accepted := has.submitted
    rw [← has.outstanding] at accepted
    rw [List.length_append, List.length_singleton, ← Nat.add_assoc, ← has.outstanding]
    exact accepted

/-- What an engine does that is only seen. -/
theorem performs_mute {effects : List Effect} (mute : ∀ effect ∈ effects, effect.isMute = true)
    (simulation : Simulation) :
    ∃ seen, effects.foldl perform simulation = { simulation with seen } ∧
      simulation.Bystands { simulation with seen } := by
  induction effects generalizing simulation with
  | nil => exact ⟨simulation.seen, rfl, .refl simulation⟩
  | cons effect rest ih =>
      obtain ⟨first, others⟩ := List.forall_mem_cons.mp mute
      have seen : simulation.perform effect = simulation.see (.engine simulation.now effect) := by
        cases effect <;> first | rfl | cases first
      have unheard : simulation.Bystands (simulation.see (.engine simulation.now effect)) := by
        refine .see rfl ?_ simulation
        cases effect <;> first | rfl | cases first
      obtain ⟨later, same, still⟩ := ih others (simulation.see (.engine simulation.now effect))
      exact ⟨later, by rw [List.foldl_cons, seen, same]; rfl, unheard.trans still⟩

/-- The engine takes a command and goes on. -/
theorem serve_eq {command : Command} {rest : List Command} {engine : Engine}
    {effects : List Effect} (waiting : simulation.connection.mailbox = command :: rest)
    (stepped : simulation.connection.engine.step simulation.now (.command command) =
      (engine, effects)) (running : engine.life = .running) :
    simulation.serve command = effects.foldl perform { simulation.hear (.command command) with
      connection := { simulation.connection with engine, mailbox := rest } } := by
  simp only [serve, accept, Connection.serve, waiting, stepped, Connection.takeOver, running]

/-- The engine takes something other than a command and goes on. -/
theorem stimulate_eq {stimulus : Stimulus} {engine : Engine} {effects : List Effect}
    (awake : simulation.connection.engine.life = .running)
    (stepped : simulation.connection.engine.step simulation.now stimulus = (engine, effects))
    (running : engine.life = .running) :
    simulation.stimulate stimulus = effects.foldl perform { simulation.hear stimulus with
      connection := { simulation.connection with engine } } := by
  simp only [stimulate, accept, Connection.react, awake, if_true, stepped, Connection.takeOver,
    running]

/-! What is woken, and what is reported. -/

/-- These tasks have joined the line, unless they were in it. -/
structure Rouses (woken : List Task) (before after : Simulation) : Prop where
  kept : ∀ task ∈ before.tasks, task ∈ after.tasks
  present : ∀ task ∈ woken, task ∈ after.tasks
  only : ∀ task ∈ after.tasks, task ∈ before.tasks ∨ task ∈ woken
  fewer : after.tasks.length ≤ before.tasks.length + woken.length

namespace Rouses

theorem of_same {before after : Simulation} (same : after.tasks = before.tasks) :
    before.Rouses [] after where
  kept _ member := same ▸ member
  present := List.forall_mem_nil _
  only _ member := .inl (same ▸ member)
  fewer := Nat.le_of_eq (congrArg List.length same)

theorem wake (task : Task) (simulation : Simulation) :
    simulation.Rouses [task] (simulation.wake task) where
  kept _ member := Spares.mem_wake.mpr (.inl member)
  present _ member := Spares.mem_wake.mpr (.inr (List.mem_singleton.mp member))
  only _ member := (Spares.mem_wake.mp member).imp_right List.mem_singleton.mpr
  fewer := by
    unfold Simulation.wake
    split
    · exact Nat.le_succ _
    · exact Nat.le_of_eq List.length_append

theorem trans {before middle after : Simulation} {first second : List Task}
    (one : before.Rouses first middle) (two : middle.Rouses second after) :
    before.Rouses (first ++ second) after where
  kept task member := two.kept task (one.kept task member)
  present task member := (List.mem_append.mp member).elim
    (fun old => two.kept task (one.present task old)) (two.present task)
  only task member := by
    rw [List.mem_append, ← or_assoc]
    exact (two.only task member).imp_left (one.only task)
  fewer := by
    have := one.fewer
    have := two.fewer
    rw [List.length_append]
    omega

end Rouses

theorem wake_eq (task : Task) (simulation : Simulation) :
    simulation.wake task = { simulation with tasks := (simulation.wake task).tasks } := by
  unfold Simulation.wake
  split <;> rfl

/-- Reports wake the engine once. -/
theorem reports_eq {reports : List Report} (some : reports ≠ [])
    (running : simulation.connection.engine.life = .running) (generation : Nat) :
    reports.foldl (fun simulation report => simulation.report generation report) simulation =
      { simulation with
        reports := simulation.reports ++ reports.map (Prod.mk generation) }.wake .engine := by
  have reported (report : Report) {simulation : Simulation}
      (running : simulation.connection.engine.life = .running) :
      simulation.report generation report =
        { simulation with
          reports := simulation.reports ++ [(generation, report)] }.wake .engine := by
    rw [Simulation.report, if_pos (by rw [isRunning, running]; rfl)]
  induction reports generalizing simulation with
  | nil => exact absurd rfl some
  | cons report rest ih =>
      rw [List.foldl_cons, reported report running]
      cases rest with
      | nil => rfl
      | cons other later =>
          rw [ih (List.cons_ne_nil _ _) (by rw [wake_eq]; exact running)]
          unfold wake
          by_cases there : Task.engine ∈ simulation.tasks
          · simp [there]
          · simp [there]

end Simulation

end RequestMux.Network
