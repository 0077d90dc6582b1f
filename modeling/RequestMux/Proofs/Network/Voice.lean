import RequestMux.Proofs.Network.Scene

/-!
# The voice of a simulation

The voice is the time, the connection, and what the engine heard and did.  Tasks of the
network leave it as it is; it changes only where the handle is used, where the engine is told
something, and where time passes.
-/

namespace RequestMux.Network

open Client (Connection Effect Report Stimulus Time)

/-- Whether a sight is something that the engine heard or did. -/
def Sight.isSpoken : Sight → Bool
  | .heard _ _ => true
  | .engine _ _ => true
  | _ => false

namespace Simulation

/-- What the engine heard and did, in order. -/
def spoken (simulation : Simulation) : List Sight := simulation.record.filter Sight.isSpoken

def voice (simulation : Simulation) : Time × Connection × List Sight :=
  (simulation.now, simulation.connection, simulation.spoken)

theorem spoken_see (simulation : Simulation) (sight : Sight) :
    (simulation.see sight).spoken = simulation.spoken ++ [sight].filter Sight.isSpoken := by
  have only : ([sight].filter Sight.isRecorded).filter Sight.isSpoken =
      [sight].filter Sight.isSpoken := by
    cases sight <;> rfl
  rw [spoken, record_see, List.filter_append, only]
  rfl

theorem connection_of_voice {before after : Simulation} (same : after.voice = before.voice) :
    after.connection = before.connection :=
  congrArg (fun voice => voice.2.1) same

/-! What is not spoken, and every task of the network, leaves the voice as it is. -/

variable (simulation : Simulation)

theorem voice_see {sight : Sight} (silent : sight.isSpoken = false) :
    (simulation.see sight).voice = simulation.voice := by
  have same : (simulation.see sight).spoken = simulation.spoken := by
    rw [spoken_see, List.filter_cons_of_neg (by simp [silent])]
    exact List.append_nil _
  exact congrArg (fun spoken => (simulation.now, simulation.connection, spoken)) same

@[simp]
theorem voice_wake (task : Task) : (simulation.wake task).voice = simulation.voice := by
  unfold wake
  split <;> rfl

@[simp]
theorem voice_close (number : Nat) : (simulation.close number).voice = simulation.voice :=
  voice_see _ rfl

@[simp]
theorem voice_obey (effect : Effect) : (simulation.obey effect).voice = simulation.voice := by
  cases effect with
  | resolved ticket outcome =>
      simp only [obey, deliver]
      split
      · exact voice_wake _ _
      · exact voice_see _ rfl
  | abandoned ticket =>
      simp only [obey]
      split
      · exact voice_wake _ _
      · rfl
  | handed number write => exact voice_wake _ _
  | dialed generation => exact voice_wake _ _
  | attached number => exact (voice_wake _ _).trans (voice_wake _ _)
  | closed number => exact voice_close _ _
  | _ => rfl

@[simp]
theorem voice_report (generation : Nat) (report : Report) :
    (simulation.report generation report).voice = simulation.voice := by
  unfold Simulation.report
  split
  · exact voice_wake _ _
  · rfl

@[simp]
theorem voice_acceptSocket (generation : Nat) (plan : Plan) (reportAt : Time) :
    (simulation.acceptSocket generation plan reportAt).voice = simulation.voice := by
  have accepted (sockets : List Socket) (number : Nat) (nodelay : Bool) :
      ({ simulation with sockets }.see (.accepted number nodelay)).voice = simulation.voice :=
    voice_see _ rfl
  unfold acceptSocket
  dsimp only
  split
  · exact (voice_close _ _).trans (accepted _ _ _)
  · split
    · exact (voice_report _ _ _).trans (accepted _ _ _)
    · exact (voice_close _ _).trans (accepted _ _ _)

@[simp]
theorem voice_proceed (attempt : Attempt) :
    (simulation.proceed attempt).voice = simulation.voice := by
  unfold proceed
  split
  · rfl
  · exact voice_acceptSocket _ _ _ _
  · exact voice_report _ _ _

theorem voice_dial : simulation.dial.voice = simulation.voice := by
  have begun (plans : List Plan) (attempts : Nat) (attempt : Option Attempt) :
      ({ simulation with plans, attempts, attempt }.see
        (.attempt simulation.now simulation.attempts)).voice = simulation.voice :=
    voice_see _ rfl
  unfold dial
  split
  · rfl
  · dsimp only
    split
    · split
      · exact (voice_proceed _ _).trans (begun _ _ _)
      · exact begun _ _ _
    · exact begun _ _ _

theorem voice_runReader (number : Nat) :
    (simulation.runReader number).voice = simulation.voice := by
  have kept (reports : List Report) (generation : Nat) (simulation : Simulation) :
      (reports.foldl (fun simulation report => simulation.report generation report)
        simulation).voice = simulation.voice := by
    induction reports generalizing simulation with
    | nil => rfl
    | cons report rest ih => exact (ih _).trans (voice_report simulation generation report)
  unfold runReader
  split
  · rfl
  · exact kept _ _ _

theorem voice_runWriter (number : Nat) :
    (simulation.runWriter number).voice = simulation.voice := by
  unfold runWriter
  split
  · rfl
  · next socket there =>
      let written := socket.write
      let moved := simulation.onSocket number fun _ => written.socket
      let sent := if written.sent.isEmpty then moved else moved.see (.sent number written.sent)
      let answered := if written.echo.isEmpty then sent
        else (sent.see (.arrived number written.echo)).wake (.reader number)
      have sentSame : sent.voice = simulation.voice := by
        unfold sent
        split
        · rfl
        · exact voice_see _ rfl
      have same : answered.voice = simulation.voice := by
        unfold answered
        split
        · exact sentSame
        · exact (voice_wake _ _).trans ((voice_see _ rfl).trans sentSame)
      change (written.report.elim answered fun report =>
        answered.report socket.generation report).voice = _
      cases written.report with
      | none => exact same
      | some report => exact (voice_report _ _ _).trans same

/-- What the engine does is seen, and done. -/
theorem voice_accept (reaction : Connection × List Effect) :
    (simulation.accept reaction).voice = (simulation.now, reaction.1,
      simulation.spoken ++ reaction.2.map (.engine simulation.now)) := by
  have performs (effects : List Effect) (simulation : Simulation) :
      (effects.foldl perform simulation).voice = (simulation.now, simulation.connection,
        simulation.spoken ++ effects.map (.engine simulation.now)) := by
    induction effects generalizing simulation with
    | nil => exact congrArg (fun spoken => (_, _, spoken)) (List.append_nil _).symm
    | cons effect rest ih =>
        have performed : (simulation.perform effect).voice = (simulation.now, simulation.connection,
            simulation.spoken ++ [.engine simulation.now effect]) :=
          (voice_obey _ effect).trans (congrArg (fun spoken => (_, _, spoken)) (spoken_see _ _))
        simp only [voice, Prod.mk.injEq] at performed
        obtain ⟨now, connection, spoken⟩ := performed
        rw [List.foldl_cons, ih, now, connection, spoken, List.append_assoc]
        rfl
  exact performs reaction.2 _

@[simp]
theorem connection_accept (reaction : Connection × List Effect) :
    (simulation.accept reaction).connection = reaction.1 :=
  congrArg (fun voice => voice.2.1) (voice_accept simulation reaction)

/-- What the engine is told and what it does about it stand one behind the other. -/
theorem spoken_accept_hear (stimulus : Stimulus) (reaction : Connection × List Effect) :
    ((simulation.hear stimulus).accept reaction).spoken = simulation.spoken ++
      .heard simulation.now stimulus :: reaction.2.map (.engine simulation.now) := by
  have voice := voice_accept (simulation.hear stimulus) reaction
  have heard := spoken_see simulation (.heard simulation.now stimulus)
  refine (congrArg (fun voice => voice.2.2) voice).trans ?_
  exact (congrArg (· ++ _) heard).trans (List.append_assoc _ _ _)

end Simulation

end RequestMux.Network
