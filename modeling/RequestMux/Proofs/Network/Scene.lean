import Mathlib.Logic.Relation
import RequestMux.Network.Operation
import RequestMux.Proofs.Client.Turns

/-!
# The scene of a simulation

A scene is what a simulation consists of but for the order in which its tasks run and
the time: the engine, the reports it has not taken, the attempt, the sockets, and the
record of what the engine heard and did and of what went over the wires.  A simulation
goes on in beats, which are onsets and ticks of the engine, and single actions of the
network.
-/

namespace RequestMux.Network

open Client (Connection Effect Engine Onset Report Stimulus Tick Time)
open Link (Script)
open Wire (Piece)

/-- Whether a sight belongs to the record: what callers learn does not, nor when attempts
begin. -/
def Sight.isRecorded : Sight → Bool
  | .result _ _ _ => false
  | .attempt _ _ => false
  | _ => true

def Sight.effect? : Sight → Option Effect
  | .engine _ effect => some effect
  | _ => none

/-- What the engine did, in order. -/
def effectsIn (record : List Sight) : List Effect := record.filterMap Sight.effect?

@[simp]
theorem effectsIn_append (record more : List Sight) :
    effectsIn (record ++ more) = effectsIn record ++ effectsIn more :=
  List.filterMap_append

namespace Socket

variable (socket : Socket) (pieces : List Piece)

@[simp]
theorem number_arrive : (socket.arrive pieces).number = socket.number := by
  unfold arrive
  split <;> rfl

@[simp]
theorem generation_arrive : (socket.arrive pieces).generation = socket.generation := by
  unfold arrive
  split <;> rfl

@[simp]
theorem isOpen_arrive : (socket.arrive pieces).isOpen = socket.isOpen := by
  unfold arrive
  split <;> rfl

@[simp]
theorem writer_arrive : (socket.arrive pieces).writer = socket.writer := by
  unfold arrive
  split <;> rfl

@[simp]
theorem number_write : socket.write.socket.number = socket.number :=
  number_arrive _ _

@[simp]
theorem generation_write : socket.write.socket.generation = socket.generation :=
  generation_arrive _ _

@[simp]
theorem isOpen_write : socket.write.socket.isOpen = socket.isOpen :=
  isOpen_arrive _ _

@[simp]
theorem writer_write :
    socket.write.socket.writer = (socket.writer.run socket.script).writer :=
  writer_arrive _ _

end Socket

section Places

variable {Item : Type} {items : List Item} {place : Nat} {item : Item}

/-- An item after one was changed is one that was there, changed or not. -/
theorem of_modify {number : Nat} {change : Item → Item}
    (there : (items.modify number change)[place]? = some item) :
    ∃ prior, items[place]? = some prior ∧
      (place = number ∧ item = change prior ∨ place ≠ number ∧ item = prior) := by
  rw [List.getElem?_modify] at there
  cases old : items[place]? with
  | none =>
      rw [old] at there
      cases there
  | some prior =>
      rw [old] at there
      have found : (if number = place then change prior else prior) = item := Option.some.inj there
      refine ⟨prior, rfl, ?_⟩
      by_cases here : number = place
      · rw [if_pos here] at found
        exact .inl ⟨here.symm, found.symm⟩
      · rw [if_neg here] at found
        exact .inr ⟨fun same => here same.symm, found.symm⟩

theorem of_push {new : Item} (there : (items ++ [new])[place]? = some item) :
    items[place]? = some item ∨ place = items.length ∧ item = new := by
  rw [List.getElem?_append] at there
  split at there
  · exact .inl there
  · next beyond =>
      have bound := (List.getElem?_eq_some_iff.mp there).1
      rw [List.length_singleton] at bound
      have here : place = items.length := by omega
      rw [here, Nat.sub_self] at there
      exact .inr ⟨here, (Option.some.inj there).symm⟩

end Places

structure Scene where
  engine : Engine
  inbox : List (Nat × Report)
  attempt : Option Attempt
  sockets : List Socket
  record : List Sight

/-- What was seen, in order, but for what does not belong to the record. -/
def Simulation.record (simulation : Simulation) : List Sight :=
  simulation.seen.reverse.filter Sight.isRecorded

def Simulation.scene (simulation : Simulation) : Scene :=
  ⟨simulation.connection.engine, simulation.reports, simulation.attempt, simulation.sockets,
    simulation.record⟩

namespace Scene

def note (sights : List Sight) (scene : Scene) : Scene :=
  { scene with record := scene.record ++ sights }

def onSocket (number : Nat) (change : Socket → Socket) (scene : Scene) : Scene :=
  { scene with sockets := scene.sockets.modify number change }

/-- Reports of a task for the engine, if it still runs. -/
def mail (generation : Nat) (reports : List Report) (scene : Scene) : Scene :=
  if scene.engine.life = .running then
    { scene with inbox := scene.inbox ++ reports.map fun report => (generation, report) }
  else scene

/-- What an effect does to the network. -/
def obey (scene : Scene) : Effect → Scene
  | .handed number write =>
      scene.onSocket number fun socket => { socket with writer := socket.writer.hand write.octets }
  | .dialed generation => { scene with attempt := some ⟨generation, .unstarted⟩ }
  | .hungUp => { scene with attempt := none }
  | .closed number =>
      (scene.onSocket number fun socket => { socket with isOpen := false }).note [.closed number]
  | _ => scene

def perform (now : Time) (scene : Scene) (effect : Effect) : Scene :=
  (scene.note [.engine now effect]).obey effect

def performAll (now : Time) (effects : List Effect) (scene : Scene) : Scene :=
  effects.foldl (perform now) scene

def withEngine (engine : Engine) (scene : Scene) : Scene := { scene with engine }

def withInbox (inbox : List (Nat × Report)) (scene : Scene) : Scene := { scene with inbox }

@[simp]
theorem note_nil (scene : Scene) : scene.note [] = scene :=
  congrArg (Scene.mk _ _ _ _) (List.append_nil _)

theorem note_note (scene : Scene) (sights more : List Sight) :
    (scene.note sights).note more = scene.note (sights ++ more) :=
  congrArg (Scene.mk _ _ _ _) (List.append_assoc _ _ _)

theorem mail_running (scene : Scene) (running : scene.engine.life = .running) (generation : Nat)
    (reports : List Report) :
    scene.mail generation reports =
      { scene with inbox := scene.inbox ++ reports.map fun report => (generation, report) } :=
  if_pos running

theorem mail_over (scene : Scene) (ceased : scene.engine.life ≠ .running) (generation : Nat)
    (reports : List Report) : scene.mail generation reports = scene :=
  if_neg ceased

@[simp]
theorem mail_nil (generation : Nat) (scene : Scene) : scene.mail generation [] = scene := by
  unfold mail
  split
  · exact congrArg (Scene.mk _ · _ _ _) (List.append_nil _)
  · rfl

@[simp]
theorem performAll_append (now : Time) (effects more : List Effect) (scene : Scene) :
    scene.performAll now (effects ++ more) = (scene.performAll now effects).performAll now more :=
  List.foldl_append

theorem perform_withEngine (now : Time) (scene : Scene) (engine : Engine) (effect : Effect) :
    (scene.withEngine engine).perform now effect = (scene.perform now effect).withEngine engine := by
  cases effect <;> rfl

theorem perform_withInbox (now : Time) (scene : Scene) (inbox : List (Nat × Report))
    (effect : Effect) :
    (scene.withInbox inbox).perform now effect = (scene.perform now effect).withInbox inbox := by
  cases effect <;> rfl

theorem performAll_withEngine (now : Time) (effects : List Effect) (scene : Scene)
    (engine : Engine) :
    (scene.withEngine engine).performAll now effects =
      (scene.performAll now effects).withEngine engine := by
  induction effects generalizing scene with
  | nil => rfl
  | cons effect rest ih =>
      change ((scene.withEngine engine).perform now effect).performAll now rest = _
      rw [perform_withEngine]
      exact ih (scene.perform now effect)

theorem performAll_withInbox (now : Time) (effects : List Effect) (scene : Scene)
    (inbox : List (Nat × Report)) :
    (scene.withInbox inbox).performAll now effects =
      (scene.performAll now effects).withInbox inbox := by
  induction effects generalizing scene with
  | nil => rfl
  | cons effect rest ih =>
      change ((scene.withInbox inbox).perform now effect).performAll now rest = _
      rw [perform_withInbox]
      exact ih (scene.perform now effect)

@[simp]
theorem perform_engine (now : Time) (scene : Scene) (effect : Effect) :
    (scene.perform now effect).engine = scene.engine := by
  cases effect <;> rfl

@[simp]
theorem perform_inbox (now : Time) (scene : Scene) (effect : Effect) :
    (scene.perform now effect).inbox = scene.inbox := by
  cases effect <;> rfl

@[simp]
theorem performAll_engine (now : Time) (effects : List Effect) (scene : Scene) :
    (scene.performAll now effects).engine = scene.engine := by
  induction effects generalizing scene with
  | nil => rfl
  | cons effect rest ih => exact (ih (scene.perform now effect)).trans (perform_engine now scene effect)

@[simp]
theorem performAll_inbox (now : Time) (effects : List Effect) (scene : Scene) :
    (scene.performAll now effects).inbox = scene.inbox := by
  induction effects generalizing scene with
  | nil => rfl
  | cons effect rest ih => exact (ih (scene.perform now effect)).trans (perform_inbox now scene effect)

theorem effectsIn_perform (now : Time) (scene : Scene) (effect : Effect) :
    effectsIn (scene.perform now effect).record = effectsIn scene.record ++ [effect] := by
  have noted : effectsIn (scene.note [.engine now effect]).record = effectsIn scene.record ++ [effect] :=
    effectsIn_append _ _
  cases effect with
  | closed number =>
      change effectsIn ((scene.note [.engine now (.closed number)]).record ++ [.closed number]) = _
      rw [effectsIn_append, noted]
      exact List.append_nil _
  | _ => exact noted

@[simp]
theorem effectsIn_performAll (now : Time) (effects : List Effect) (scene : Scene) :
    effectsIn (scene.performAll now effects).record = effectsIn scene.record ++ effects := by
  induction effects generalizing scene with
  | nil => exact (List.append_nil _).symm
  | cons effect rest ih =>
      change effectsIn ((scene.perform now effect).performAll now rest).record = _
      rw [ih, effectsIn_perform, List.append_assoc]
      rfl

/-- What is seen of an effect. -/
def sightsOf (now : Time) : Effect → List Sight
  | .closed number => [.engine now (.closed number), .closed number]
  | effect => [.engine now effect]

theorem record_performAll (now : Time) (effects : List Effect) (scene : Scene) :
    (scene.performAll now effects).record = scene.record ++ effects.flatMap (sightsOf now) := by
  have one (scene : Scene) (effect : Effect) :
      (scene.perform now effect).record = scene.record ++ sightsOf now effect := by
    cases effect with
    | closed number => exact List.append_assoc _ _ _
    | _ => rfl
  induction effects generalizing scene with
  | nil => exact (List.append_nil _).symm
  | cons effect rest ih =>
      change ((scene.perform now effect).performAll now rest).record = _
      rw [ih, one, List.append_assoc, List.flatMap_cons]

theorem mem_sightsOf {now time : Time} {effects : List Effect} {effect : Effect}
    (member : .engine time effect ∈ effects.flatMap (sightsOf now)) : effect ∈ effects := by
  obtain ⟨other, here, seen⟩ := List.mem_flatMap.mp member
  have same : effect = other := by
    cases other with
    | closed number =>
        rcases List.mem_cons.mp seen with first | second
        · exact (Sight.engine.inj first).2
        · cases List.mem_singleton.mp second
    | _ => exact (Sight.engine.inj (List.mem_singleton.mp seen)).2
  exact same ▸ here

@[simp]
theorem mail_engine (scene : Scene) (generation : Nat) (reports : List Report) :
    (scene.mail generation reports).engine = scene.engine := by
  unfold mail
  split <;> rfl

@[simp]
theorem mail_record (scene : Scene) (generation : Nat) (reports : List Report) :
    (scene.mail generation reports).record = scene.record := by
  unfold mail
  split <;> rfl

@[simp]
theorem mail_sockets (scene : Scene) (generation : Nat) (reports : List Report) :
    (scene.mail generation reports).sockets = scene.sockets := by
  unfold mail
  split <;> rfl

end Scene

namespace Simulation

open Scene

theorem record_see (simulation : Simulation) (sight : Sight) :
    (simulation.see sight).record = simulation.record ++ [sight].filter Sight.isRecorded := by
  simp [record, see]

theorem scene_see (simulation : Simulation) (sight : Sight) :
    (simulation.see sight).scene = simulation.scene.note ([sight].filter Sight.isRecorded) := by
  simp only [scene, record_see]
  rfl

@[simp]
theorem scene_wake (simulation : Simulation) (task : Task) :
    (simulation.wake task).scene = simulation.scene := by
  unfold wake
  split <;> rfl

theorem scene_close (simulation : Simulation) (number : Nat) :
    (simulation.close number).scene = simulation.scene.obey (.closed number) :=
  scene_see _ _

theorem scene_obey (simulation : Simulation) (effect : Effect) :
    (simulation.obey effect).scene = simulation.scene.obey effect := by
  cases effect with
  | resolved ticket outcome =>
      change (simulation.deliver ticket outcome).scene = simulation.scene
      unfold deliver
      split
      · exact scene_wake _ _
      · rw [scene_see]
        exact Scene.note_nil _
  | abandoned ticket =>
      simp only [Simulation.obey]
      split
      · exact scene_wake _ _
      · rfl
  | handed number write => exact scene_wake _ _
  | dialed generation => exact scene_wake _ _
  | attached number => exact (scene_wake _ _).trans (scene_wake _ _)
  | closed number => exact scene_close simulation number
  | _ => rfl

theorem now_obey (simulation : Simulation) (effect : Effect) :
    (simulation.obey effect).now = simulation.now := by
  have wakes (simulation : Simulation) (task : Task) :
      (simulation.wake task).now = simulation.now := by
    unfold wake
    split <;> rfl
  cases effect with
  | resolved ticket outcome =>
      change (simulation.deliver ticket outcome).now = simulation.now
      unfold deliver
      split
      · exact wakes _ _
      · rfl
  | abandoned ticket =>
      simp only [Simulation.obey]
      split
      · exact wakes _ _
      · rfl
  | handed number write => exact wakes _ _
  | dialed generation => exact wakes _ _
  | attached number => exact (wakes _ _).trans (wakes _ _)
  | _ => rfl

theorem scene_perform (simulation : Simulation) (effect : Effect) :
    (simulation.perform effect).scene = simulation.scene.perform simulation.now effect := by
  rw [Simulation.perform, scene_obey, scene_see]
  rfl

theorem scene_performs (simulation : Simulation) (effects : List Effect) :
    (effects.foldl Simulation.perform simulation).scene =
      simulation.scene.performAll simulation.now effects := by
  induction effects generalizing simulation with
  | nil => rfl
  | cons effect rest ih =>
      have now : (simulation.perform effect).now = simulation.now := now_obey _ effect
      rw [List.foldl_cons, ih, scene_perform, now]
      rfl

theorem scene_accept (simulation : Simulation) (reaction : Connection × List Effect) :
    (simulation.accept reaction).scene =
      (simulation.scene.performAll simulation.now reaction.2).withEngine reaction.1.engine := by
  rw [Simulation.accept, scene_performs, ← performAll_withEngine]
  rfl

theorem scene_report (simulation : Simulation) (generation : Nat) (report : Report) :
    (simulation.report generation report).scene = simulation.scene.mail generation [report] := by
  unfold Simulation.report Scene.mail
  by_cases running : simulation.scene.engine.life = .running
  · have runs : simulation.isRunning = true := beq_iff_eq.mpr running
    rw [if_pos runs, if_pos running, scene_wake]
    rfl
  · have rests : ¬simulation.isRunning = true := fun runs => running (beq_iff_eq.mp runs)
    rw [if_neg rests, if_neg running]

theorem scene_reports (simulation : Simulation) (generation : Nat) (reports : List Report) :
    (reports.foldl (fun simulation report => simulation.report generation report)
      simulation).scene = simulation.scene.mail generation reports := by
  induction reports generalizing simulation with
  | nil => exact (Scene.mail_nil _ _).symm
  | cons report rest ih =>
      rw [List.foldl_cons, ih, scene_report]
      unfold Scene.mail
      by_cases running : simulation.scene.engine.life = .running
      · simp [running]
      · simp [running]

end Simulation

end RequestMux.Network
