import RequestMux.Proofs.Network.Scene

/-!
# The beats of a simulation

A beat is an onset or a tick of the engine, together with what its effects do to the
network, or a single action of the network.
-/

namespace RequestMux.Network

open Client (Board Command Connection Effect Engine Onset Report Stimulus Tick Time)
open Link (Script)
open Wire (Piece)

/-- What the engine hears comes from the inbox if it is a report. -/
def Takes (stimulus : Stimulus) (inbox rest : List (Nat × Report)) : Prop :=
  match stimulus with
  | .report generation report => inbox = (generation, report) :: rest
  | _ => inbox = rest

/-- The sights of a run of a writer. -/
def Socket.Written.sights (number : Nat) (written : Socket.Written) : List Sight :=
  (if written.sent.isEmpty then [] else [.sent number written.sent]) ++
    if written.echo.isEmpty then [] else [.arrived number written.echo]

/-- What a run of a writer does to its socket is nothing to the engine. -/
@[simp]
theorem effectsIn_sights (written : Socket.Written) (number : Nat) :
    effectsIn (written.sights number) = [] := by
  unfold Socket.Written.sights
  split <;> split <;> rfl

inductive Beat : Scene → Scene → Prop where
  /-- The handle changes what it shares with the engine. -/
  | show_ (scene : Scene) (board : Board) :
      Beat scene (scene.withEngine { scene.engine with board })
  | hear {scene : Scene} {now : Time} {stimulus : Stimulus} {first : List Effect}
      {middle : Engine} {rest : List (Nat × Report)} (awake : scene.engine.IsAwake)
      (takes : Takes stimulus scene.inbox rest)
      (onset : Onset now scene.engine stimulus first middle) :
      Beat scene ((((scene.withInbox rest).note [.heard now stimulus]).performAll now first).withEngine
        middle)
  /-- An engine that no longer runs hears nothing. -/
  | miss {scene : Scene} {now : Time} {stimulus : Stimulus} {rest : List (Nat × Report)}
      (ceased : scene.engine.life ≠ .running) (takes : Takes stimulus scene.inbox rest) :
      Beat scene ((scene.withInbox rest).note [.heard now stimulus])
  | tick {scene : Scene} {now : Time} {effects : List Effect} {after : Engine}
      (awake : scene.engine.IsAwake) (tick : Tick now scene.engine effects after) :
      Beat scene ((scene.performAll now effects).withEngine after)
  | farewell {scene : Scene} {now : Time} {effects : List Effect}
      (said : ∀ effect ∈ effects, scene.engine.life.isFarewell effect = true) :
      Beat scene (scene.performAll now effects)
  | commence {scene : Scene} {attempt : Attempt} (here : scene.attempt = some attempt)
      (stage : Stage) : Beat scene { scene with attempt := some { attempt with stage } }
  | fail {scene : Scene} {attempt : Attempt} (here : scene.attempt = some attempt)
      (failure : IoFailure) :
      Beat scene ({ scene with attempt := none }.mail attempt.generation [.connectFailed failure])
  | accept {scene : Scene} {attempt : Attempt} (here : scene.attempt = some attempt)
      (running : scene.engine.life = .running) (nodelay echo : Bool) (script : Script) :
      Beat scene (({ scene with
          attempt := none
          sockets := scene.sockets ++ [Socket.fresh scene.sockets.length attempt.generation
            scene.engine.settings.maxPayload echo script] }.note
        [.accepted scene.sockets.length nodelay]).mail attempt.generation
          [.connected scene.sockets.length])
  /-- A new socket is closed at once. -/
  | reject {scene : Scene} {attempt : Attempt} {left : Option Attempt}
      (here : scene.attempt = some attempt)
      (later : ∀ other ∈ left, other.generation = attempt.generation) (nodelay echo : Bool)
      (script : Script) :
      Beat scene ({ scene with
          attempt := left
          sockets := scene.sockets ++ [{ Socket.fresh scene.sockets.length attempt.generation
            scene.engine.settings.maxPayload echo script with isOpen := false }] }.note
        [.accepted scene.sockets.length nodelay, .closed scene.sockets.length])
  | read {scene : Scene} {number : Nat} {socket : Socket}
      (there : scene.sockets[number]? = some socket) (isOpen : socket.isOpen = true) :
      Beat scene ((scene.onSocket number fun _ => socket.read.1).mail socket.generation socket.read.2)
  | write {scene : Scene} {number : Nat} {socket : Socket}
      (there : scene.sockets[number]? = some socket) (isOpen : socket.isOpen = true) :
      Beat scene (((scene.onSocket number fun _ => socket.write.socket).note
        (socket.write.sights number)).mail socket.generation socket.write.report.toList)
  | arrive {scene : Scene} {number : Nat} {socket : Socket}
      (there : scene.sockets[number]? = some socket) (isOpen : socket.isOpen = true)
      (pieces : List Piece) :
      Beat scene ((scene.onSocket number fun socket => socket.arrive pieces).note
        [.arrived number pieces])
  | finish {scene : Scene} {number : Nat} {socket : Socket}
      (there : scene.sockets[number]? = some socket) (isOpen : socket.isOpen = true) :
      Beat scene ((scene.onSocket number Socket.finish).note [.ended number])
  | release (scene : Scene) (number : Nat) : Beat scene (scene.onSocket number Socket.release)
  | prepare (scene : Scene) (number : Nat) (script : Script) :
      Beat scene (scene.onSocket number fun socket => socket.prepare script)

/-- Any number of beats. -/
abbrev Beats : Scene → Scene → Prop := Relation.ReflTransGen Beat

/-- Sockets are numbered as they were accepted. -/
def Scene.IsNumbered (scene : Scene) : Prop :=
  ∀ number (socket : Socket), scene.sockets[number]? = some socket → socket.number = number

namespace Scene.IsNumbered

variable {scene after : Scene}

theorem modify {number : Nat} {change : Socket → Socket} (numbered : scene.IsNumbered)
    (sockets : after.sockets = scene.sockets.modify number change)
    (same : ∀ socket ∈ scene.sockets[number]?, (change socket).number = socket.number) :
    after.IsNumbered := by
  intro place socket there
  rw [sockets] at there
  obtain ⟨prior, old, ⟨rfl, rfl⟩ | ⟨-, rfl⟩⟩ := of_modify there
  · rw [same prior old, numbered place prior old]
  · exact numbered place socket old

theorem push {socket : Socket} (numbered : scene.IsNumbered)
    (sockets : after.sockets = scene.sockets ++ [socket])
    (last : socket.number = scene.sockets.length) : after.IsNumbered := by
  intro place other there
  rw [sockets] at there
  rcases of_push there with old | ⟨rfl, rfl⟩
  · exact numbered place other old
  · exact last

theorem performAll (numbered : scene.IsNumbered) (now : Time) (effects : List Effect) :
    (scene.performAll now effects).IsNumbered := by
  induction effects generalizing scene with
  | nil => exact numbered
  | cons effect rest ih =>
      have performed : (scene.perform now effect).IsNumbered := by
        cases effect with
        | handed number write => exact numbered.modify rfl fun _ _ => rfl
        | closed number => exact numbered.modify rfl fun _ _ => rfl
        | _ => exact numbered
      exact ih performed

theorem mail (numbered : scene.IsNumbered) (generation : Nat) (reports : List Report) :
    (scene.mail generation reports).IsNumbered := by
  unfold Scene.mail
  split
  · exact numbered
  · exact numbered

end Scene.IsNumbered

theorem Beat.isNumbered {scene after : Scene} (beat : Beat scene after)
    (numbered : scene.IsNumbered) : after.IsNumbered := by
  cases beat with
  | show_ board => exact numbered
  | @hear now stimulus first middle rest awake takes onset =>
      have heard : ((scene.withInbox rest).note [.heard now stimulus]).IsNumbered := numbered
      exact heard.performAll now first
  | miss ceased takes => exact numbered
  | tick awake tick => exact numbered.performAll _ _
  | farewell said => exact numbered.performAll _ _
  | commence here stage => exact numbered
  | fail here failure =>
      have failed : ({ scene with attempt := none } : Scene).IsNumbered := numbered
      exact failed.mail _ _
  | accept here running nodelay echo script => exact (numbered.push rfl rfl).mail _ _
  | reject here later nodelay echo script => exact numbered.push rfl rfl
  | read there isOpen =>
      refine Scene.IsNumbered.mail (numbered.modify rfl ?_) _ _
      rintro socket here
      cases there.symm.trans here
      rfl
  | @write number socket there isOpen =>
      refine Scene.IsNumbered.mail (numbered.modify rfl ?_) _ _
      rintro socket here
      cases there.symm.trans here
      exact socket.number_write
  | arrive there isOpen pieces =>
      exact numbered.modify rfl fun socket _ => socket.number_arrive pieces
  | finish there isOpen => exact numbered.modify rfl fun _ _ => rfl
  | release number => exact numbered.modify rfl fun _ _ => rfl
  | prepare number script => exact numbered.modify rfl fun _ _ => rfl

theorem Beats.isNumbered {scene after : Scene} (beats : Beats scene after)
    (numbered : scene.IsNumbered) : after.IsNumbered := by
  induction beats with
  | refl => exact numbered
  | tail _ beat ih => exact beat.isNumbered ih

/-- What a beat is to the engine. -/
inductive Pulse : Scene → Scene → Prop where
  /-- Nothing, but that the handle may change the board. -/
  | rest {scene after : Scene} (board : Board) (sights : List Sight)
      (engine : after.engine = { scene.engine with board })
      (record : after.record = scene.record ++ sights) (silent : effectsIn sights = []) :
      Pulse scene after
  | hear {scene : Scene} {now : Time} {stimulus : Stimulus} {first : List Effect}
      {middle : Engine} {rest : List (Nat × Report)} (awake : scene.engine.IsAwake)
      (takes : Takes stimulus scene.inbox rest)
      (onset : Onset now scene.engine stimulus first middle) :
      Pulse scene ((((scene.withInbox rest).note [.heard now stimulus]).performAll now
        first).withEngine middle)
  | tick {scene : Scene} {now : Time} {effects : List Effect} {after : Engine}
      (awake : scene.engine.IsAwake) (tick : Tick now scene.engine effects after) :
      Pulse scene ((scene.performAll now effects).withEngine after)
  | farewell {scene : Scene} {now : Time} {effects : List Effect}
      (said : ∀ effect ∈ effects, scene.engine.life.isFarewell effect = true) :
      Pulse scene (scene.performAll now effects)

theorem Beat.pulse {scene after : Scene} (beat : Beat scene after) : Pulse scene after := by
  have rests {after : Scene} (engine : after.engine = scene.engine)
      (record : after.record = scene.record) : Pulse scene after :=
    .rest scene.engine.board [] engine (record.trans (List.append_nil _).symm) rfl
  have notes {after : Scene} {sights : List Sight} (engine : after.engine = scene.engine)
      (record : after.record = scene.record ++ sights) (silent : effectsIn sights = []) :
      Pulse scene after := .rest scene.engine.board sights engine record silent
  cases beat with
  | show_ board => exact .rest board [] rfl (List.append_nil _).symm rfl
  | hear awake takes onset => exact .hear awake takes onset
  | miss ceased takes => exact notes rfl rfl rfl
  | tick awake tick => exact .tick awake tick
  | farewell said => exact .farewell said
  | commence here stage => exact rests rfl rfl
  | fail here failure => exact rests (Scene.mail_engine _ _ _) (Scene.mail_record _ _ _)
  | accept here running nodelay echo script =>
      exact notes (Scene.mail_engine _ _ _) (Scene.mail_record _ _ _) rfl
  | reject here later nodelay echo script => exact notes rfl rfl rfl
  | read there isOpen => exact rests (Scene.mail_engine _ _ _) (Scene.mail_record _ _ _)
  | @write number socket there isOpen =>
      exact notes (Scene.mail_engine _ _ _) (Scene.mail_record _ _ _) (effectsIn_sights _ number)
  | arrive there isOpen pieces => exact notes rfl rfl rfl
  | finish there isOpen => exact notes rfl rfl rfl
  | release number => exact rests rfl rfl
  | prepare number script => exact rests rfl rfl

theorem Scene.effectsIn_hear (scene : Scene) (now : Time) (stimulus : Stimulus)
    (rest : List (Nat × Report)) (effects : List Effect) (engine : Engine) :
    effectsIn ((((scene.withInbox rest).note [.heard now stimulus]).performAll now
      effects).withEngine engine).record = effectsIn scene.record ++ effects := by
  change effectsIn (((scene.withInbox rest).note [.heard now stimulus]).performAll now
    effects).record = _
  rw [effectsIn_performAll]
  change effectsIn (scene.record ++ [.heard now stimulus]) ++ effects = _
  rw [effectsIn_append]
  exact congrArg (· ++ effects) (List.append_nil _)

theorem Scene.effectsIn_tick (scene : Scene) (now : Time) (effects : List Effect)
    (engine : Engine) :
    effectsIn ((scene.performAll now effects).withEngine engine).record =
      effectsIn scene.record ++ effects :=
  effectsIn_performAll now effects scene

/-- What reactions of the engine keep, beats keep. -/
theorem Beat.keeps {motive : List Effect → Engine → Prop} (kept : Client.IsKept motive)
    {scene after : Scene} (beat : Beat scene after)
    (holds : motive (effectsIn scene.record) scene.engine) :
    motive (effectsIn after.record) after.engine := by
  cases beat.pulse with
  | rest board sights engine record silent =>
      rw [engine, record, effectsIn_append, silent, List.append_nil]
      exact kept.shown board holds
  | hear awake takes onset =>
      rw [Scene.effectsIn_hear]
      exact kept.onset awake onset holds
  | tick awake tick =>
      rw [Scene.effectsIn_tick]
      exact kept.tick awake tick holds
  | farewell said =>
      rw [Scene.effectsIn_performAll, Scene.performAll_engine]
      exact kept.ends said holds

/-- Ticks are beats. -/
theorem beats_of_ticks {now : Time} {engine after : Engine} {effects : List Effect}
    (ticks : Client.Ticks now engine effects after) (scene : Scene) (here : scene.engine = engine) :
    Beats scene ((scene.performAll now effects).withEngine after) := by
  induction ticks generalizing scene with
  | done engine =>
      subst here
      exact .refl
  | @next engine middle after first later awake tick _ ih =>
      subst here
      have more := ih ((scene.performAll now first).withEngine middle) rfl
      rw [Scene.performAll_withEngine, ← Scene.performAll_append] at more
      exact .head (.tick awake tick) more

/-- What a running engine makes of a stimulus is a sequence of beats. -/
theorem Simulation.beats_hearing {simulation : Simulation} {stimulus : Stimulus}
    {inbox rest : List (Nat × Report)} (awake : simulation.connection.engine.IsAwake)
    (takes : Takes stimulus inbox rest) (commands : List Command) :
    Beats (simulation.scene.withInbox inbox)
      (((simulation.hear stimulus).accept (simulation.connection.takeOver commands
        (simulation.connection.engine.step simulation.now stimulus))).scene.withInbox rest) := by
  let reaction := simulation.connection.engine.step simulation.now stimulus
  obtain ⟨board, more, engine, effects, farewell⟩ :=
    simulation.connection.takeOver_cases commands reaction
  obtain ⟨first, middle, later, onset, ticks, reacted⟩ :=
    Client.Engine.step_course simulation.now awake stimulus
  let heard := (simulation.scene.withInbox rest).note [.heard simulation.now stimulus]
  let started := (heard.performAll simulation.now first).withEngine middle
  have beginning : Beat (simulation.scene.withInbox inbox) started :=
    .hear awake takes onset
  have going := beats_of_ticks ticks started rfl
  rw [Scene.performAll_withEngine, ← Scene.performAll_append] at going
  change Beats started ((heard.performAll _ _).withEngine reaction.1) at going
  rw [← reacted] at going
  let ended := ((heard.performAll simulation.now reaction.2).withEngine reaction.1).performAll
    simulation.now more
  have ending : Beat _ ended := .farewell farewell
  have last : Beat ended (ended.withEngine { ended.engine with board }) := .show_ ended board
  have same : ((simulation.hear stimulus).accept (simulation.connection.takeOver commands
      reaction)).scene.withInbox rest = ended.withEngine { ended.engine with board } := by
    have hears : (simulation.hear stimulus).scene = simulation.scene.note [.heard simulation.now stimulus] :=
      scene_see simulation _
    have lastEngine : ended.engine = reaction.1 := Scene.performAll_engine _ _ _
    rw [scene_accept, engine, effects, hears, lastEngine]
    simp only [ended, Scene.performAll_withEngine, Scene.performAll_append]
    exact congrArg (Scene.withEngine _) ((Scene.performAll_withInbox _ _ _ rest).symm.trans
      (congrArg _ (Scene.performAll_withInbox _ _ _ rest).symm))
  rw [same]
  exact (((Relation.ReflTransGen.single beginning).trans going).tail ending).tail last

end RequestMux.Network
