import RequestMux.Proofs.Client.Passage
import RequestMux.Proofs.Network.Wired

/-!
# Sockets that are not served

A writer is handed buffers only while its socket is served, and the engine closes a socket as it
lets go of it.  So the writer of every other open socket has nothing to write.
-/

namespace RequestMux.Network

open Client (Effect Engine Onset Report Stimulus Tick Time)
open Link (Writer)

namespace Socket

/-- Whether the writer has nothing to write. -/
structure IsUnused (socket : Socket) : Prop where
  held : socket.writer.held = none
  waiting : socket.writer.waiting = []

/-- A run of such a writer does nothing. -/
theorem IsUnused.write {socket : Socket} (unused : socket.IsUnused) :
    socket.write = ⟨socket, [], none, []⟩ := by
  have idle : socket.writer.run socket.script = ⟨[], none, socket.writer, socket.script⟩ := by
    unfold Writer.run
    rw [unused.held, unused.waiting]
    dsimp only
    split <;> rfl
  have silent : (socket.echo && !([] : Bytes).isEmpty) = false := Bool.and_false _
  unfold Socket.write
  rw [idle]
  dsimp only
  rw [silent, if_neg Bool.false_ne_true]
  unfold Socket.arrive
  split
  · rfl
  · exact congrArg (fun pieces => (⟨{ socket with pieces }, [], none, []⟩ : Socket.Written))
      (List.append_nil _)

end Socket

namespace Scene

/-- Whether every open socket that is not served has a writer with nothing to write. -/
def IsTidy (scene : Scene) : Prop :=
  ∀ number (socket : Socket), scene.sockets[number]? = some socket → socket.isOpen = true →
    scene.engine.link = some number ∨ socket.IsUnused

/-- What is open after effects that hand nothing over was there before, and they did not
close it. -/
theorem of_performAll {scene : Scene} {now : Time} {effects : List Effect} {place : Nat}
    {socket : Socket} (unhanded : ∀ effect ∈ effects, effect.handed? = none)
    (there : (scene.performAll now effects).sockets[place]? = some socket)
    (isOpen : socket.isOpen = true) :
    scene.sockets[place]? = some socket ∧ .closed place ∉ effects := by
  induction effects generalizing scene with
  | nil => exact ⟨there, List.not_mem_nil⟩
  | cons effect rest ih =>
      obtain ⟨here, spared⟩ :=
        ih (fun other member => unhanded other (List.mem_cons_of_mem effect member)) there
      have same (kept : (scene.perform now effect).sockets = scene.sockets)
          (other : effect ≠ .closed place) :
          scene.sockets[place]? = some socket ∧ .closed place ∉ effect :: rest :=
        ⟨kept ▸ here, fun member => (List.mem_cons.mp member).elim (other ·.symm) spared⟩
      cases effect with
      | handed number write => exact nomatch unhanded _ List.mem_cons_self
      | closed number =>
          obtain ⟨prior, old, ⟨rfl, rfl⟩ | ⟨differs, rfl⟩⟩ := of_modify here
          · cases isOpen
          · refine ⟨old, fun member => (List.mem_cons.mp member).elim ?_ spared⟩
            rintro ⟨⟩
            exact differs rfl
      | _ => exact same rfl nofun

namespace IsTidy

variable {scene after : Scene} {now : Time}

/-- An engine may let go of a socket only as it closes it. -/
theorem performAll (tidy : scene.IsTidy) {effects : List Effect} {engine : Engine}
    (unhanded : ∀ effect ∈ effects, effect.handed? = none)
    (keeps : ∀ number, scene.engine.link = some number →
      engine.link = some number ∨ .closed number ∈ effects) :
    ((scene.performAll now effects).withEngine engine).IsTidy := by
  intro number socket there isOpen
  obtain ⟨here, spared⟩ := of_performAll unhanded there isOpen
  refine (tidy number socket here isOpen).imp_left fun linked => ?_
  exact (keeps number linked).resolve_right spared

theorem onSocket (tidy : scene.IsTidy) (place : Nat) {change : Socket → Socket}
    (keeps : ∀ socket ∈ scene.sockets[place]?, (change socket).isOpen = true →
      socket.isOpen = true ∧ (socket.IsUnused → (change socket).IsUnused)) :
    (scene.onSocket place change).IsTidy := by
  intro number socket there isOpen
  obtain ⟨prior, old, ⟨rfl, rfl⟩ | ⟨-, rfl⟩⟩ := of_modify there
  · obtain ⟨wasOpen, unused⟩ := keeps prior old isOpen
    exact (tidy number prior old wasOpen).imp_right unused
  · exact tidy number socket old isOpen

theorem push (tidy : scene.IsTidy) {socket : Socket} (engine : after.engine = scene.engine)
    (sockets : after.sockets = scene.sockets ++ [socket])
    (unused : socket.isOpen = true → socket.IsUnused) : after.IsTidy := by
  intro number other there isOpen
  rw [sockets] at there
  rw [engine]
  rcases of_push there with old | ⟨-, rfl⟩
  · exact tidy number other old isOpen
  · exact .inr (unused isOpen)

theorem mail (tidy : scene.IsTidy) (generation : Nat) (reports : List Report) :
    (scene.mail generation reports).IsTidy := by
  unfold IsTidy
  rw [mail_sockets, mail_engine]
  exact tidy

theorem onset (tidy : scene.IsTidy) (wired : scene.IsWired) {stimulus : Stimulus}
    {first : List Effect} {middle : Engine} {rest : List (Nat × Report)}
    (awake : scene.engine.IsAwake) (takes : Takes stimulus scene.inbox rest)
    (onset : Onset now scene.engine stimulus first middle) :
    ((((scene.withInbox rest).note [.heard now stimulus]).performAll now first).withEngine
      middle).IsTidy := by
  have heard : ((scene.withInbox rest).note [.heard now stimulus]).IsTidy := tidy
  refine heard.performAll onset.handed?_eq_none fun number linked => ?_
  change scene.engine.link = some number at linked
  have closes {engine : Engine} (same : engine.link = scene.engine.link) :
      .closed number ∈ engine.release.2 := by
    refine List.mem_append_left _ (List.mem_map_of_mem ?_)
    rw [same, linked]
    exact List.mem_singleton_self number
  cases onset with
  | attach socket =>
      -- a socket is reported only while none is served
      have live := wired.live awake.running
      have verdict : isVerdict scene.engine.generation (scene.engine.generation, .connected socket) =
          true := isVerdict_iff.mpr ⟨rfl, rfl⟩
      obtain ⟨-, unlinked, -⟩ := tokens_eq_zero_iff.mp (live.of_verdict takes verdict)
      exact nomatch linked.symm.trans unlinked
  | shutDown =>
      exact .inr (List.mem_append_left _ (List.mem_append_left _ (closes rfl)))
  | collapse asked impossible =>
      refine .inr (List.mem_append_right _ (List.mem_map_of_mem ?_))
      rw [linked]
      exact List.mem_singleton_self number
  | writeFailed failure part => exact .inr (List.mem_append_right _ (closes rfl))
  | _ => exact .inl linked

theorem tick (tidy : scene.IsTidy) {effects : List Effect} {engine : Engine}
    (tick : Tick now scene.engine effects engine) :
    ((scene.performAll now effects).withEngine engine).IsTidy := by
  cases tick with
  | @hand number write rest free linked first =>
      intro place socket there isOpen
      obtain ⟨prior, old, ⟨rfl, rfl⟩ | ⟨-, rfl⟩⟩ := of_modify there
      · exact .inl linked
      · exact tidy place socket old isOpen
  | release =>
      refine tidy.performAll (fun effect member => ?_) fun number linked => .inr ?_
      · exact Engine.forall_release (·.handed? = none) scene.engine (fun _ => rfl) rfl effect member
      · refine List.mem_append_left _ (List.mem_map_of_mem ?_)
        rw [linked]
        exact List.mem_singleton_self number
  | remark effect said =>
      refine tidy.performAll (fun other member => ?_) fun _ linked => .inl linked
      rw [List.mem_singleton.mp member]
      cases effect with
      | handed number write => cases said
      | _ => rfl
  | reschedule => exact tidy.performAll nofun fun _ linked => .inl linked
  | publish => exact tidy.performAll nofun fun _ linked => .inl linked
  | dial idle =>
      refine tidy.performAll ?_ fun _ linked => .inl linked
      exact Engine.forall_beginConnect (·.handed? = none) scene.engine (fun _ => rfl) (fun _ => rfl)
  | push octets counted =>
      refine tidy.performAll (fun other member => ?_) fun _ linked => .inl linked
      rw [List.mem_singleton.mp member]
      rfl
  | dismiss =>
      refine tidy.performAll ?_ fun _ linked => .inl linked
      exact Engine.forall_dismissAll (·.handed? = none) scene.engine (fun _ => rfl) (fun _ => rfl)

theorem beat (tidy : scene.IsTidy) (wired : scene.IsWired) (beat : Beat scene after) :
    after.IsTidy := by
  cases beat with
  | show_ board => exact tidy
  | hear awake takes onset => exact tidy.onset wired awake takes onset
  | miss ceased takes => exact tidy
  | tick awake tick => exact tidy.tick tick
  | @farewell now effects said =>
      have unhanded : ∀ effect ∈ effects, effect.handed? = none := by
        intro effect member
        have idle := Client.Life.isIdle_of_isFarewell (said effect member)
        cases effect with
        | handed number write => cases idle
        | _ => rfl
      have kept : ((scene.performAll now effects).withEngine scene.engine).IsTidy :=
        tidy.performAll unhanded fun _ => .inl
      intro number socket there isOpen
      rw [performAll_engine]
      exact kept number socket there isOpen
  | commence here stage => exact tidy
  | fail here failure =>
      have left : ({ scene with attempt := none } : Scene).IsTidy := tidy
      exact left.mail _ _
  | @accept attempt here running nodelay echo script =>
      let socket := Socket.fresh scene.sockets.length attempt.generation
        scene.engine.settings.maxPayload echo script
      have unused : socket.isOpen = true → socket.IsUnused := fun _ => ⟨rfl, rfl⟩
      have accepted : ({ scene with
          attempt := none
          sockets := scene.sockets ++ [socket] }.note
        [.accepted scene.sockets.length nodelay] : Scene).IsTidy := tidy.push rfl rfl unused
      exact accepted.mail _ _
  | reject here later nodelay echo script => exact tidy.push rfl rfl nofun
  | @read number socket there isOpen =>
      refine mail (tidy.onSocket number ?_) _ _
      rintro other member wasOpen
      cases there.symm.trans member
      exact ⟨wasOpen, fun unused => ⟨unused.held, unused.waiting⟩⟩
  | @write number socket there isOpen =>
      have written : ((scene.onSocket number fun _ => socket.write.socket).note
          (socket.write.sights number)).IsTidy := by
        refine tidy.onSocket number ?_
        rintro other member -
        cases there.symm.trans member
        refine ⟨isOpen, fun unused => ?_⟩
        rw [unused.write]
        exact unused
      exact written.mail _ _
  | arrive there isOpen pieces =>
      refine tidy.onSocket _ fun socket _ wasOpen => ⟨socket.isOpen_arrive pieces ▸ wasOpen, ?_⟩
      rintro ⟨held, waiting⟩
      exact ⟨socket.writer_arrive pieces ▸ held, socket.writer_arrive pieces ▸ waiting⟩
  | finish there isOpen =>
      exact tidy.onSocket _ fun _ _ wasOpen => ⟨wasOpen, fun unused => ⟨unused.held, unused.waiting⟩⟩
  | release number =>
      refine tidy.onSocket _ fun _ _ wasOpen => ⟨wasOpen, fun unused => ⟨?_, unused.waiting⟩⟩
      exact congrArg (Option.map _) unused.held
  | prepare number script =>
      exact tidy.onSocket _ fun _ _ wasOpen => ⟨wasOpen, fun unused => ⟨unused.held, unused.waiting⟩⟩

theorem beats (tidy : scene.IsTidy) (wired : scene.IsWired) (beats : Beats scene after) :
    after.IsTidy := by
  have both : after.IsTidy ∧ after.IsWired := by
    induction beats with
    | refl => exact ⟨tidy, wired⟩
    | tail _ beat ih => exact ⟨ih.1.beat ih.2 beat, ih.2.beat beat⟩
  exact both.1

end IsTidy

end Scene

end RequestMux.Network
