import RequestMux.Proofs.Client.Stretch

/-!
# Answers

A response resolves the caller whose request waits for its id, and nobody else.  Which
socket was served at that moment can be read off the effects.
-/

namespace RequestMux.Client

open Pending (Entry Table Waiter)
open Wire (Packet)

/-- The socket that is served, and the frames that have answered requests, each with the
socket that was served. -/
structure Duty where
  socket : Option Nat
  answers : List (Nat × Packet)

def Duty.follow (duty : Duty) : Effect → Duty
  | .attached socket => { duty with socket := some socket }
  | .closed socket => { duty with socket := duty.socket.filter (· != socket) }
  | .answered _ packet =>
      { duty with
        answers := duty.answers ++ duty.socket.toList.map fun socket => (socket, packet) }
  | _ => duty

def Duty.followAll (effects : List Effect) (duty : Duty) : Duty := effects.foldl Duty.follow duty

/-- The duty after some effects. -/
def dutyAfter (effects : List Effect) : Duty := Duty.followAll effects ⟨none, []⟩

/-- The frames that answered requests while a socket was served, in order. -/
def Duty.answersOn (socket : Nat) (duty : Duty) : List Packet :=
  (duty.answers.filter fun answer => answer.1 == socket).map Prod.snd

def answersOn (socket : Nat) (effects : List Effect) : List Packet :=
  (dutyAfter effects).answersOn socket

theorem dutyAfter_append (effects more : List Effect) :
    dutyAfter (effects ++ more) = (dutyAfter effects).followAll more :=
  List.foldl_append

def Report.frame? : Report → Option Packet
  | .frame packet => some packet
  | _ => none

/-- Whether an effect changes nothing of a duty. -/
def Effect.Leaves (served : Option Nat) : Effect → Prop
  | .attached _ => False
  | .answered _ _ => False
  | .closed socket => served ≠ some socket
  | _ => True

/-- Whether an effect is that a response has come. -/
def Effect.isAnswer : Effect → Bool
  | .answered _ _ => true
  | .resolved _ outcome => outcome.isOk
  | _ => false

/-- Only a caller asks for an entry with its ticket. -/
theorem Stimulus.Asks.of_caller {stimulus : Stimulus} {sync : UInt32} {ticket : Nat}
    (asked : stimulus.Asks sync (.caller ticket)) :
    ∃ packet, stimulus = .command (.write packet (some ticket)) ∧ packet.header.sync = sync := by
  cases stimulus with
  | command command =>
      cases command with
      | write packet waiting =>
          cases waiting with
          | none => exact asked.elim
          | some other =>
              obtain ⟨rfl, same⟩ := asked
              cases same
              exact ⟨packet, rfl, rfl⟩
      | _ => exact asked.elim
  | ping sync => cases asked.2
  | _ => exact asked.elim

/-- What a connection adds to a reaction is no response, and leaves the duty. -/
theorem Life.silent_of_isFarewell {life : Life} {effect : Effect}
    (said : life.isFarewell effect = true) (served : Option Nat) :
    effect.isAnswer = false ∧ effect.Leaves served := by
  cases effect with
  | resolved ticket outcome =>
      cases outcome with
      | ok packet => cases life <;> cases said
      | _ => exact ⟨rfl, trivial⟩
  | abandoned ticket => exact ⟨rfl, trivial⟩
  | noted note => exact ⟨rfl, trivial⟩
  | _ => cases life <;> cases said

namespace Duty

theorem followAll_append (effects more : List Effect) (duty : Duty) :
    duty.followAll (effects ++ more) = (duty.followAll effects).followAll more :=
  List.foldl_append

theorem followAll_of_leaves {duty : Duty} {effects : List Effect}
    (leaves : ∀ effect ∈ effects, effect.Leaves duty.socket) : duty.followAll effects = duty := by
  induction effects with
  | nil => rfl
  | cons effect rest ih =>
      have same : duty.follow effect = duty := by
        have left := leaves effect List.mem_cons_self
        cases effect with
        | attached _ => exact left.elim
        | answered _ _ => exact left.elim
        | closed socket =>
            have kept : duty.socket.filter (· != socket) = duty.socket := by
              cases served : duty.socket with
              | none => rfl
              | some other =>
                  have differs : other ≠ socket := fun closed => left (closed ▸ served)
                  exact Option.filter_some_pos (bne_iff_ne.mpr differs)
            exact congrArg (Duty.mk · duty.answers) kept
        | _ => rfl
      change (duty.follow effect).followAll rest = duty
      rw [same]
      exact ih fun other member => leaves other (List.mem_cons_of_mem effect member)

/-- A socket that is closed is not served any more. -/
theorem follow_closed (socket : Option Nat) (answers : List (Nat × Packet)) :
    followAll (socket.toList.map .closed) ⟨socket, answers⟩ = ⟨none, answers⟩ := by
  cases socket with
  | none => rfl
  | some socket =>
      have gone : (some socket).filter (· != socket) = none := by simp
      exact congrArg (Duty.mk · answers) gone

theorem follow_release (engine : Engine) (answers : List (Nat × Packet)) :
    followAll engine.release.2 ⟨engine.link, answers⟩ = ⟨none, answers⟩ := by
  change followAll (engine.link.toList.map .closed ++ _) _ = _
  rw [followAll_append, follow_closed]
  split
  · rfl
  · rfl

theorem answersOn_append (socket : Nat) (served : Option Nat) (answers more : List (Nat × Packet)) :
    answersOn socket ⟨served, answers ++ more⟩ =
      answersOn socket ⟨served, answers⟩ ++ answersOn socket ⟨served, more⟩ := by
  simp [answersOn]

/-- A socket answers nothing as long as it is not served. -/
theorem answersOn_followAll {socket : Nat} {duty : Duty} {effects : List Effect}
    (absent : socket ∉ attachedIn effects) (unserved : duty.socket ≠ some socket) :
    (duty.followAll effects).answersOn socket = duty.answersOn socket := by
  induction effects generalizing duty with
  | nil => rfl
  | cons effect rest ih =>
      have later : socket ∉ attachedIn rest := fun member =>
        absent (attachedIn_append [effect] rest ▸ List.mem_append_right _ member)
      change ((duty.follow effect).followAll rest).answersOn socket = _
      cases effect with
      | attached other =>
          refine ih later fun same => absent ?_
          rw [← Option.some.inj same]
          exact List.mem_cons_self
      | closed other =>
          exact ih later fun same => unserved (Option.filter_eq_some_iff.mp same).1
      | answered entry packet =>
          have ignored : (duty.follow (.answered entry packet)).answersOn socket =
              duty.answersOn socket := by
            cases served : duty.socket with
            | none => simp [follow, answersOn, served]
            | some other =>
                have differs : other ≠ socket := fun same => unserved (same ▸ served)
                simp [follow, answersOn, served, differs]
          rw [← ignored]
          exact ih later unserved
      | _ => exact ih later unserved

end Duty

/-- Once it is closed, a socket that was served answers nothing more. -/
theorem answersOn_of_closed {past rest : List Effect} {socket : Nat}
    (once : (attachedIn (past ++ .closed socket :: rest)).Nodup) (served : socket ∈ attachedIn past) :
    answersOn socket (past ++ .closed socket :: rest) = answersOn socket past := by
  rw [attachedIn_append] at once
  have absent : socket ∉ attachedIn rest := fun again =>
    (List.nodup_append.mp once).2.2 socket served socket again rfl
  unfold answersOn
  rw [dutyAfter_append]
  change (((dutyAfter past).follow (.closed socket)).followAll rest).answersOn socket = _
  refine Duty.answersOn_followAll absent fun same => ?_
  simp [Duty.follow] at same

/-- A socket that was never served has answered nothing. -/
theorem answersOn_eq_nil {effects : List Effect} {socket : Nat}
    (absent : socket ∉ attachedIn effects) : answersOn socket effects = [] :=
  Duty.answersOn_followAll absent nofun

/-- Ticks bring no response. -/
theorem Tick.isAnswer_eq_false {now : Time} {engine after : Engine} {effects : List Effect}
    (tick : Tick now engine effects after) : ∀ effect ∈ effects, effect.isAnswer = false := by
  cases tick with
  | remark effect said =>
      intro other member
      rw [List.mem_singleton.mp member]
      cases effect with
      | warned _ => rfl
      | noted _ => rfl
      | _ => cases said
  | reschedule => exact nofun
  | publish => exact nofun
  | dial => exact Engine.forall_beginConnect _ engine (fun _ => rfl) fun _ => rfl
  | push octets counted =>
      intro effect member
      rw [List.mem_singleton.mp member]
      rfl
  | hand free linked first =>
      intro effect member
      rw [List.mem_singleton.mp member]
      rfl
  | release => exact Engine.forall_release _ engine (fun _ => rfl) rfl
  | dismiss => exact Engine.forall_dismissAll _ engine (fun _ => rfl) fun _ => rfl

/-- Ticks change no more of the duty than that they give the socket up. -/
theorem Tick.duty {now : Time} {engine after : Engine} {effects : List Effect}
    (tick : Tick now engine effects after) (answers : List (Nat × Packet)) :
    Duty.followAll effects ⟨engine.link, answers⟩ = ⟨after.link, answers⟩ := by
  have still (leaves : ∀ effect ∈ effects, effect.Leaves engine.link) :
      Duty.followAll effects ⟨engine.link, answers⟩ = ⟨engine.link, answers⟩ :=
    Duty.followAll_of_leaves leaves
  cases tick with
  | remark effect said =>
      cases effect with
      | warned _ => rfl
      | noted _ => rfl
      | _ => cases said
  | reschedule => rfl
  | publish => rfl
  | dial => rfl
  | push octets counted => rfl
  | hand free linked first => rfl
  | release => exact Duty.follow_release engine answers
  | dismiss => exact still (Engine.forall_dismissAll _ engine (fun _ => trivial) fun _ => trivial)

/-- Ticks stay with their generation and its socket, or leave both. -/
theorem Tick.generation_cases {now : Time} {engine after : Engine} {effects : List Effect}
    (tick : Tick now engine effects after) :
    engine.generation < after.generation ∧ after.link = none ∨
      after.generation = engine.generation ∧ after.link = engine.link := by
  cases tick with
  | release => exact .inl ⟨Nat.lt_succ_self _, rfl⟩
  | _ => exact .inr ⟨rfl, rfl⟩

/-- Ticks bring no request into the table. -/
theorem Tick.mem_pending {now : Time} {engine after : Engine} {effects : List Effect}
    (tick : Tick now engine effects after) {entry : Entry} (member : entry ∈ after.pending.entries) :
    entry ∈ engine.pending.entries := by
  cases tick with
  | dismiss => cases member
  | _ => exact member

namespace Onset

variable {now : Time} {stimulus : Stimulus} {engine after : Engine} {effects : List Effect}

/-- An onset brings no response, or it is that a frame answers the request for its id. -/
theorem isAnswer_cases (onset : Onset now engine stimulus effects after) :
    (∀ effect ∈ effects, effect.isAnswer = false) ∨
      ∃ packet entry table, stimulus = .report engine.generation (.frame packet) ∧
        engine.pending.resolve packet.header.sync = (some entry, table) ∧
        effects = .answered entry packet :: (engine.discharge entry table (.ok packet)).2 ∧
        after = (engine.discharge entry table (.ok packet)).1 := by
  let silent (effect : Effect) : Prop := effect.isAnswer = false
  have remarks {effect : Effect} (said : effect.isRemark = true) : silent effect := by
    cases effect with
    | warned _ => rfl
    | noted _ => rfl
    | _ => cases said
  cases onset with
  | answer found => exact .inr ⟨_, _, _, rfl, found, rfl, rfl⟩
  | plain => exact .inl nofun
  | disablePing => exact .inl nofun
  | ring => exact .inl nofun
  | shutDown =>
      exact .inl (Engine.forall_shutDown silent engine (fun _ => rfl) rfl (fun _ => rfl) fun _ => rfl)
  | enter talk pingAt asked said possible =>
      refine .inl fun effect member => ?_
      rcases List.mem_append.mp member with spoken | told
      · rcases List.mem_cons.mp spoken with rfl | remark
        · rfl
        · exact remarks (said effect remark)
      · exact Engine.forall_tell silent _ _ .error (fun _ => rfl) effect told
  | collapse => exact .inl (Engine.forall_collapse silent engine _ (fun _ => rfl) fun _ => rfl)
  | attach socket =>
      refine .inl fun effect member => ?_
      rcases List.mem_cons.mp member with rfl | noted
      · rfl
      · rw [List.mem_singleton.mp noted]
        rfl
  | redial failure =>
      refine .inl fun effect member => ?_
      rcases List.mem_cons.mp member with rfl | dialing
      · rfl
      · exact Engine.forall_beginConnect silent engine (fun _ => rfl) (fun _ => rfl) effect dialing
  | unknown packet remark said =>
      refine .inl fun effect member => ?_
      rw [List.mem_singleton.mp member]
      exact remarks said
  | readFailed fault =>
      refine .inl fun effect member => ?_
      rw [List.mem_singleton.mp member]
      rfl
  | written =>
      refine .inl fun effect member => ?_
      obtain ⟨write, -, rfl⟩ := List.mem_map.mp member
      rfl
  | writeFailed failure part =>
      refine .inl fun effect member => ?_
      rcases List.mem_append.mp member with before | releasing
      · rcases List.mem_cons.mp before with rfl | returned
        · rfl
        · obtain ⟨write, -, rfl⟩ := List.mem_map.mp returned
          rfl
      · exact Engine.forall_release silent _ (fun _ => rfl) rfl effect releasing
  | stale generation report old =>
      exact .inl (Engine.forall_ignoreReport silent engine report (fun _ => rfl) fun _ => rfl)
  | expire ringing fired =>
      refine .inl fun effect member => ?_
      rcases List.mem_cons.mp member with rfl | told
      · rfl
      · exact Engine.forall_tell silent _ _ .timeout (fun _ => rfl) effect told

/-- Without a response, an onset changes no more of the duty than which socket is served,
unless the socket that is served were taken for an old one. -/
theorem duty (onset : Onset now engine stimulus effects after)
    (silent : ∀ effect ∈ effects, effect.isAnswer = false)
    (apart : ∀ generation socket, stimulus = .report generation (.connected socket) →
      generation ≠ engine.generation → engine.link ≠ some socket)
    (answers : List (Nat × Packet)) :
    Duty.followAll effects ⟨engine.link, answers⟩ = ⟨after.link, answers⟩ := by
  have still {effects : List Effect} (leaves : ∀ effect ∈ effects, effect.Leaves engine.link) :
      Duty.followAll effects ⟨engine.link, answers⟩ = ⟨engine.link, answers⟩ :=
    Duty.followAll_of_leaves leaves
  have told (entries : List Nat) (engine' : Engine) (outcome : Outcome) :
      ∀ effect ∈ (engine'.tell entries outcome).2, effect.Leaves engine.link :=
    Engine.forall_tell _ engine' entries outcome fun _ => trivial
  have remarks {effect : Effect} (said : effect.isRemark = true) : effect.Leaves engine.link := by
    cases effect with
    | warned _ => trivial
    | noted _ => trivial
    | _ => cases said
  cases onset with
  | answer found => cases silent _ List.mem_cons_self
  | plain => rfl
  | disablePing => rfl
  | ring => rfl
  | attach socket => rfl
  | redial failure => rfl
  | readFailed fault => rfl
  | shutDown =>
      let closing : Engine :=
        { engine with board := { engine.board with shuttingDown := true } }.setPhase .shuttingDown
      have released : Duty.followAll closing.release.2 ⟨engine.link, answers⟩ = ⟨none, answers⟩ :=
        Duty.follow_release closing answers
      have dismissed : Duty.followAll closing.release.1.dismissAll.2 ⟨none, answers⟩ =
          ⟨none, answers⟩ :=
        Duty.followAll_of_leaves
          (Engine.forall_dismissAll _ _ (fun _ => trivial) fun _ => trivial)
      change Duty.followAll (closing.release.2 ++ closing.release.1.dismissAll.2 ++
        [.noted .shutDown]) _ = _
      rw [Duty.followAll_append, Duty.followAll_append, released, dismissed]
      rfl
  | enter talk pingAt asked said possible =>
      refine still fun effect member => ?_
      rcases List.mem_append.mp member with spoken | later
      · rcases List.mem_cons.mp spoken with rfl | remark
        · trivial
        · exact remarks (said effect remark)
      · exact told _ _ .error effect later
  | collapse asked impossible =>
      have forgotten (tickets : List Nat) :
          ∀ effect ∈ tickets.map Effect.abandoned, effect.Leaves engine.link := by
        intro effect member
        obtain ⟨ticket, -, rfl⟩ := List.mem_map.mp member
        trivial
      change Duty.followAll (_ ++ engine.link.toList.map .closed) _ = _
      rw [Duty.followAll_append, still (forgotten _), Duty.follow_closed]
      rfl
  | unknown packet remark said =>
      refine still fun effect member => ?_
      rw [List.mem_singleton.mp member]
      exact remarks said
  | written =>
      refine still fun effect member => ?_
      obtain ⟨write, -, rfl⟩ := List.mem_map.mp member
      trivial
  | writeFailed failure part =>
      have talked : ∀ effect ∈ Effect.warned (.writeFailed failure) :: (engine.takeBack part).2,
          effect.Leaves engine.link := by
        intro effect member
        rcases List.mem_cons.mp member with rfl | returned
        · trivial
        · obtain ⟨write, -, rfl⟩ := List.mem_map.mp returned
          trivial
      rw [Duty.followAll_append, still talked]
      exact Duty.follow_release (engine.takeBack part).1 answers
  | stale generation report old =>
      refine still fun effect member => ?_
      cases report with
      | connected socket =>
          rcases List.mem_cons.mp member with rfl | closing
          · trivial
          · rw [List.mem_singleton.mp closing]
            exact apart generation socket rfl old
      | _ =>
          rw [List.mem_singleton.mp member]
          trivial
  | expire ringing fired =>
      refine still fun effect member => ?_
      rcases List.mem_cons.mp member with rfl | later
      · trivial
      · exact told _ _ .timeout effect later

/-- An onset stays with its generation, if it does not leave it or end everything. -/
theorem generation_cases (onset : Onset now engine stimulus effects after) :
    after.life ≠ .running ∨ engine.generation < after.generation ∧ after.link = none ∨
      after.generation = engine.generation ∧ ∀ socket ∈ after.link,
        engine.link = some socket ∨ stimulus = .report engine.generation (.connected socket) := by
  cases onset with
  | shutDown => exact .inl nofun
  | collapse => exact .inl nofun
  | writeFailed failure part => exact .inr (.inl ⟨Nat.lt_succ_self _, rfl⟩)
  | attach socket =>
      refine .inr (.inr ⟨rfl, fun other member => .inr ?_⟩)
      cases member
      rfl
  | _ => exact .inr (.inr ⟨rfl, fun socket member => .inl member⟩)

/-- What waits after an onset waited before, or has been asked for. -/
theorem mem_pending (onset : Onset now engine stimulus effects after) {entry : Entry}
    (member : entry ∈ after.pending.entries) :
    (∃ old ∈ engine.pending.entries, old.claim = entry.claim) ∨
      ∃ more, stimulus.Asks entry.sync entry.waiter ∧ effects = .registered entry :: more := by
  cases onset with
  | shutDown => cases member
  | collapse => cases member
  | ring ringing taken early =>
      have claimed : entry.claim ∈ engine.pending.entries.map Entry.claim :=
        Table.claims_of_ringing ringing taken early ▸ List.mem_map_of_mem member
      obtain ⟨other, there, alike⟩ := List.mem_map.mp claimed
      exact .inl ⟨other, there, alike⟩
  | answer found =>
      obtain ⟨-, left⟩ := Table.resolve_some found
      exact .inl ⟨entry, (List.mem_filter.mp (left ▸ member)).1, rfl⟩
  | expire ringing fired =>
      obtain ⟨-, left⟩ := Table.fired_of_ringing ringing fired
      exact .inl ⟨entry, (List.mem_filter.mp (left ▸ member)).1, rfl⟩
  | @enter _ sync waiter talk pingAt asked said possible =>
      let made := engine.entryFor now sync waiter
      have entered : entry ∈ (engine.pending.register made).2.entries := member
      rw [(Table.register_entries engine.pending made).2] at entered
      rcases List.mem_append.mp entered with kept | new
      · exact .inl ⟨entry, (List.mem_filter.mp kept).1, rfl⟩
      · rw [List.mem_singleton.mp new]
        exact .inr ⟨_, asked, rfl⟩
  | _ => exact .inl ⟨entry, member, rfl⟩

end Onset

end RequestMux.Client
