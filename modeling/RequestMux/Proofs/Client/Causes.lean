import RequestMux.Proofs.Client.Reactions
import RequestMux.Proofs.Client.Turns

/-!
# What the engine warns of and starts

Every warning, every buffer that joins the queue and every attempt has its cause in what the engine
has just been told: a request of a caller, a ping, a report of something that has failed, or an
alarm by which a ping has failed.
-/

namespace RequestMux.Client

open Pending (Entry Waiter)

/-- An effect that neither warns, nor queues a buffer, nor starts an attempt. -/
def Effect.isOrdinary : Effect → Bool
  | .warned _ | .enqueued _ | .dialed _ => false
  | _ => true

/-- The warnings that a stimulus may cause. -/
inductive Engine.MayWarn (now : Time) (engine : Engine) (stimulus : Stimulus) : Warning → Prop where
  /-- A request takes the place of another. -/
  | syncReused {packet : Wire.Packet} {ticket : Nat} {entry : Entry}
      (asked : stimulus = .command (.write packet (some ticket)))
      (replaced : (engine.register now packet.header.sync (.caller ticket)).1 = some entry) :
      MayWarn now engine stimulus (.syncReused packet.header.sync)
  | connectFailed {failure : IoFailure}
      (reported : stimulus = .report engine.generation (.connectFailed failure)) :
      MayWarn now engine stimulus (.connectFailed failure)
  | readFailed {fault : ClientError}
      (reported : stimulus = .report engine.generation (.readFailed fault)) :
      MayWarn now engine stimulus (.readFailed fault)
  | writeFailed {failure : IoFailure} {part : Bool}
      (reported : stimulus = .report engine.generation (.writeFailed failure part)) :
      MayWarn now engine stimulus (.writeFailed failure)
  | pingFailed (outcome : Outcome) : MayWarn now engine stimulus (.pingFailed outcome)

/-- What a stimulus may cause. -/
inductive Engine.MayCause (now : Time) (engine : Engine) (stimulus : Stimulus) :
    Effect → Prop where
  | ordinary {effect : Effect} (ordinary : effect.isOrdinary = true) :
      MayCause now engine stimulus effect
  | warned {warning : Warning} (may : engine.MayWarn now stimulus warning) :
      MayCause now engine stimulus (.warned warning)
  | written {packet : Wire.Packet} {ticket : Option Nat}
      (asked : stimulus = .command (.write packet ticket)) (job : Nat) :
      MayCause now engine stimulus (.enqueued ⟨job, packet.data, true⟩)
  /-- The first buffer needs a socket. -/
  | opened {packet : Wire.Packet} {ticket : Option Nat}
      (asked : stimulus = .command (.write packet ticket)) (vacant : engine.phase = .disconnected)
      (generation : Nat) : MayCause now engine stimulus (.dialed generation)
  | pinged {sync : UInt32} (asked : stimulus = .ping sync) (write : QueuedWrite) :
      MayCause now engine stimulus (.enqueued write)
  /-- So does a ping, if it is the first buffer. -/
  | openedByPing {sync : UInt32} (asked : stimulus = .ping sync)
      (vacant : engine.phase = .disconnected) (generation : Nat) :
      MayCause now engine stimulus (.dialed generation)
  | failed {failure : IoFailure}
      (reported : stimulus = .report engine.generation (.connectFailed failure))
      (generation : Nat) : MayCause now engine stimulus (.dialed generation)
  | torn (cause : engine.IsCut now stimulus) (generation : Nat) :
      MayCause now engine stimulus (.dialed generation)

/-- Whether all effects of a reaction are allowed. -/
def Reaction.Does (allowed : Effect → Prop) (reaction : Reaction) : Prop :=
  ∀ effect ∈ reaction.2, allowed effect

/-- Whether a reaction warns of nothing else. -/
def Reaction.Warns (allowed : Warning → Prop) (reaction : Reaction) : Prop :=
  ∀ effect ∈ reaction.2, ∀ warning, effect = .warned warning → allowed warning

theorem Reaction.Does.andThen {allowed : Effect → Prop} {reaction : Reaction}
    {next : Engine → Reaction} (first : reaction.Does allowed)
    (later : (next reaction.1).Does allowed) : (reaction.andThen next).Does allowed :=
  fun effect member => (List.mem_append.mp member).elim (first effect) (later effect)

namespace Engine

variable {engine other : Engine} {now : Time} {stimulus : Stimulus}

/-! The engine that has heard the stimulus may have changed since. -/

theorem does_single {effect : Effect} (may : engine.MayCause now stimulus effect) :
    Reaction.Does (engine.MayCause now stimulus) (other, [effect]) :=
  fun _ member => List.mem_singleton.mp member ▸ may

theorem does_pumpWrites (other : Engine) :
    other.pumpWrites.Does (engine.MayCause now stimulus) := by
  unfold pumpWrites
  split
  · exact does_single (.ordinary rfl)
  · exact nofun

theorem does_beginConnect
    (dialed : ∀ generation, engine.MayCause now stimulus (.dialed generation)) :
    other.beginConnect.Does (engine.MayCause now stimulus) :=
  other.forall_beginConnect _ (fun _ => .ordinary rfl) dialed

theorem does_enqueue {octets : Bytes} {counted : Bool}
    (queued : ∀ job, engine.MayCause now stimulus (.enqueued ⟨job, octets, counted⟩))
    (dialed : other.phase = .disconnected →
      ∀ generation, engine.MayCause now stimulus (.dialed generation)) :
    (other.enqueue octets counted).Does (engine.MayCause now stimulus) := by
  refine Reaction.Does.andThen (does_single (queued _)) ?_
  unfold dispatch
  split
  · next vacant => exact does_beginConnect (dialed vacant)
  · exact nofun
  · exact does_pumpWrites _
  · exact nofun

theorem does_reconnect (cause : engine.IsCut now stimulus) :
    other.reconnect.Does (engine.MayCause now stimulus) := by
  unfold reconnect
  split
  · exact nofun
  · refine Reaction.Does.andThen (Reaction.Does.andThen ?_ ?_) (does_beginConnect (.torn cause))
    · exact other.forall_release _ (fun _ => .ordinary rfl) (.ordinary rfl)
    · exact forall_dismissAll _ _ (fun _ => .ordinary rfl) fun _ => .ordinary rfl

/-- Whoever waits is told, unless it is a ping that has failed. -/
theorem does_complete {waiter : Waiter} {outcome : Outcome}
    (cause : waiter = .ping → outcome.isOk = false → other.phase = .connected →
      engine.IsCut now stimulus) :
    (other.complete now waiter outcome).Does (engine.MayCause now stimulus) := by
  unfold complete
  split
  · exact does_single (.ordinary rfl)
  · unfold pingDone
    split
    · next connected =>
        split
        · exact nofun
        · next failed =>
            have cause := cause rfl (Bool.not_eq_true _ ▸ failed) connected
            exact (does_single (.warned (.pingFailed outcome))).andThen (does_reconnect cause)
    · exact nofun

theorem does_collapse (forgotten : List Nat) :
    (other.collapse forgotten).Does (engine.MayCause now stimulus) :=
  other.forall_collapse _ forgotten (fun _ => .ordinary rfl) fun _ => .ordinary rfl

theorem does_yieldTo (other : Engine) (sync : UInt32) {replaced : Option Entry}
    (reused : ∀ entry, replaced = some entry → engine.MayWarn now stimulus (.syncReused sync)) :
    (other.yieldTo now sync replaced).Does (engine.MayCause now stimulus) := by
  cases replaced with
  | none => exact nofun
  | some entry =>
      unfold yieldTo
      dsimp only [Option.map_some]
      split
      · exact (does_single (.warned (reused entry rfl))).andThen (does_single (.ordinary rfl))
      · exact nofun
      · exact nofun

theorem does_yieldToPing (other : Engine) (replaced : Option Entry) :
    (other.yieldToPing replaced).Does (engine.MayCause now stimulus) := by
  unfold yieldToPing
  split
  · exact does_single (.ordinary rfl)
  · exact nofun

theorem does_write (engine : Engine) (packet : Wire.Packet) (ticket : Option Nat) :
    (engine.write now packet ticket).Does
      (engine.MayCause now (.command (.write packet ticket))) := by
  unfold write
  split
  · exact does_enqueue (.written rfl) (.opened rfl)
  · next ticket =>
      split
      · exact does_collapse _
      · let entered := engine.register now packet.header.sync (.caller ticket)
        obtain ⟨phase, -⟩ := phase_nextJob_yieldTo entered.2.1 now packet.header.sync entered.1
        refine Reaction.Does.andThen (Reaction.Does.andThen (does_single (.ordinary rfl)) ?_)
          (does_enqueue (.written rfl) fun vacant => .opened rfl (phase.symm.trans vacant))
        exact does_yieldTo _ _ fun entry replaced => .syncReused rfl replaced

theorem does_sendPing (engine : Engine) (sync : UInt32) :
    (engine.sendPing now sync).Does (engine.MayCause now (.ping sync)) := by
  unfold sendPing
  dsimp only
  split
  · exact does_collapse _
  · let quiet : Engine := { engine with pingAt := none }
    let entered := quiet.register now sync .ping
    obtain ⟨phase, -⟩ := phase_nextJob_yieldToPing entered.2.1 entered.1
    exact Reaction.Does.andThen
      (Reaction.Does.andThen (does_single (.ordinary rfl)) (does_yieldToPing entered.2.1 entered.1))
      (does_enqueue (fun _ => .pinged rfl _) fun vacant =>
        .openedByPing rfl (phase.symm.trans vacant))

theorem does_handleReport (engine : Engine) (report : Report) :
    (engine.handleReport now report).Does
      (engine.MayCause now (.report engine.generation report)) := by
  cases report with
  | connected socket =>
      refine Reaction.Does.andThen (fun effect member => ?_) (does_pumpWrites _)
      simp only [List.mem_cons, List.not_mem_nil, or_false] at member
      rcases member with rfl | rfl <;> exact .ordinary rfl
  | connectFailed failure =>
      exact (does_single (.warned (.connectFailed rfl))).andThen (does_beginConnect (.failed rfl))
  | frame packet =>
      change (engine.handleFrame now packet).Does _
      unfold handleFrame
      split
      · exact (does_single (.ordinary rfl)).andThen (does_complete fun _ failed => nomatch failed)
      · exact does_single (.ordinary rfl)
  | readFailed fault =>
      exact (does_single (.warned (.readFailed rfl))).andThen (does_reconnect (.readFailed fault))
  | written =>
      refine Reaction.Does.andThen (fun effect member => ?_) (does_pumpWrites _)
      obtain ⟨write, -, rfl⟩ := List.mem_map.mp member
      exact .ordinary rfl
  | writeFailed failure part =>
      refine Reaction.Does.andThen (fun effect member => ?_)
        (does_reconnect (.writeFailed failure part))
      rcases List.mem_cons.mp member with rfl | returned
      · exact .warned (.writeFailed rfl)
      · obtain ⟨write, -, rfl⟩ := List.mem_map.mp returned
        exact .ordinary rfl

theorem does_handleAlarm (engine : Engine) :
    (engine.handleAlarm now).Does (engine.MayCause now .alarm) := by
  unfold handleAlarm
  split
  · exact nofun
  · next alarm rung ringing =>
      split
      · next entry table fired =>
          exact (does_single (.ordinary rfl)).andThen (does_complete fun pinged _ connected =>
            .pingFailed ringing fired pinged connected)
      · exact nofun

/-- Whatever a reaction warns of or starts has its cause. -/
theorem does_step (engine : Engine) (now : Time) (stimulus : Stimulus) :
    (engine.step now stimulus).Does (engine.MayCause now stimulus) := by
  unfold step
  split
  · cases stimulus with
    | command command =>
        cases command with
        | write packet ticket => exact does_write engine packet ticket
        | reconnect => exact does_reconnect .reconnect
        | disablePing => exact nofun
        | shutdown =>
            exact engine.forall_shutDown _ (fun _ => .ordinary rfl) (.ordinary rfl)
              (fun _ => .ordinary rfl) fun _ => .ordinary rfl
    | report generation report =>
        dsimp only
        split
        · next current =>
            subst current
            exact does_handleReport engine report
        · exact engine.forall_ignoreReport _ report (fun _ => .ordinary rfl) fun _ => .ordinary rfl
    | alarm => exact does_handleAlarm engine
    | ping sync => exact does_sendPing engine sync
  · exact nofun

/-- Every warning of a reaction has its cause. -/
theorem warns_step (engine : Engine) (now : Time) (stimulus : Stimulus) :
    (engine.step now stimulus).Warns (engine.MayWarn now stimulus) := by
  rintro _ member warning rfl
  cases engine.does_step now stimulus _ member with
  | ordinary ordinary => cases ordinary
  | warned may => exact may

end Engine

/-- Winding the engine up warns of nothing. -/
theorem Life.warns_of_isFarewell {life : Life} {effect : Effect}
    (said : life.isFarewell effect = true) (warning : Warning) : effect ≠ .warned warning := by
  rintro rfl
  cases life <;> cases said

end RequestMux.Client
