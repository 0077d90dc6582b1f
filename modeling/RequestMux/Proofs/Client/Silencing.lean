import RequestMux.Proofs.Client.Expiry
import RequestMux.Proofs.Client.Pinging
import RequestMux.Proofs.Client.Starting

/-!
# The end of the pings

An engine that has heard to send no more pings never sends one again, over whatever sockets it comes
to serve.  The ping that waits for its response at this moment, if there is one, waits on: its
deadline may still cost the socket on which it was sent, once, and no later one.
-/

namespace RequestMux.Client

open Pending (Entry Waiter)

/-- What makes an engine connect again, pings apart: a failed read, a failed write, a failed attempt
or the command. -/
inductive Engine.IsUpset (engine : Engine) : Stimulus → Prop where
  | readFailed (fault : ClientError) :
      IsUpset engine (.report engine.generation (.readFailed fault))
  | writeFailed (failure : IoFailure) (part : Bool) :
      IsUpset engine (.report engine.generation (.writeFailed failure part))
  | connectFailed (failure : IoFailure) :
      IsUpset engine (.report engine.generation (.connectFailed failure))
  | reconnect : IsUpset engine (.command .reconnect)

theorem Engine.IsCut.isUpset_or {now : Time} {engine : Engine} {stimulus : Stimulus}
    (cause : engine.IsCut now stimulus) : engine.IsUpset stimulus ∨ stimulus = .alarm := by
  cases cause with
  | readFailed fault => exact .inl (.readFailed fault)
  | writeFailed failure part => exact .inl (.writeFailed failure part)
  | pingFailed => exact .inr rfl
  | reconnect => exact .inl .reconnect

/-- An attempt is started in some turns. -/
def HasDialed (turns : List Turn) : Prop :=
  ∃ turn ∈ turns, ∃ generation, .dialed generation ∈ turn.effects

namespace Turn

/-- The connection is torn down in a turn but not shut down, or an attempt is started that is not
the first. -/
def Reconnects (past : List Turn) (turn : Turn) : Prop :=
  (turn.Leaves ∧ turn.heard? ≠ some (.command .shutdown)) ∨
    HasDialed [turn] ∧ HasDialed past

/-- The engine loses its peer over a ping that waited at the end of an earlier turn, and in the
generation of that turn. -/
def LosesPingOf (turn earlier : Turn) : Prop :=
  ∃ entry, turn.LosesPeer entry ∧
    turn.before.engine.generation = earlier.after.engine.generation ∧
    ∃ other ∈ earlier.after.engine.pending.entries, other.claim = entry.claim

end Turn

/-- What the turns behind one turn have to do with pings, if it is the last to allow for any. -/
structure EndsPings (past : List Turn) (turn : Turn) (future : List Turn) : Prop where
  /-- No ping is sent, and every buffer that joins the queue is a caller's. -/
  unsent : ∀ later ∈ future, (∀ sync, later.heard? ≠ some (.ping sync)) ∧
    ∀ write, .enqueued write ∈ later.effects → ∃ packet ticket,
      later.heard? = some (.command (.write packet ticket)) ∧
        write.octets = packet.data ∧ write.counted = true
  /-- No more than one ping was left waiting. -/
  single : turn.after.engine.pending.pings ≤ 1
  /-- Whenever the connection starts anew, a read, a write or an attempt has failed, it was told to,
  or the ping that was left waiting has had no response. -/
  causes : ∀ before later behind, future = before ++ later :: behind →
    later.Reconnects (past ++ turn :: before) →
      (∃ stimulus ∈ later.heard?, later.before.engine.IsUpset stimulus) ∨ later.LosesPingOf turn
  /-- The last of these happens once at most. -/
  once : future.Pairwise fun earlier later =>
    earlier.LosesPingOf turn → ¬later.LosesPingOf turn

namespace Turn

variable {turn : Turn} {turns : List Turn} {settings : Settings}

/-- Once no more pings are wanted, none comes. -/
theorem IsApt.unpinged (apt : turn.IsApt) (probes : turn.before.Probes settings turns)
    (unpinged : IsUnpinged turns) (sync : UInt32) : turn.heard? ≠ some (.ping sync) := by
  intro heard
  have running := running_of_heard heard
  have due := apt.pinging running sync (stimulus?_of_heard? heard)
  obtain ⟨-, probing⟩ :=
    probes.stands.resolve_left fun collapsed => nomatch running.symm.trans collapsed
  exact (probes.enabled.mp (probing.scheduled due)).2 unpinged

/-- Without pings, all that joins the queue is written by callers. -/
theorem enqueued_by_caller (sound : turn.before.IsSound)
    (unpinged : ∀ sync, turn.heard? ≠ some (.ping sync)) {write : QueuedWrite}
    (member : .enqueued write ∈ turn.effects) :
    ∃ packet ticket, turn.heard? = some (.command (.write packet ticket)) ∧
      write.octets = packet.data ∧ write.counted = true := by
  obtain ⟨stimulus, hears, may⟩ := turn.mayCause sound rfl member
  cases may with
  | ordinary ordinary => cases ordinary
  | written asked job =>
      subst asked
      exact ⟨_, _, hears, rfl, rfl⟩
  | pinged asked =>
      subst asked
      exact absurd hears (unpinged _)

/-- To be told to send no more pings changes nothing for those who wait. -/
theorem pending_of_disablePing (sound : turn.before.IsSound)
    (heard : turn.heard? = some (.command .disablePing)) :
    turn.after.engine.pending = turn.before.engine.pending := by
  cases turn.becomes sound with
  | idle board unheard => cases heard.symm.trans unheard
  | heard stimulus board more hears awake like engine =>
      cases heard.symm.trans hears
      rw [engine]
      unfold Engine.step
      rw [awake.running]
      rfl

/-- A deadline that tears the connection down is that of a ping. -/
theorem MindsAlarms.losesPeer_of_leaves (minds : turn.MindsAlarms) (leaves : turn.Leaves) :
    ∃ entry, turn.LosesPeer entry := by
  cases minds with
  | silent ahead unchanged => exact (leaves (by rw [unchanged])).elim
  | timesOut expired => exact (leaves (by rw [expired.after]; rfl)).elim
  | losesPeer lost => exact ⟨_, lost⟩

/-- The generation in which the peer is lost is left. -/
theorem LosesPeer.generation {entry : Entry} (lost : turn.LosesPeer entry) :
    turn.after.engine.generation = turn.before.engine.generation + 1 :=
  congrArg (fun connection => connection.engine.generation) lost.after

end Turn

namespace Connection

variable {connection : Connection} {moves : List (Time × Move)}
  {past before behind future : List Turn} {turn next : Turn}

/-- What precedes a turn of a run is a run, and leads to it. -/
theorem turns_before (split : connection.turns moves = past ++ turn :: future) :
    ∃ front, front <+: moves ∧ connection.turns front = past ∧
      turn.before = connection.run front := by
  induction moves generalizing connection past with
  | nil => simp [turns] at split
  | cons head rest ih =>
      obtain ⟨time, move⟩ := head
      cases past with
      | nil =>
          obtain ⟨rfl, -⟩ := List.cons.inj split
          exact ⟨[], List.nil_prefix, rfl, rfl⟩
      | cons first past =>
          obtain ⟨rfl, behind⟩ := List.cons.inj split
          obtain ⟨front, leads, same, before⟩ := ih behind
          exact ⟨(time, move) :: front, List.cons_prefix_cons.mpr ⟨rfl, leads⟩,
            congrArg _ same, before⟩

/-- As long as no ping is sent, a ping that waits has waited from the beginning, and no generation
was left since. -/
theorem awaits_of_unpinged (connection : Connection) (moves : List (Time × Move))
    (unpinged : ∀ turn ∈ connection.turns moves, turn.before.IsSound ∧
      turn.before.engine.pending.IsDistinct ∧ ∀ sync, turn.heard? ≠ some (.ping sync)) :
    ∀ turn ∈ connection.turns moves, ∀ entry ∈ turn.before.engine.pending.entries,
      entry.waiter = .ping → turn.before.engine.generation = connection.engine.generation ∧
        ∃ other ∈ connection.engine.pending.entries, other.claim = entry.claim := by
  induction moves generalizing connection with
  | nil => exact fun _ member => nomatch member
  | cons head rest ih =>
      obtain ⟨time, move⟩ := head
      let first : Turn := ⟨time, move, connection⟩
      have turns : connection.turns ((time, move) :: rest) = first :: first.after.turns rest := rfl
      rw [turns] at unpinged ⊢
      obtain ⟨⟨sound, distinct, unsent⟩, others⟩ := List.forall_mem_cons.mp unpinged
      intro turn member entry waiting waits
      rcases List.mem_cons.mp member with rfl | behind
      · exact ⟨rfl, entry, waiting, rfl⟩
      · obtain ⟨same, middle, between, claim⟩ := ih _ others turn behind entry waiting waits
        simp only [Entry.claim, Prod.mk.injEq] at claim
        obtain ⟨sync, deadline, job, waiter⟩ := claim
        rcases first.origin_of_pending sound distinct between with
          ⟨kept, other, before, origin⟩ | ⟨stimulus, heard, asked⟩
        · refine ⟨same.trans kept, other, before, origin.trans ?_⟩
          simp only [Entry.claim, sync, deadline, job, waiter]
        · rw [waiter, waits] at asked
          rw [Stimulus.eq_ping_of_asks asked] at heard
          exact absurd heard (unsent _)

theorem turns_before_later (split : connection.turns moves = past ++ turn :: future)
    (cut : future = before ++ next :: behind) :
    ∃ front, front <+: moves ∧ connection.turns front = past ++ turn :: before ∧
      next.before = connection.run front := by
  rw [cut] at split
  exact turns_before (split.trans (List.append_assoc past (turn :: before) _).symm)

theorem mem_turns_of_later (split : connection.turns moves = past ++ turn :: future)
    (member : next ∈ future) : next ∈ connection.turns moves := by
  rw [split]
  exact List.mem_append_right _ (List.mem_cons_of_mem _ member)

/-! ### Behind the end of the pings -/

section

variable {endpoint : Endpoint} {settings : Settings}
  (apt : ∀ turn ∈ (start endpoint settings).turns moves, turn.IsApt)
  (split : (start endpoint settings).turns moves = past ++ turn :: future)
include apt

theorem probes_of_front {front : List (Time × Move)} (leads : front <+: moves) :
    ((start endpoint settings).run front).Probes settings ((start endpoint settings).turns front) :=
  probes_of_apt endpoint settings front fun other early =>
    apt other (mem_turns_of_front leads early)

include split

/-- A buffer finds the engine without socket and attempt only before the first attempt. -/
theorem undialed_of_later (cut : future = before ++ next :: behind)
    (running : next.before.engine.life = .running)
    (vacant : next.before.engine.phase = .disconnected) :
    ¬HasDialed (past ++ turn :: before) := by
  obtain ⟨front, leads, same, reached⟩ := turns_before_later split cut
  rw [reached] at running vacant
  have undialed := undialed_of_vacant endpoint settings front
    (fun other early => apt other (mem_turns_of_front leads early)) running vacant
  rw [same] at undialed
  rintro ⟨other, early, generation, dialed⟩
  exact undialed other early generation dialed

variable (heard : turn.heard? = some (.command .disablePing))
include heard

theorem unpinged_of_later (member : next ∈ future) (sync : UInt32) :
    next.heard? ≠ some (.ping sync) := by
  obtain ⟨before, behind, cut⟩ := List.append_of_mem member
  obtain ⟨front, leads, same, reached⟩ := turns_before_later split cut
  have probes := probes_of_front apt leads
  rw [same, ← reached] at probes
  have ended : IsUnpinged (past ++ turn :: before) :=
    ⟨turn, List.mem_append_right _ List.mem_cons_self, heard⟩
  exact (apt next (mem_turns_of_later split member)).unpinged probes ended sync

/-- No more than one ping waits when the pings end. -/
theorem pings_le_one_of_disablePing : turn.after.engine.pending.pings ≤ 1 := by
  obtain ⟨front, leads, same, reached⟩ := turns_before split
  have probes := probes_of_front apt leads
  rw [← reached] at probes
  have running := Turn.running_of_heard heard
  obtain ⟨-, probing⟩ :=
    probes.stands.resolve_left fun collapsed => nomatch running.symm.trans collapsed
  rw [Turn.pending_of_disablePing probes.accounts.sound heard]
  exact probing.pings_le_one

/-- A deadline that costs the socket is that of the ping that was left waiting. -/
theorem losesPingOf_of_leaves (member : next ∈ future) (rings : next.heard? = some .alarm)
    (leaves : next.Leaves) : next.LosesPingOf turn := by
  obtain ⟨rest, rfl⟩ := turns_behind split
  have awaits := turn.after.awaits_of_unpinged rest fun later member => by
    obtain ⟨sound, distinct⟩ := sound_distinct_of_mem_turns (mem_turns_of_later split member)
    exact ⟨sound, distinct, unpinged_of_later apt split heard member⟩
  have among := mem_turns_of_later split member
  obtain ⟨entry, lost⟩ :=
    ((areLocal endpoint settings moves apt).alarms next among rings).losesPeer_of_leaves leaves
  exact ⟨entry, lost, awaits next member entry lost.waited lost.waiter⟩

theorem upset_or_losesPingOf (member : next ∈ future) {stimulus : Stimulus}
    (hears : next.heard? = some stimulus)
    (cause : next.before.engine.IsCut next.time stimulus) :
    (∃ stimulus ∈ next.heard?, next.before.engine.IsUpset stimulus) ∨ next.LosesPingOf turn := by
  rcases cause.isUpset_or with upset | rfl
  · exact .inl ⟨stimulus, hears, upset⟩
  · obtain ⟨sound, distinct⟩ := sound_distinct_of_mem_turns (mem_turns_of_later split member)
    have leaves : next.Leaves := (next.isCaused sound distinct).torn.mpr ⟨_, hears, .inl cause⟩
    exact .inr (losesPingOf_of_leaves apt split heard member hears leaves)

/-- Whatever makes the connection start anew, it is no other ping. -/
theorem cause_of_reconnects (cut : future = before ++ next :: behind)
    (reconnects : next.Reconnects (past ++ turn :: before)) :
    (∃ stimulus ∈ next.heard?, next.before.engine.IsUpset stimulus) ∨ next.LosesPingOf turn := by
  have member : next ∈ future := cut ▸ List.mem_append_right _ List.mem_cons_self
  obtain ⟨sound, distinct⟩ := sound_distinct_of_mem_turns (mem_turns_of_later split member)
  rcases reconnects with ⟨leaves, going⟩ | ⟨⟨_, here, generation, dialed⟩, again⟩
  · obtain ⟨stimulus, hears, cause | closing⟩ := (next.isCaused sound distinct).torn.mp leaves
    · exact upset_or_losesPingOf apt split heard member hears cause
    · exact absurd (closing ▸ hears) going
  · rw [List.mem_singleton.mp here] at dialed
    obtain ⟨stimulus, hears, may⟩ := next.mayCause sound rfl dialed
    cases may with
    | ordinary ordinary => cases ordinary
    | opened asked vacant =>
        have running := Turn.running_of_heard hears
        exact absurd again (undialed_of_later apt split cut running vacant)
    | openedByPing asked =>
        subst asked
        exact absurd hears (unpinged_of_later apt split heard member _)
    | failed reported =>
        subst reported
        exact .inl ⟨_, hears, .connectFailed _⟩
    | torn cause => exact upset_or_losesPingOf apt split heard member hears cause

end

/-- The socket on which a ping waits is lost once. -/
theorem losesPingOf_once {endpoint : Endpoint} {settings : Settings}
    (split : (start endpoint settings).turns moves = past ++ turn :: future) :
    future.Pairwise fun earlier later => earlier.LosesPingOf turn → ¬later.LosesPingOf turn := by
  have ordered := generations_rise endpoint settings moves
  rw [split] at ordered
  have behind := (List.pairwise_cons.mp (List.pairwise_append.mp ordered).2.1).2
  refine behind.imp fun {earlier later} order first second => ?_
  obtain ⟨entry, lost, same, -⟩ := first
  obtain ⟨-, -, again, -⟩ := second
  have left := lost.generation
  omega

/-- In every run in which the world keeps to what the engine has told it, the engine sends no ping
after it has heard to send none, and connects again over no other ping than the one that was
waiting then. -/
theorem endsPings_of_apt (endpoint : Endpoint) (settings : Settings) (moves : List (Time × Move))
    (apt : ∀ turn ∈ (start endpoint settings).turns moves, turn.IsApt)
    {past future : List Turn} {turn : Turn}
    (split : (start endpoint settings).turns moves = past ++ turn :: future)
    (heard : turn.heard? = some (.command .disablePing)) : EndsPings past turn future where
  unsent later member := by
    have unpinged := unpinged_of_later apt split heard member
    have sound := (sound_distinct_of_mem_turns (mem_turns_of_later split member)).1
    exact ⟨unpinged, fun write => later.enqueued_by_caller sound unpinged⟩
  single := pings_le_one_of_disablePing apt split heard
  causes _ _ _ cut reconnects := cause_of_reconnects apt split heard cut reconnects
  once := losesPingOf_once split

end Connection

end RequestMux.Client
