import RequestMux.Proofs.Client.Accounts
import RequestMux.Proofs.Client.Alarms
import RequestMux.Proofs.Client.Hearing
import RequestMux.Proofs.Client.Reactions

/-!
# Why callers are dismissed

A caller is dismissed only when the connection is torn down or shut down, or when another
request takes its id; and whoever waits when the connection is torn down is dismissed.
Nothing else that is told to an engine dismisses anybody.
-/

namespace RequestMux.Client

open Pending (Alarm Entry Table Waiter displaced tickets)

namespace Connection

/-- Every turn of a run begins where the moves before it have led. -/
theorem turns_prefix {connection : Connection} {moves : List (Time × Move)} {turn : Turn}
    (member : turn ∈ connection.turns moves) :
    ∃ past, past ++ [(turn.time, turn.move)] <+: moves ∧ turn.before = connection.run past := by
  induction moves generalizing connection with
  | nil => cases member
  | cons head rest ih =>
      obtain ⟨time, move⟩ := head
      rcases List.mem_cons.mp member with rfl | later
      · exact ⟨[], ⟨rest, rfl⟩, rfl⟩
      · obtain ⟨past, leads, before⟩ := ih later
        exact ⟨(time, move) :: past, List.cons_prefix_cons.mpr ⟨rfl, leads⟩, before⟩

variable {endpoint : Endpoint} {settings : Settings} {moves : List (Time × Move)} {turn : Turn}

theorem accounts_of_mem_turns (member : turn ∈ (start endpoint settings).turns moves) :
    ∃ accepted history, Accounts accepted history turn.before := by
  obtain ⟨past, -, before⟩ := turns_prefix member
  rw [before]
  exact ⟨_, _, Accounts.run endpoint settings past⟩

theorem sound_distinct_of_mem_turns (member : turn ∈ (start endpoint settings).turns moves) :
    turn.before.IsSound ∧ turn.before.engine.pending.IsDistinct := by
  obtain ⟨_, _, sound, ledger⟩ := accounts_of_mem_turns member
  exact ⟨sound, ledger.distinct⟩

end Connection

theorem Life.farewell_running {more : List Effect}
    (farewell : ∀ effect ∈ more, Life.running.isFarewell effect = true) : more = [] := by
  cases more with
  | nil => rfl
  | cons effect rest => exact nomatch farewell effect List.mem_cons_self

theorem Life.dismissedIn_collapsed {more : List Effect}
    (farewell : ∀ effect ∈ more, Life.collapsed.isFarewell effect = true) :
    dismissedIn more = [] := by
  refine List.filterMap_eq_nil_iff.mpr fun effect member => ?_
  have said := farewell effect member
  cases effect with
  | resolved _ _ => cases said
  | _ => rfl

namespace Engine

/-- What may take a request out of the table while the connection stays: its response, its
deadline, or another request with its id. -/
inductive Ends (now : Time) (engine : Engine) (entry : Entry) : Stimulus → Prop where
  | answered {packet : Wire.Packet} (same : packet.header.sync = entry.sync) :
      Ends now engine entry (.report engine.generation (.frame packet))
  | expired (due : entry.deadline ≤ now) : Ends now engine entry .alarm
  | replaced {stimulus : Stimulus} {waiter : Waiter} (asked : stimulus.Asks entry.sync waiter) :
      Ends now engine entry stimulus

/-- What never dismisses anybody. -/
inductive IsHarmless (now : Time) (engine : Engine) : Stimulus → Prop where
  /-- An attempt that has failed, or took too long. -/
  | connectFailed (generation : Nat) (failure : IoFailure) :
      IsHarmless now engine (.report generation (.connectFailed failure))
  /-- A response, whether somebody waits for it or not. -/
  | frame (generation : Nat) (packet : Wire.Packet) :
      IsHarmless now engine (.report generation (.frame packet))
  | stale {generation : Nat} (report : Report) (old : generation ≠ engine.generation) :
      IsHarmless now engine (.report generation report)
  /-- The deadline of a caller. -/
  | expired {alarm : Alarm} {rung table : Table} {entry : Entry} {ticket : Nat}
      (ringing : engine.pending.ring? now = some (alarm, rung))
      (fired : rung.takeExpired alarm.sync now = (.fired entry, table))
      (called : entry.waiter = .caller ticket) : IsHarmless now engine .alarm
  | disablePing : IsHarmless now engine (.command .disablePing)

variable {now : Time} {engine : Engine} {stimulus : Stimulus}

theorem IsHarmless.uncut (harmless : engine.IsHarmless now stimulus) :
    ¬engine.IsCut now stimulus := by
  intro cut
  cases harmless with
  | stale report old => cases cut <;> exact old rfl
  | expired ringing fired called =>
      cases cut with
      | pingFailed again also pinged =>
          cases ringing.symm.trans again
          cases fired.symm.trans also
          exact nomatch called.symm.trans pinged
  | _ => cases cut

theorem IsHarmless.not_asks (harmless : engine.IsHarmless now stimulus) (sync : UInt32)
    (waiter : Waiter) : ¬stimulus.Asks sync waiter := by
  intro asked
  cases harmless <;> exact asked

theorem IsHarmless.ne_shutdown (harmless : engine.IsHarmless now stimulus) :
    stimulus ≠ .command .shutdown := by
  rintro rfl
  cases harmless

theorem IsCut.ne_shutdown (cut : engine.IsCut now stimulus) : stimulus ≠ .command .shutdown := by
  rintro rfl
  cases cut

/-- A request that has left the table was answered, its time was up, or its id was taken. -/
theorem Shifts.kept_or_ends {effects : List Effect} {after : Engine}
    (shifts : engine.Shifts now stimulus effects after) (distinct : engine.pending.IsDistinct)
    {entry : Entry} (member : entry ∈ engine.pending.entries) :
    (∃ other ∈ after.pending.entries, other.claim = entry.claim) ∨
      engine.Ends now entry stimulus := by
  -- an entry that one id was erased for is still there, or is the one with this id
  have erased (sync : UInt32) (entries : List Entry)
      (left : (engine.pending.erase sync).entries ⊆ entries) :
      (∃ other ∈ entries, other.claim = entry.claim) ∨ sync = entry.sync := by
    by_cases same : sync = entry.sync
    · exact .inr same
    · refine .inl ⟨entry, left (List.mem_filter.mpr ⟨member, ?_⟩), rfl⟩
      exact bne_iff_ne.mpr fun equal => same equal.symm
  cases shifts with
  | still same undismissed =>
      have there : entry.claim ∈ after.pending.entries.map Entry.claim :=
        same ▸ List.mem_map_of_mem member
      obtain ⟨other, here, claim⟩ := List.mem_map.mp there
      exact .inl ⟨other, here, claim⟩
  | @entered sync waiter write asked entries =>
      have left : (engine.pending.erase sync).entries ⊆ after.pending.entries := by
        rw [entries]
        exact List.subset_append_left _ _
      exact (erased sync _ left).imp_right fun same => .replaced (same ▸ asked)
  | @answered packet other heard found entries =>
      have left := erased packet.header.sync after.pending.entries (by rw [entries]; exact .refl _)
      exact left.imp_right fun same => heard ▸ .answered same
  | @expired sync other heard found due entries =>
      have left := erased sync after.pending.entries (by rw [entries]; exact .refl _)
      refine left.imp_right fun same => ?_
      obtain ⟨there, named⟩ := Table.find?_sync found
      have one : other = entry :=
        List.inj_on_of_nodup_map distinct there member (named.trans same)
      exact heard ▸ .expired (one ▸ due)

/-- Whoever is dismissed while the connection stays had the id that another request took. -/
theorem Shifts.replaced {effects : List Effect} {after : Engine}
    (shifts : engine.Shifts now stimulus effects after) {ticket : Nat}
    (dismissed : ticket ∈ dismissedIn effects) :
    ∃ entry waiter, entry ∈ engine.pending.entries ∧ entry.waiter = .caller ticket ∧
      stimulus.Asks entry.sync waiter := by
  cases shifts with
  | @entered sync waiter write asked entries displaced =>
      rw [displaced, Option.mem_toList] at dismissed
      obtain ⟨entry, found, called⟩ := Option.bind_eq_some_iff.mp dismissed
      obtain ⟨there, rfl⟩ := Table.find?_sync found
      refine ⟨entry, waiter, there, ?_, asked⟩
      cases waits : entry.waiter with
      | caller other =>
          rw [waits] at called
          cases called
          rfl
      | ping =>
          rw [waits] at called
          cases called
  | still same undismissed => exact absurd (undismissed ▸ dismissed) List.not_mem_nil
  | answered heard found entries undismissed =>
      exact absurd (undismissed ▸ dismissed) List.not_mem_nil
  | expired heard found due entries undismissed =>
      exact absurd (undismissed ▸ dismissed) List.not_mem_nil

end Engine

namespace Turn

variable {turn : Turn} {stimulus : Stimulus}

/-- A shutdown that the engine hears was first in the mailbox. -/
theorem shutdown_heard (heard : turn.heard? = some (.command .shutdown)) :
    turn.move = .serve ∧ ∃ rest, turn.before.mailbox = .shutdown :: rest := by
  obtain ⟨time, move, connection⟩ := turn
  have told := stimulus?_of_heard? heard
  cases move with
  | serve =>
      refine ⟨rfl, ?_⟩
      change connection.mailbox.head?.map Stimulus.command = _ at told
      cases waiting : connection.mailbox with
      | nil =>
          rw [waiting] at told
          cases told
      | cons command rest =>
          rw [waiting] at told
          cases told
          exact ⟨rest, rfl⟩
  | _ => cases told

/-- A shutdown dismisses those in the table, and those whose writes were still in the mailbox. -/
theorem dismissedIn_shutdown (heard : turn.heard? = some (.command .shutdown)) :
    dismissedIn turn.effects =
        dismissedIn (turn.before.engine.step turn.time (.command .shutdown)).2 ++
          Connection.callers turn.before.mailbox.tail := by
  have running := running_of_heard heard
  obtain ⟨move, rest, waiting⟩ := shutdown_heard heard
  have stopped : (turn.before.engine.step turn.time (.command .shutdown)).1.life = .stopped := by
    unfold Engine.step
    rw [running]
    rfl
  have serves : turn.effects = (turn.before.takeOver rest
      (turn.before.engine.step turn.time (.command .shutdown))).2 := by
    rw [effects, move]
    change (turn.before.serve turn.time).2 = _
    rw [Connection.serve, waiting]
  rw [serves, waiting, Connection.takeOver, stopped]
  dsimp only [Reaction.andThen, Connection.dismiss, Engine.emit]
  rw [dismissedIn_append, dismissedIn_append, dismissedIn_map_error]
  exact List.append_nil _

end Turn

/-- Whether everybody who is dismissed in a turn is dismissed for a cause, and everybody who has to
be. -/
structure Turn.IsCaused (turn : Turn) : Prop where
  /-- The connection is torn down for one of the causes, and for no other. -/
  torn : turn.after.engine.generation ≠ turn.before.engine.generation ↔
    ∃ stimulus ∈ turn.heard?,
      turn.before.engine.IsCut turn.time stimulus ∨ stimulus = .command .shutdown
  /-- Then exactly those in the table are dismissed, nobody is told anything else, and nobody is
  left. -/
  cut : ∀ stimulus ∈ turn.heard?, turn.before.engine.IsCut turn.time stimulus →
    (dismissedIn turn.effects).Perm (tickets turn.before.engine.pending.entries) ∧
      (resolvedIn turn.effects).Perm (tickets turn.before.engine.pending.entries) ∧
      turn.after.engine.pending.entries = []
  /-- A shutdown dismisses those in the mailbox, too. -/
  shutDown : turn.heard? = some (.command .shutdown) →
    (dismissedIn turn.effects).Perm (tickets turn.before.engine.pending.entries ++
        Connection.callers turn.before.mailbox.tail) ∧
      turn.after.engine.pending.entries = []
  /-- Otherwise a caller is dismissed only because another request takes its id. -/
  dismissed : ∀ ticket ∈ dismissedIn turn.effects, ∃ stimulus ∈ turn.heard?,
    turn.before.engine.IsCut turn.time stimulus ∨ stimulus = .command .shutdown ∨
      ∃ entry waiter, entry ∈ turn.before.engine.pending.entries ∧
        entry.waiter = .caller ticket ∧ stimulus.Asks entry.sync waiter
  harmless : ∀ stimulus ∈ turn.heard?, turn.before.engine.IsHarmless turn.time stimulus →
    dismissedIn turn.effects = []
  /-- Whoever is not dismissed waits on, is answered, or has waited long enough. -/
  kept : ∀ entry ∈ turn.before.engine.pending.entries,
    (∃ other ∈ turn.after.engine.pending.entries, other.claim = entry.claim) ∨
      ∃ stimulus ∈ turn.heard?, turn.before.engine.IsCut turn.time stimulus ∨
        stimulus = .command .shutdown ∨ turn.before.engine.Ends turn.time entry stimulus ∨
        turn.after.engine.life = .collapsed

namespace Turn

variable {turn : Turn} {stimulus : Stimulus}

/-- Where the engine hears nothing, nobody is dismissed. -/
theorem IsCaused.of_unheard (unheard : turn.heard? = none)
    (same : (turn.after.engine.pending, turn.after.engine.generation) =
      (turn.before.engine.pending, turn.before.engine.generation))
    (silent : turn.effects = []) : turn.IsCaused := by
  simp only [Prod.mk.injEq] at same
  obtain ⟨pending, generation⟩ := same
  constructor
  case torn =>
    rw [unheard]
    refine ⟨fun moved => absurd generation moved, ?_⟩
    rintro ⟨stimulus, heard, -⟩
    cases heard
  case cut => exact unheard ▸ nofun
  case shutDown => exact unheard ▸ nofun
  case dismissed => exact silent ▸ nofun
  case harmless => exact unheard ▸ nofun
  case kept => exact fun entry member => .inl ⟨entry, pending ▸ member, rfl⟩

/-- What the engine hears tears the connection down. -/
theorem IsCaused.of_cut (heard : turn.heard? = some stimulus)
    (cause : turn.before.engine.IsCut turn.time stimulus)
    (torn : turn.before.engine.IsTorn turn.effects turn.after.engine) : turn.IsCaused where
  torn := by
    refine ⟨fun _ => ⟨stimulus, heard, .inl cause⟩, fun _ => ?_⟩
    rw [torn.left]
    exact Nat.succ_ne_self _
  cut _ _ _ := ⟨torn.dismissed, torn.told, torn.emptied⟩
  shutDown closing := by
    cases heard.symm.trans closing
    exact absurd rfl cause.ne_shutdown
  dismissed _ _ := ⟨stimulus, heard, .inl cause⟩
  harmless other also harmless := by
    cases heard.symm.trans also
    exact absurd cause harmless.uncut
  kept _ _ := .inr ⟨stimulus, heard, .inl cause⟩

theorem IsCaused.of_shutDown (heard : turn.heard? = some (.command .shutdown))
    (torn : turn.before.engine.IsTorn
      (turn.before.engine.step turn.time (.command .shutdown)).2 turn.after.engine) :
    turn.IsCaused where
  torn := by
    refine ⟨fun _ => ⟨_, heard, .inr rfl⟩, fun _ => ?_⟩
    rw [torn.left]
    exact Nat.succ_ne_self _
  cut other also cause := by
    cases heard.symm.trans also
    exact absurd rfl cause.ne_shutdown
  shutDown _ := by
    rw [dismissedIn_shutdown heard]
    exact ⟨torn.dismissed.append_right _, torn.emptied⟩
  dismissed _ _ := ⟨_, heard, .inr (.inl rfl)⟩
  harmless other also harmless := by
    cases heard.symm.trans also
    exact absurd rfl harmless.ne_shutdown
  kept _ _ := .inr ⟨_, heard, .inr (.inl rfl)⟩

/-- The engine neither leaves the generation nor dismisses anybody without another request. -/
theorem IsCaused.of_kept (heard : turn.heard? = some stimulus)
    (uncut : ¬turn.before.engine.IsCut turn.time stimulus)
    (unasked : stimulus ≠ .command .shutdown)
    (same : turn.after.engine.generation = turn.before.engine.generation)
    (replaced : ∀ ticket ∈ dismissedIn turn.effects, ∃ entry waiter,
      entry ∈ turn.before.engine.pending.entries ∧ entry.waiter = .caller ticket ∧
        stimulus.Asks entry.sync waiter)
    (kept : ∀ entry ∈ turn.before.engine.pending.entries,
      (∃ other ∈ turn.after.engine.pending.entries, other.claim = entry.claim) ∨
        turn.before.engine.Ends turn.time entry stimulus ∨
          turn.after.engine.life = .collapsed) : turn.IsCaused where
  torn := by
    refine ⟨fun moved => absurd same moved, ?_⟩
    rintro ⟨other, also, cut | closing⟩
    · cases heard.symm.trans also
      exact absurd cut uncut
    · cases heard.symm.trans also
      exact absurd closing unasked
  cut other also cause := by
    cases heard.symm.trans also
    exact absurd cause uncut
  shutDown closing := by
    cases heard.symm.trans closing
    exact absurd rfl unasked
  dismissed ticket member := ⟨stimulus, heard, .inr (.inr (replaced ticket member))⟩
  harmless other also harmless := by
    cases heard.symm.trans also
    refine List.eq_nil_iff_forall_not_mem.mpr fun ticket member => ?_
    obtain ⟨entry, waiter, -, -, asked⟩ := replaced ticket member
    exact harmless.not_asks entry.sync waiter asked
  kept entry member := (kept entry member).imp_right fun ends =>
    ⟨stimulus, heard, .inr (.inr ends)⟩

/-- In every turn everybody is dismissed for a cause. -/
theorem isCaused (sound : turn.before.IsSound)
    (distinct : turn.before.engine.pending.IsDistinct) : turn.IsCaused := by
  cases turn.becomes sound with
  | idle board unheard like becomes silent =>
      exact .of_unheard unheard (by rw [becomes]) silent
  | heard stimulus board more hears awake like becomes effects farewell =>
      have told : dismissedIn turn.effects =
          dismissedIn (turn.before.engine.step turn.time stimulus).2 ++ dismissedIn more := by
        rw [effects, dismissedIn_append]
      cases Engine.step_reacts turn.time awake distinct stimulus with
      | cut cause running torn =>
          rw [running] at farewell
          rw [Life.farewell_running farewell, List.append_nil] at effects
          refine .of_cut hears cause ?_
          rw [effects, becomes]
          exact ⟨torn.dismissed, torn.told, torn.emptied, torn.left, torn.unlinked⟩
      | shutDown asked stopped torn =>
          subst asked
          refine .of_shutDown hears ?_
          rw [becomes]
          exact ⟨torn.dismissed, torn.told, torn.emptied, torn.left, torn.unlinked⟩
      | collapse uncut unasked collapsed same emptied undismissed =>
          rw [collapsed] at farewell
          rw [undismissed, Life.dismissedIn_collapsed farewell] at told
          refine .of_kept hears uncut unasked (by rw [becomes]; exact same) (told ▸ nofun)
            fun _ _ => .inr (.inr ?_)
          rw [becomes]
          exact collapsed
      | goOn uncut unasked goes =>
          rw [goes.running] at farewell
          rw [Life.farewell_running farewell, List.append_nil] at effects
          refine .of_kept hears uncut unasked (by rw [becomes]; exact goes.generation)
            (fun ticket member => goes.shifts.replaced (effects ▸ member)) fun entry member => ?_
          rw [becomes]
          exact (goes.shifts.kept_or_ends distinct member).imp_right .inl

end Turn

/-- Whenever a run of a connection tears the connection down, for one of the causes, or ends it,
exactly those in the table are dismissed, at the end with those whose writes wait in the mailbox,
nobody is told anything else, and the table is left empty.  Conversely a caller is dismissed only
then, or because another request took its id while it was pending.  So neither a failed attempt
nor a frame, a stale report, the deadline of a caller or the end of pings dismisses anybody; a
request leaves the table otherwise only by its response, at its deadline or with its id, unless
the engine breaks down because no alarm can be set. -/
theorem Connection.dismissals_have_causes (endpoint : Endpoint) (settings : Settings)
    (moves : List (Time × Move)) :
    ∀ turn ∈ (Connection.start endpoint settings).turns moves, turn.IsCaused ∧
      (turn.after.engine.life = .collapsed →
        longestDelay < settings.effectiveReadTimeout.toNat) := by
  intro turn member
  obtain ⟨past, -, before⟩ := turns_prefix member
  obtain ⟨sound, ledger⟩ := Accounts.run endpoint settings past
  rw [← before] at sound ledger
  refine ⟨turn.isCaused sound ledger.distinct, ?_⟩
  have after : turn.after = (Connection.start endpoint settings).run
      (past ++ [(turn.time, turn.move)]) := by
    rw [run_append, ← before]
    rfl
  rw [after]
  exact (Lifecycle.run endpoint settings _).overdue

/-- A caller whose request is pending when the peer closes is dismissed for this cause. -/
theorem Connection.dismissals_have_causes_when_the_peer_closes :
    let start := Connection.start ⟨.dotted [127, 0, 0, 1], 3301⟩ .standard
    let moves : List (Time × Move) := [(0, .submit .empty (some 0)), (0, .serve),
      (0, .report 0 (.connected 0)), (5, .report 0 (.readFailed .connectionClosed))]
    ∃ turn ∈ start.turns moves, dismissedIn turn.effects = [0] ∧ turn.IsCaused := by
  intro start moves
  let closing : Turn := ⟨5, .report 0 (.readFailed .connectionClosed), start.run (moves.take 3)⟩
  have member : closing ∈ start.turns moves := by decide +kernel
  exact ⟨closing, member, by decide +kernel,
    (dismissals_have_causes ⟨.dotted [127, 0, 0, 1], 3301⟩ .standard moves closing member).1⟩

end RequestMux.Client
