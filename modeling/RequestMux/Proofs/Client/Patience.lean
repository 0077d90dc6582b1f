import Mathlib.Algebra.Group.Nat.Even
import RequestMux.Proofs.Client.Deadlines
import RequestMux.Proofs.Client.Dismissal
import RequestMux.Settings.Change

/-!
# Deadlines that were asked for

A read timeout that was set last among the changes of the settings is the deadline of every request,
in whole milliseconds.  One below a millisecond is kept as zero, and zero stands for the connect
timeout.
-/

namespace RequestMux

/-- Nanoseconds of a millisecond. -/
def Duration.millisecond : Nat := 1000000

theorem Duration.toNat_milliseconds (span : Duration) :
    span.milliseconds.toNat = min (span.nanoseconds / millisecond) (UInt64.size - 1) := by
  have bound : min (span.nanoseconds / millisecond) (UInt64.size - 1) < UInt64.size :=
    Nat.lt_of_le_of_lt (Nat.min_le_right _ _) (by decide)
  exact UInt64.toNat_ofNat_of_lt' bound

namespace Settings

variable {after : List Change}

/-- Whether a change leaves the read timeout as it is. -/
def Change.keepsReadTimeout : Change → Bool
  | .whole _ | .readTimeout _ => false
  | _ => true

theorem readTimeout_foldl (settings : Settings)
    (kept : ∀ change ∈ after, change.keepsReadTimeout = true) :
    (after.foldl apply settings).readTimeout = settings.readTimeout := by
  induction after generalizing settings with
  | nil => rfl
  | cons change after ih =>
      obtain ⟨first, others⟩ := List.forall_mem_cons.mp kept
      rw [List.foldl_cons, ih _ others]
      cases change with
      | whole _ => cases first
      | readTimeout _ => cases first
      | _ => rfl

/-- The read timeout that is set last is the one that is built. -/
theorem readTimeout_build (before : List Change) (span : Duration)
    (kept : ∀ change ∈ after, change.keepsReadTimeout = true) :
    (build (before ++ .readTimeout span :: after)).readTimeout = span.milliseconds := by
  rw [build, List.foldl_append, List.foldl_cons, readTimeout_foldl _ kept]
  rfl

/-- Only whole milliseconds count, and where there are none the connect timeout stands in. -/
theorem effectiveReadTimeout_build (before : List Change) (span : Duration)
    (kept : ∀ change ∈ after, change.keepsReadTimeout = true) :
    let settings := build (before ++ .readTimeout span :: after)
    settings.effectiveReadTimeout.toNat =
      if span.nanoseconds < Duration.millisecond then settings.connectTimeout.toNat
      else min (span.nanoseconds / Duration.millisecond) (UInt64.size - 1) := by
  intro settings
  have built : settings.readTimeout = span.milliseconds := readTimeout_build before span kept
  have length := span.toNat_milliseconds
  rw [effectiveReadTimeout, built]
  by_cases brief : span.nanoseconds < Duration.millisecond
  · rw [Nat.div_eq_of_lt brief] at length
    have nothing : span.milliseconds = 0 := UInt64.toNat_inj.mp length
    rw [if_pos nothing, if_pos brief]
  · have whole : 0 < span.nanoseconds / Duration.millisecond :=
      Nat.div_pos (Nat.le_of_not_lt brief) (by decide)
    have something : span.milliseconds ≠ 0 := by
      intro zero
      rw [zero] at length
      have none : (0 : UInt64).toNat = 0 := rfl
      have most : 0 < UInt64.size - 1 := by decide
      omega
    rw [if_neg something, if_neg brief, length]

end Settings

namespace Client

open Pending (Entry)

variable {now : Time} {engine after : Engine} {stimulus : Stimulus} {effects : List Effect}
  {entry : Entry}

/-- Every request that is entered gets its deadline from the time and the read timeout. -/
theorem Course.deadline (course : Course now stimulus engine effects after)
    (entered : .registered entry ∈ effects) : entry.deadline = now + engine.patience := by
  obtain ⟨first, middle, later, onset, ticks, rfl⟩ := course
  rcases List.mem_append.mp entered with early | late
  · cases onset.brings early with
    | idle quiet => cases quiet
    | registered asked => rfl
  · let spared (effect : Effect) : Prop := effect ≠ .registered entry
    refine absurd rfl (ticks.forall_effects spared (fun tick effect member => ?_) _ late)
    cases tick.brings member with
    | idle quiet => exact fun same => nomatch same ▸ quiet
    | _ => nofun

/-- A request is entered, as long as an alarm can be set for it. -/
theorem Course.registered_of_write {packet : Wire.Packet} {ticket : Nat}
    (course : Course now (.command (.write packet (some ticket))) engine effects after)
    (possible : engine.patience ≤ longestDelay) :
    .registered (engine.entryFor now packet.header.sync (.caller ticket)) ∈ effects := by
  obtain ⟨first, middle, later, onset, -, rfl⟩ := course
  cases onset with
  | plain told => cases told
  | enter talk pingAt asked said possible =>
      obtain ⟨rfl, rfl⟩ := asked
      exact List.mem_append_left _ (List.mem_append_left _ List.mem_cons_self)
  | collapse asked impossible => exact absurd possible (Nat.not_le.mpr impossible)

namespace Connection

variable {endpoint : Endpoint} {settings : Settings} {moves : List (Time × Move)} {turn : Turn}

theorem patience_of_mem_turns (member : turn ∈ (start endpoint settings).turns moves) :
    turn.before.engine.patience = settings.effectiveReadTimeout.toNat := by
  obtain ⟨past, -, before⟩ := turns_prefix member
  have same := (Lifecycle.run endpoint settings past).same
  rw [before, Engine.patience, same]

/-- In every run, requests get their deadlines from the settings of the connection. -/
theorem deadline_of_registered (member : turn ∈ (start endpoint settings).turns moves)
    (entered : .registered entry ∈ turn.effects) :
    entry.deadline = turn.time + settings.effectiveReadTimeout.toNat := by
  rw [← patience_of_mem_turns member]
  cases turn.becomes (isSound_of_mem_turns member) with
  | idle _ _ _ _ silent =>
      rw [silent] at entered
      cases entered
  | heard stimulus _ more _ awake _ _ effects farewell =>
      rw [effects] at entered
      rcases List.mem_append.mp entered with reacted | added
      · exact (Engine.step_course turn.time awake stimulus).deadline reacted
      · cases Life.isIdle_of_isFarewell (farewell _ added)

/-- In every run, a request that the engine takes is entered. -/
theorem registered_of_heard (member : turn ∈ (start endpoint settings).turns moves)
    (possible : settings.effectiveReadTimeout.toNat ≤ longestDelay) {packet : Wire.Packet}
    {ticket : Nat} (asked : turn.heard? = some (.command (.write packet (some ticket)))) :
    ∃ entry, .registered entry ∈ turn.effects ∧ entry.waiter = .caller ticket := by
  rw [← patience_of_mem_turns member] at possible
  cases turn.becomes (isSound_of_mem_turns member) with
  | idle _ unheard => cases unheard.symm.trans asked
  | heard stimulus _ _ hears awake _ _ effects _ =>
      obtain rfl := Option.some.inj (hears.symm.trans asked)
      have course := Engine.step_course turn.time awake (.command (.write packet (some ticket)))
      have entered := course.registered_of_write possible
      exact ⟨_, effects ▸ List.mem_append_left _ entered, rfl⟩

end Connection

/-- **Requests get the deadline that was asked for.**  Let a read timeout of at least a millisecond
be set, and neither it nor the settings as a whole be set again.  Whatever else is changed before or
after, the read timeout that counts is this span in whole milliseconds, as far as 64 bits go, and
never longer.  In every run of a connection with these settings, each request that is entered has
its deadline just so long after the turn in which it is entered; and each request that the engine
takes is entered, as long as an alarm can be set for it. -/
theorem requests_get_the_deadline_set (endpoint : Endpoint) (before after : List Settings.Change)
    (span : Duration) (moves : List (Time × Move))
    (kept : ∀ change ∈ after, change.keepsReadTimeout = true) (whole : 1000000 ≤ span.nanoseconds) :
    let settings := Settings.build (before ++ .readTimeout span :: after)
    let limit := min (span.nanoseconds / 1000000) (2 ^ 64 - 1)
    let turns := (Connection.start endpoint settings).turns moves
    settings.effectiveReadTimeout.toNat = limit ∧ limit * 1000000 ≤ span.nanoseconds ∧
    (∀ turn ∈ turns, ∀ entry, .registered entry ∈ turn.effects →
      entry.deadline = turn.time + limit) ∧
    (limit ≤ longestDelay → ∀ turn ∈ turns, ∀ packet ticket,
      turn.heard? = some (.command (.write packet (some ticket))) →
      ∃ entry, .registered entry ∈ turn.effects ∧ entry.waiter = .caller ticket) := by
  intro settings limit turns
  have effective : settings.effectiveReadTimeout.toNat = limit := by
    have built := Settings.effectiveReadTimeout_build before span kept
    exact built.trans (if_neg (Nat.not_lt.mpr whole))
  have within : limit * 1000000 ≤ span.nanoseconds :=
    Nat.le_trans (Nat.mul_le_mul_right _ (Nat.min_le_left _ _)) (Nat.div_mul_le_self _ _)
  refine ⟨effective, within, fun turn member entry entered => ?_,
    fun possible turn member packet ticket asked => ?_⟩
  · rw [← effective]
    exact Connection.deadline_of_registered member entered
  · exact Connection.registered_of_heard member (effective ▸ possible) asked

/-- A connect timeout that is set later leaves the deadline as it is. -/
theorem requests_get_the_deadline_set_before_the_connect_timeout :
    let after : List Settings.Change := [.connectTimeout ⟨7000000⟩, .pingInterval none]
    let settings :=
      Settings.build ([.connectTimeout ⟨5000000⟩] ++ .readTimeout (.ofMicroseconds 2999) :: after)
    let moves : List (Time × Move) := [(4, .submit .empty (some 3)), (10, .serve)]
    let turns := (Connection.start ⟨.dotted [127, 0, 0, 1], 3301⟩ settings).turns moves
    (∀ change ∈ after, change.keepsReadTimeout = true) ∧
      1000000 ≤ (Duration.ofMicroseconds 2999).nanoseconds ∧
      settings.effectiveReadTimeout.toNat = 2 ∧
      ∃ turn ∈ turns, ∃ entry, .registered entry ∈ turn.effects ∧ entry.waiter = .caller 3 ∧
        entry.deadline = 12 := by
  intro after settings moves turns
  have kept : ∀ change ∈ after, change.keepsReadTimeout = true := by decide
  have whole : 1000000 ≤ (Duration.ofMicroseconds 2999).nanoseconds := by decide
  obtain ⟨effective, -, deadlines, entered⟩ := requests_get_the_deadline_set
    ⟨.dotted [127, 0, 0, 1], 3301⟩ [.connectTimeout ⟨5000000⟩] after (.ofMicroseconds 2999) moves
    kept whole
  let begun := Connection.start ⟨.dotted [127, 0, 0, 1], 3301⟩ settings
  let turn : Turn := ⟨10, .serve, begun.run (moves.take 1)⟩
  have taken : turn ∈ turns := List.mem_cons_of_mem _ List.mem_cons_self
  obtain ⟨entry, registered, waiter⟩ := entered (by decide) turn taken .empty 3 rfl
  exact ⟨kept, whole, effective, turn, taken, entry, registered, waiter,
    deadlines turn taken entry registered⟩

/-- A read timeout below a millisecond is no deadline: a request made at the beginning waits as long
as the connect timeout says, and times out only then. -/
theorem brief_read_timeout_gives_way :
    let span := Duration.ofMicroseconds 900
    let settings := Settings.build [.readTimeout span, .pingInterval none]
    let moves : List (Time × Move) :=
      [(0, .submit .empty (some 3)), (0, .serve), (999, .alarm), (1000, .alarm)]
    0 < span.nanoseconds ∧ min (span.nanoseconds / 1000000) (2 ^ 64 - 1) = 0 ∧
      settings.effectiveReadTimeout.toNat = 1000 ∧ span.nanoseconds < 1000 * 1000000 ∧
      tellingsIn ((Connection.start ⟨.dotted [127, 0, 0, 1], 3301⟩ settings).turns moves) =
        [⟨3, .timeout, 1000⟩] := by
  decide +kernel

end Client

end RequestMux
