import Mathlib.Data.List.Nodup
import RequestMux.Proofs.Client.Course

/-!
# Alarms and deadlines

Each entry of the table has one alarm of its own, which is set for its deadline, and there
are no others.  So an alarm rings for an entry whose deadline has come, and never for
nobody or too early, and as long as no time passes beyond the next alarm, no deadline does.
-/

namespace RequestMux.Client

namespace Pending

/-- The alarm that belongs to an entry. -/
def Entry.timer (entry : Entry) : Alarm := ⟨entry.alarm, entry.sync, entry.deadline⟩

namespace Table

variable {table rung : Table} {now : Time} {alarm : Alarm} {entry other : Entry} {sync : UInt32}

/-- Whether the alarms of a table are those of its entries. -/
structure IsArmed (table : Table) : Prop where
  distinct : table.IsDistinct
  armed : table.alarms = table.entries.map Entry.timer
  keyed : (table.entries.map Entry.alarm).Nodup
  fresh : ∀ entry ∈ table.entries, entry.alarm < table.nextKey

theorem isArmed_empty : Table.empty.IsArmed :=
  ⟨List.nodup_nil, rfl, List.nodup_nil, nofun⟩

theorem isArmed_drain (table : Table) : table.drain.2.IsArmed :=
  ⟨List.nodup_nil, rfl, List.nodup_nil, fun _ member => absurd member List.not_mem_nil⟩

theorem find?_sync (found : table.find? sync = some entry) :
    entry ∈ table.entries ∧ entry.sync = sync :=
  ⟨List.mem_of_find?_eq_some found, by simpa using List.find?_some found⟩

theorem nextKey_resolve (table : Table) (sync : UInt32) :
    (table.resolve sync).2.nextKey = table.nextKey := by
  unfold Table.resolve
  split <;> rfl

/-- Whether every entry has an id and an alarm of its own, and no key is used that is still to
come. -/
structure IsKeyed (table : Table) : Prop where
  distinct : table.IsDistinct
  keyed : (table.entries.map Entry.alarm).Nodup
  fresh : ∀ entry ∈ table.entries, entry.alarm < table.nextKey

namespace IsKeyed

/-- An entry is found under its id. -/
theorem find?_eq (keyed : table.IsKeyed) (member : entry ∈ table.entries) :
    table.find? entry.sync = some entry := by
  cases found : table.find? entry.sync with
  | none => exact absurd (beq_self_eq_true _) (List.find?_eq_none.mp found entry member)
  | some other =>
      obtain ⟨there, same⟩ := find?_sync found
      rw [List.inj_on_of_nodup_map keyed.distinct there member same]

/-- Two entries have one id just if they have one alarm. -/
theorem sync_eq_iff (keyed : table.IsKeyed) (member : entry ∈ table.entries)
    (there : other ∈ table.entries) : other.sync = entry.sync ↔ other.alarm = entry.alarm := by
  constructor
  · intro same
    rw [List.inj_on_of_nodup_map keyed.distinct there member same]
  · intro same
    rw [List.inj_on_of_nodup_map keyed.keyed there member same]

/-- The alarms of the others are those with other keys. -/
theorem timers_leave (keyed : table.IsKeyed) (member : entry ∈ table.entries) :
    (table.entries.map Entry.timer).filter (fun alarm => alarm.key != entry.alarm) =
      (table.erase entry.sync).entries.map Entry.timer := by
  rw [List.filter_map]
  refine congrArg (List.map Entry.timer) (List.filter_congr fun other there => ?_)
  change (other.alarm != entry.alarm) = (other.sync != entry.sync)
  rw [Bool.eq_iff_iff, bne_iff_ne, bne_iff_ne]
  exact not_congr (keyed.sync_eq_iff member there).symm

/-- Entries may leave, and alarms too. -/
theorem leave (keyed : table.IsKeyed) (sync : UInt32) (key : Nat) :
    ((table.erase sync).disarm key).IsKeyed := by
  have fewer : ((table.erase sync).disarm key).entries.Sublist table.entries :=
    List.filter_sublist
  exact ⟨keyed.distinct.sublist (fewer.map _), keyed.keyed.sublist (fewer.map _),
    fun other there => keyed.fresh other (fewer.subset there)⟩

theorem resolve (keyed : table.IsKeyed) (sync : UInt32) : (table.resolve sync).2.IsKeyed := by
  unfold Table.resolve
  split
  · exact keyed
  · exact keyed.leave sync _

/-- A new entry comes with a new key. -/
theorem register (keyed : table.IsKeyed) (sync : UInt32) (deadline : Time) (job : Nat)
    (waiter : Waiter) :
    (table.register (table.newEntry sync deadline job waiter)).2.IsKeyed := by
  let made := table.newEntry sync deadline job waiter
  let left := (table.resolve sync).2
  have resolved : left.IsKeyed := keyed.resolve sync
  have key : left.nextKey = table.nextKey := nextKey_resolve table sync
  have newest : ∀ entry ∈ left.entries, entry.alarm < made.alarm := fun entry member =>
    Nat.lt_of_lt_of_eq (resolved.fresh entry member) key
  constructor
  case distinct => exact isDistinct_register keyed.distinct made
  case keyed =>
    change ((left.entries ++ [made]).map Entry.alarm).Nodup
    rw [List.map_append]
    refine List.nodup_append.mpr ⟨resolved.keyed, List.pairwise_singleton _ _, ?_⟩
    rintro key old last single rfl
    obtain ⟨entry, member, rfl⟩ := List.mem_map.mp old
    exact absurd (List.mem_singleton.mp single) (Nat.ne_of_lt (newest entry member))
  case fresh =>
    intro entry member
    change entry.alarm < left.nextKey + 1
    rcases List.mem_append.mp member with old | new
    · exact Nat.lt_succ_of_lt (resolved.fresh entry old)
    · rw [List.mem_singleton.mp new, key]
      exact Nat.lt_succ_self _

end IsKeyed

namespace IsArmed

theorem isKeyed (armed : table.IsArmed) : table.IsKeyed :=
  ⟨armed.distinct, armed.keyed, armed.fresh⟩

theorem of_keyed (keyed : table.IsKeyed) (armed : table.alarms = table.entries.map Entry.timer) :
    table.IsArmed :=
  ⟨keyed.distinct, armed, keyed.keyed, keyed.fresh⟩

/-- An entry leaves with its alarm. -/
theorem leave (armed : table.IsArmed) (found : table.find? sync = some entry) :
    ((table.erase sync).disarm entry.alarm).IsArmed := by
  obtain ⟨member, rfl⟩ := find?_sync found
  refine of_keyed (armed.isKeyed.leave entry.sync entry.alarm) ?_
  change table.alarms.filter _ = (table.erase entry.sync).entries.map Entry.timer
  rw [armed.armed]
  exact armed.isKeyed.timers_leave member

theorem resolve (armed : table.IsArmed) (sync : UInt32) : (table.resolve sync).2.IsArmed := by
  unfold Table.resolve
  split
  · exact armed
  · next found => exact armed.leave found

/-- A new entry comes with its alarm. -/
theorem register (armed : table.IsArmed) (sync : UInt32) (deadline : Time) (job : Nat)
    (waiter : Waiter) :
    (table.register (table.newEntry sync deadline job waiter)).2.IsArmed := by
  let left := (table.resolve sync).2
  have resolved : left.IsArmed := armed.resolve sync
  refine of_keyed (armed.isKeyed.register sync deadline job waiter) ?_
  change left.alarms ++ [⟨left.nextKey, sync, deadline⟩] =
    (left.entries ++ [table.newEntry sync deadline job waiter]).map Entry.timer
  rw [resolved.armed, List.map_append, nextKey_resolve]
  rfl

end IsArmed

theorem earlier_cases (first second : Alarm) :
    (earlier first second = first ∨ earlier first second = second) ∧
      (earlier first second).due ≤ first.due ∧ (earlier first second).due ≤ second.due := by
  unfold earlier
  split
  · next less => exact ⟨.inr rfl, Nat.le_of_lt less, Nat.le_refl _⟩
  · next more => exact ⟨.inl rfl, Nat.le_refl _, Nat.le_of_not_lt more⟩

/-- The next alarm is one that is set, and none is due before it. -/
theorem nextAlarm?_eq_some (next : table.nextAlarm? = some alarm) :
    alarm ∈ table.alarms ∧ ∀ other ∈ table.alarms, alarm.due ≤ other.due := by
  have least (rest : List Alarm) (first : Alarm) :
      rest.foldl earlier first ∈ first :: rest ∧
        ∀ other ∈ first :: rest, (rest.foldl earlier first).due ≤ other.due := by
    induction rest generalizing first with
    | nil =>
        exact ⟨List.mem_cons_self, fun other member =>
          List.mem_singleton.mp member ▸ Nat.le_refl _⟩
    | cons second rest ih =>
        obtain ⟨member, least⟩ := ih (earlier first second)
        obtain ⟨either, before, behind⟩ := earlier_cases first second
        have chosen := least _ List.mem_cons_self
        refine ⟨?_, ?_⟩
        · rw [List.foldl_cons]
          rcases List.mem_cons.mp member with same | later
          · rw [same]
            rcases either with same | same <;> simp [same]
          · exact List.mem_cons_of_mem _ (List.mem_cons_of_mem _ later)
        · intro other there
          rw [List.foldl_cons]
          rcases List.mem_cons.mp there with rfl | next
          · exact Nat.le_trans chosen before
          · rcases List.mem_cons.mp next with rfl | later
            · exact Nat.le_trans chosen behind
            · exact least other (List.mem_cons_of_mem _ later)
  unfold nextAlarm? at next
  split at next
  · cases next
  · next first rest alarms =>
      cases next
      rw [alarms]
      exact least rest first

theorem nextAlarm?_eq_none (none : table.nextAlarm? = none) : table.alarms = [] := by
  unfold nextAlarm? at none
  split at none
  · next alarms => exact alarms
  · cases none

/-- Some alarm rings next, no later than any deadline. -/
theorem IsArmed.exists_next (armed : table.IsArmed) (member : entry ∈ table.entries) :
    ∃ alarm, table.nextAlarm? = some alarm ∧ alarm.due ≤ entry.deadline := by
  have set : entry.timer ∈ table.alarms := armed.armed ▸ List.mem_map_of_mem member
  cases next : table.nextAlarm? with
  | none =>
      rw [nextAlarm?_eq_none next] at set
      cases set
  | some alarm => exact ⟨alarm, rfl, (nextAlarm?_eq_some next).2 entry.timer set⟩

theorem IsArmed.leave_rung (armed : table.IsArmed)
    (ringing : table.ring? now = some (alarm, rung)) :
    ∃ entry, table.find? alarm.sync = some entry ∧ entry.deadline ≤ now ∧
      rung.takeExpired alarm.sync now =
        (.fired entry, (table.erase alarm.sync).disarm entry.alarm) := by
  unfold ring? at ringing
  split at ringing
  · cases ringing
  · next next =>
      split at ringing
      · next due =>
          cases ringing
          have set : alarm ∈ table.entries.map Entry.timer :=
            armed.armed ▸ (nextAlarm?_eq_some next).1
          obtain ⟨entry, member, rfl⟩ := List.mem_map.mp set
          have found : table.find? entry.sync = some entry := armed.isKeyed.find?_eq member
          refine ⟨entry, found, due, ?_⟩
          have still : (table.disarm entry.alarm).find? entry.sync = some entry := found
          unfold takeExpired
          split
          · next gone => cases still.symm.trans gone
          · next other here =>
              cases still.symm.trans here
              exact if_neg (Nat.not_lt_of_le due)
      · cases ringing

/-- An alarm never rings in vain. -/
theorem IsArmed.fired_of_ring? (armed : table.IsArmed)
    (ringing : table.ring? now = some (alarm, rung)) {expiry : Expiry} {left : Table}
    (taken : rung.takeExpired alarm.sync now = (expiry, left)) :
    ∃ entry, expiry = .fired entry := by
  obtain ⟨entry, -, -, leaves⟩ := armed.leave_rung ringing
  exact ⟨entry, (congrArg Prod.fst (leaves.symm.trans taken)).symm⟩

end Table

end Pending

open Pending (Entry Table Waiter)

/-- Whether the alarms of an engine are those of its requests, and no deadline has passed. -/
structure Engine.IsTimely (now : Time) (engine : Engine) : Prop where
  armed : engine.pending.IsArmed
  ahead : ∀ entry ∈ engine.pending.entries, now ≤ entry.deadline

variable {now : Time} {engine after : Engine} {effects : List Effect} {stimulus : Stimulus}

theorem Tick.isArmed (tick : Tick now engine effects after) (armed : engine.pending.IsArmed) :
    after.pending.IsArmed := by
  cases tick with
  | dismiss => exact Table.isArmed_drain _
  | _ => exact armed

/-- Whatever the engine hears, its requests keep their alarms. -/
theorem Onset.isArmed (onset : Onset now engine stimulus effects after)
    (armed : engine.pending.IsArmed) : after.pending.IsArmed := by
  cases onset with
  | shutDown => exact Table.isArmed_drain _
  | collapse => exact Table.isArmed_empty
  | enter => exact armed.register _ _ _ _
  | @answer packet _ table found =>
      have resolved := armed.resolve packet.header.sync
      rw [found] at resolved
      exact resolved
  | expire ringing fired =>
      obtain ⟨entry, found, -, leaves⟩ := armed.leave_rung ringing
      cases leaves.symm.trans fired
      exact armed.leave found
  | ring ringing taken early =>
      obtain ⟨entry, fired⟩ := armed.fired_of_ring? ringing taken
      exact absurd fired (early entry)
  | _ => exact armed

theorem Tick.isTimely (tick : Tick now engine effects after) (timely : engine.IsTimely now) :
    after.IsTimely now := by
  refine ⟨tick.isArmed timely.armed, ?_⟩
  cases tick with
  | dismiss => exact nofun
  | _ => exact timely.ahead

theorem Onset.isTimely (onset : Onset now engine stimulus effects after)
    (timely : engine.IsTimely now) : after.IsTimely now := by
  refine ⟨onset.isArmed timely.armed, ?_⟩
  have stay (sync : UInt32) {entries : List Entry}
      (left : entries = (engine.pending.erase sync).entries) :
      ∀ entry ∈ entries, now ≤ entry.deadline := by
    intro entry member
    rw [left] at member
    exact timely.ahead entry (List.mem_of_mem_filter member)
  cases onset with
  | shutDown => exact nofun
  | collapse => exact nofun
  | @enter _ sync waiter talk pingAt asked said possible =>
      intro entry member
      change entry ∈ (engine.pending.register (engine.entryFor now sync waiter)).2.entries at member
      rw [(Table.register_entries _ _).2] at member
      rcases List.mem_append.mp member with old | new
      · exact timely.ahead entry (List.mem_of_mem_filter old)
      · rw [List.mem_singleton.mp new]
        exact Nat.le_add_right _ _
  | @answer packet _ table found =>
      exact stay packet.header.sync (Table.resolve_some found).2
  | @expire alarm _ _ table ringing fired =>
      exact stay alarm.sync (Table.fired_of_ringing ringing fired).2
  | ring ringing taken early =>
      obtain ⟨entry, fired⟩ := timely.armed.fired_of_ring? ringing taken
      exact absurd fired (early entry)
  | _ => exact timely.ahead

/-- No reaction leaves a deadline behind. -/
theorem Course.isTimely (course : Course now stimulus engine effects after)
    (timely : engine.IsTimely now) : after.IsTimely now := by
  let motive (_ : List Effect) (engine : Engine) : Prop := engine.IsTimely now
  exact course.holds (motive := motive) [] (fun onset => onset.isTimely timely)
    fun _ tick held => tick.isTimely held

end RequestMux.Client
