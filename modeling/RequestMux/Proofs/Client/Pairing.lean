import RequestMux.Proofs.Client.Alarms

/-!
# Entries and alarms in pairs

Whoever owns a table enters requests, takes them out, drains it, and is told of alarms, which
may ring at any time, early or late.  All the while each entry has one alarm and each alarm one
entry.  An alarm rings for the entry it was set for and for no other, and once that entry has
left it never rings again, even if another request has taken the id.
-/

namespace RequestMux.Client.Pending

/-- What the owner of a table can do. -/
inductive Call where
  | register (sync : UInt32) (deadline : Time) (job : Nat) (waiter : Waiter)
  | resolve (sync : UInt32)
  | drain
  /-- The alarm with a key goes off, if it is set, and the table is asked at some time what this
  means. -/
  | ring (key : Nat) (now : Time)
  deriving DecidableEq, Repr

/-- Let the alarm with a key go off, whether it is due or not.  It is set no longer, whatever this
turns out to mean. -/
def Table.setOff? (table : Table) (key : Nat) (now : Time) : Option (Expiry × Table) :=
  (table.alarms.find? fun alarm => alarm.key == key).map fun alarm =>
    (table.disarm alarm.key).takeExpired alarm.sync now

/-- A table in use: the entries that came in, and those that were given back to the owner. -/
structure Usage where
  entered : List Entry
  returned : List Entry
  table : Table
  deriving DecidableEq, Repr

namespace Usage

def start : Usage := ⟨[], [], .empty⟩

def call (usage : Usage) : Call → Usage
  | .register sync deadline job waiter =>
    let entry := usage.table.newEntry sync deadline job waiter
    let registered := usage.table.register entry
    ⟨usage.entered ++ [entry], usage.returned ++ registered.1.toList, registered.2⟩
  | .resolve sync =>
    let resolved := usage.table.resolve sync
    { usage with returned := usage.returned ++ resolved.1.toList, table := resolved.2 }
  | .drain =>
    let drained := usage.table.drain
    { usage with returned := usage.returned ++ drained.1, table := drained.2 }
  | .ring key now =>
    match usage.table.setOff? key now with
    | some (.fired entry, left) =>
      { usage with returned := usage.returned ++ [entry], table := left }
    | some (_, left) => { usage with table := left }
    | none => usage

/-- The usage after some calls, one after the other. -/
def after (usage : Usage) (calls : List Call) : Usage := calls.foldl call usage

end Usage

namespace Table

variable {table : Table} {entry other : Entry} {sync : UInt32} {now : Time} {alarm : Alarm}

/-- Whether the alarms of a table are those of its entries, in whatever order. -/
structure IsPaired (table : Table) : Prop extends table.IsKeyed where
  paired : table.alarms.Perm (table.entries.map Entry.timer)

/-- An entry with a new alarm in place of the one that went off. -/
def renew (table : Table) (entry : Entry) : Table :=
  { (table.disarm entry.alarm).arm entry.sync entry.deadline with
    entries := table.entries.map fun other =>
      if other.sync == entry.sync then { other with alarm := table.nextKey } else other }

/-- The one whose alarm is renewed has a new key, and the others stay as they are. -/
theorem entries_renew (keyed : table.IsKeyed) (member : entry ∈ table.entries) :
    (table.renew entry).entries.Perm
      ({ entry with alarm := table.nextKey } :: (table.erase entry.sync).entries) := by
  have apart := (entries_erase keyed.distinct (keyed.find?_eq member)).map fun other =>
    if other.sync == entry.sync then { other with alarm := table.nextKey } else other
  have others : (table.erase entry.sync).entries.map (fun other =>
      if other.sync == entry.sync then { other with alarm := table.nextKey } else other) =
      (table.erase entry.sync).entries := by
    refine (List.map_congr_left fun other there => ?_).trans (List.map_id _)
    have differs : other.sync ≠ entry.sync := by simpa using (List.mem_filter.mp there).2
    simp [differs]
  rw [List.map_cons, others] at apart
  simpa [renew] using apart

theorem claims_renew (table : Table) (entry : Entry) :
    (table.renew entry).entries.map Entry.claim = table.entries.map Entry.claim := by
  simp only [renew, List.map_map]
  refine List.map_congr_left fun other _ => ?_
  simp only [Function.comp_apply]
  split <;> rfl

theorem IsKeyed.renew (keyed : table.IsKeyed) (member : entry ∈ table.entries) :
    (table.renew entry).IsKeyed := by
  have renewed := entries_renew keyed member
  have without := keyed.leave entry.sync entry.alarm
  constructor
  case distinct => exact isDistinct_of_claims keyed.distinct (claims_renew table entry)
  case keyed =>
    apply (renewed.map Entry.alarm).nodup_iff.mpr
    rw [List.map_cons, List.nodup_cons]
    refine ⟨fun old => ?_, without.keyed⟩
    obtain ⟨other, there, same⟩ := List.mem_map.mp old
    exact absurd same (Nat.ne_of_lt (without.fresh other there))
  case fresh =>
    intro other there
    change other.alarm < table.nextKey + 1
    rcases List.mem_cons.mp (renewed.mem_iff.mp there) with rfl | old
    · exact Nat.lt_succ_self _
    · exact Nat.lt_succ_of_lt (without.fresh other old)

namespace IsPaired

theorem empty : Table.empty.IsPaired := ⟨isArmed_empty.isKeyed, .refl _⟩

theorem drain (table : Table) : table.drain.2.IsPaired := ⟨(isArmed_drain table).isKeyed, .refl _⟩

/-- The alarms that are set for other entries. -/
theorem disarmed (paired : table.IsPaired) (member : entry ∈ table.entries) :
    (table.disarm entry.alarm).alarms.Perm ((table.erase entry.sync).entries.map Entry.timer) := by
  rw [← paired.toIsKeyed.timers_leave member]
  exact paired.paired.filter _

/-- An entry leaves with its alarm. -/
theorem leave (paired : table.IsPaired) (member : entry ∈ table.entries) :
    ((table.erase entry.sync).disarm entry.alarm).IsPaired :=
  ⟨paired.toIsKeyed.leave entry.sync entry.alarm, paired.disarmed member⟩

theorem resolve (paired : table.IsPaired) (sync : UInt32) : (table.resolve sync).2.IsPaired := by
  cases found : table.find? sync with
  | none =>
      rw [resolve_of_absent found]
      exact paired
  | some entry =>
      obtain ⟨member, rfl⟩ := find?_sync found
      rw [resolve_of_find? found]
      exact paired.leave member

/-- A new entry comes with its alarm. -/
theorem register (paired : table.IsPaired) (sync : UInt32) (deadline : Time) (job : Nat)
    (waiter : Waiter) :
    (table.register (table.newEntry sync deadline job waiter)).2.IsPaired := by
  let left := (table.resolve sync).2
  let made := table.newEntry sync deadline job waiter
  have timer : made.timer = ⟨left.nextKey, sync, deadline⟩ := by
    rw [nextKey_resolve]
    rfl
  have added := (paired.resolve sync).paired.append_right [made.timer]
  rw [← List.map_singleton, ← List.map_append, List.map_singleton, timer] at added
  exact ⟨paired.toIsKeyed.register sync deadline job waiter, added⟩

/-- An alarm is renewed with its entry. -/
theorem renew (paired : table.IsPaired) (member : entry ∈ table.entries) :
    (table.renew entry).IsPaired := by
  refine ⟨paired.toIsKeyed.renew member, ?_⟩
  have set : (table.renew entry).alarms =
      (table.disarm entry.alarm).alarms ++ [⟨table.nextKey, entry.sync, entry.deadline⟩] := rfl
  calc (table.renew entry).alarms
    _ = (table.disarm entry.alarm).alarms ++ [⟨table.nextKey, entry.sync, entry.deadline⟩] := set
    _ |>.Perm (⟨table.nextKey, entry.sync, entry.deadline⟩ :: (table.disarm entry.alarm).alarms) :=
      List.perm_append_singleton _ _
    _ |>.Perm (({ entry with alarm := table.nextKey } ::
        (table.erase entry.sync).entries).map Entry.timer) := (paired.disarmed member).cons _
    _ |>.Perm ((table.renew entry).entries.map Entry.timer) :=
      ((entries_renew paired.toIsKeyed member).map Entry.timer).symm

/-- Exactly one alarm is set for the id of an entry: its own. -/
theorem alarms_of_sync (paired : table.IsPaired) (member : entry ∈ table.entries) :
    (table.alarms.filter fun alarm => alarm.sync == entry.sync) = [entry.timer] := by
  have others : (table.erase entry.sync).entries.filter (fun other => other.sync == entry.sync) =
      [] := by
    refine List.filter_eq_nil_iff.mpr fun other there => ?_
    simpa using (List.mem_filter.mp there).2
  have own : (table.entries.filter fun other => other.sync == entry.sync).Perm [entry] := by
    have apart := (entries_erase paired.distinct (paired.toIsKeyed.find?_eq member)).filter
      fun other => other.sync == entry.sync
    simpa [others] using apart
  have set := paired.paired.filter fun alarm => alarm.sync == entry.sync
  rw [List.filter_map] at set
  exact List.perm_singleton.mp (set.trans (own.map Entry.timer))

/-- The alarm of an entry is the only one with its key. -/
theorem find?_alarm (paired : table.IsPaired) (member : entry ∈ table.entries) :
    (table.alarms.find? fun alarm => alarm.key == entry.alarm) = some entry.timer := by
  cases found : table.alarms.find? fun alarm => alarm.key == entry.alarm with
  | none =>
      have set : entry.timer ∈ table.alarms :=
        paired.paired.mem_iff.mpr (List.mem_map_of_mem member)
      exact absurd (beq_self_eq_true _) (List.find?_eq_none.mp found entry.timer set)
  | some alarm =>
      have set := paired.paired.mem_iff.mp (List.mem_of_find?_eq_some found)
      obtain ⟨other, there, rfl⟩ := List.mem_map.mp set
      have same : other.alarm = entry.alarm := by simpa [Entry.timer] using List.find?_some found
      rw [List.inj_on_of_nodup_map paired.keyed there member same]

/-- When the alarm of an entry goes off, its request has timed out, or the alarm is renewed if the
deadline is still ahead. -/
theorem setOff?_eq (paired : table.IsPaired) (member : entry ∈ table.entries) (now : Time) :
    table.setOff? entry.alarm now = some (if now < entry.deadline then
        (.rearmed, table.renew entry)
      else (.fired entry, (table.erase entry.sync).disarm entry.alarm)) := by
  have found : (table.disarm entry.alarm).find? entry.sync = some entry :=
    paired.toIsKeyed.find?_eq member
  rw [setOff?, paired.find?_alarm member, Option.map_some]
  simp only [takeExpired, Entry.timer, found]
  rfl

/-- No other alarm can go off. -/
theorem setOff?_eq_none (paired : table.IsPaired) {key : Nat}
    (none : ∀ entry ∈ table.entries, entry.alarm ≠ key) (now : Time) :
    table.setOff? key now = .none := by
  have unset : (table.alarms.find? fun alarm => alarm.key == key) = .none := by
    refine List.find?_eq_none.mpr fun alarm set => ?_
    obtain ⟨entry, member, rfl⟩ := List.mem_map.mp (paired.paired.mem_iff.mp set)
    simpa [Entry.timer] using none entry member
  rw [setOff?, unset, Option.map_none]

/-- The alarm that rings when its time has come goes off like any other. -/
theorem setOff?_of_ring? (paired : table.IsPaired) {rung : Table}
    (ringing : table.ring? now = some (alarm, rung)) :
    table.setOff? alarm.key now = some (rung.takeExpired alarm.sync now) := by
  unfold ring? at ringing
  split at ringing
  · cases ringing
  · next next =>
      split at ringing
      · cases ringing
        have set := paired.paired.mem_iff.mp (nextAlarm?_eq_some next).1
        obtain ⟨entry, member, rfl⟩ := List.mem_map.mp set
        have own : (table.alarms.find? fun alarm => alarm.key == entry.timer.key) =
            some entry.timer := paired.find?_alarm member
        rw [setOff?, own, Option.map_some]
      · cases ringing

end IsPaired

end Table

namespace Usage

variable {usage : Usage} {entry : Entry}

theorem after_append (usage : Usage) (calls more : List Call) :
    usage.after (calls ++ more) = (usage.after calls).after more :=
  List.foldl_append

/-- What a call that lets an alarm go off comes to. -/
theorem call_ring_cases (paired : usage.table.IsPaired) (key : Nat) (now : Time) :
    usage.call (.ring key now) = usage ∨
    ∃ entry ∈ usage.table.entries, entry.alarm = key ∧
      (now < entry.deadline ∧
          usage.call (.ring key now) = { usage with table := usage.table.renew entry } ∨
        entry.deadline ≤ now ∧
          usage.call (.ring key now) = { usage with
            returned := usage.returned ++ [entry]
            table := (usage.table.erase entry.sync).disarm entry.alarm }) := by
  by_cases own : ∃ entry ∈ usage.table.entries, entry.alarm = key
  · obtain ⟨entry, member, rfl⟩ := own
    refine .inr ⟨entry, member, rfl, ?_⟩
    have off := paired.setOff?_eq member now
    by_cases early : now < entry.deadline
    · rw [if_pos early] at off
      exact .inl ⟨early, by simp only [call, off]⟩
    · rw [if_neg early] at off
      exact .inr ⟨Nat.le_of_not_lt early, by simp only [call, off]⟩
  · have none : ∀ entry ∈ usage.table.entries, entry.alarm ≠ key :=
      fun entry member same => own ⟨entry, member, same⟩
    exact .inl (by simp only [call, paired.setOff?_eq_none none now])

/-- Whether all entries that came in are accounted for. -/
structure IsBalanced (usage : Usage) : Prop where
  /-- Each entry has an id of its own and one alarm, which is set for its deadline, and there are
  no other alarms. -/
  paired : usage.table.IsPaired
  /-- Each entry that came in was given back once, or is still in the table. -/
  balanced : (usage.entered.map Entry.claim).Perm
    ((usage.returned ++ usage.table.entries).map Entry.claim)

theorem IsBalanced.start : Usage.start.IsBalanced := ⟨.empty, .refl _⟩

/-- An entry that leaves the table is given back. -/
theorem IsBalanced.give {returned : List Entry} {table : Table} (balanced : usage.IsBalanced)
    (paired : table.IsPaired) (left : usage.table.entries.Perm (returned ++ table.entries)) :
    ({ usage with returned := usage.returned ++ returned, table } : Usage).IsBalanced := by
  refine ⟨paired, balanced.balanced.trans ?_⟩
  rw [List.append_assoc]
  exact (left.append_left usage.returned).map _

theorem IsBalanced.call (balanced : usage.IsBalanced) (call : Call) :
    (usage.call call).IsBalanced := by
  have distinct := balanced.paired.distinct
  cases call with
  | register sync deadline job waiter =>
      let entry := usage.table.newEntry sync deadline job waiter
      refine ⟨balanced.paired.register sync deadline job waiter, ?_⟩
      have moved := Table.entries_register distinct entry
      change ((usage.entered ++ [entry]).map Entry.claim).Perm _
      calc (usage.entered ++ [entry]).map Entry.claim
        _ = usage.entered.map Entry.claim ++ [entry].map Entry.claim := List.map_append
        _ |>.Perm ((usage.returned ++ usage.table.entries).map Entry.claim ++
            [entry].map Entry.claim) := balanced.balanced.append_right _
        _ = (usage.returned ++ (usage.table.entries ++ [entry])).map Entry.claim := by
          rw [← List.map_append, List.append_assoc]
        _ |>.Perm _ := by
          change List.Perm _ ((usage.returned ++ _ ++ _).map Entry.claim)
          rw [List.append_assoc]
          exact (moved.append_left _).map _
  | resolve sync =>
      refine balanced.give (balanced.paired.resolve sync) ?_
      cases found : usage.table.find? sync with
      | none =>
          rw [Table.resolve_of_absent found]
          exact .refl _
      | some entry =>
          rw [Table.resolve_of_find? found]
          exact Table.entries_erase distinct found
  | drain => exact balanced.give (.drain _) (.of_eq (List.append_nil _).symm)
  | ring key now =>
      rcases call_ring_cases balanced.paired key now with same | ⟨entry, member, rfl, early | late⟩
      · rw [same]
        exact balanced
      · obtain ⟨-, renewed⟩ := early
        rw [renewed]
        refine ⟨balanced.paired.renew member, ?_⟩
        rw [List.map_append, Table.claims_renew, ← List.map_append]
        exact balanced.balanced
      · obtain ⟨-, fired⟩ := late
        rw [fired]
        exact balanced.give (balanced.paired.leave member)
          (Table.entries_erase distinct (balanced.paired.toIsKeyed.find?_eq member))

theorem IsBalanced.after (balanced : usage.IsBalanced) (calls : List Call) :
    (usage.after calls).IsBalanced := by
  induction calls generalizing usage with
  | nil => exact balanced
  | cons call later ih => exact ih (balanced.call call)

/-- Keys are used once: an entry with an old key was in the table before, as it is. -/
theorem mem_of_call (paired : usage.table.IsPaired) (call : Call)
    (member : entry ∈ (usage.call call).table.entries) (old : entry.alarm < usage.table.nextKey) :
    entry ∈ usage.table.entries := by
  have stayed (sync : UInt32) (left : entry ∈ (usage.table.erase sync).entries) :
      entry ∈ usage.table.entries := List.mem_of_mem_filter left
  cases call with
  | register sync deadline job waiter =>
      let made := usage.table.newEntry sync deadline job waiter
      change entry ∈ (usage.table.register made).2.entries at member
      rw [(Table.register_entries _ _).2] at member
      rcases List.mem_append.mp member with left | new
      · exact stayed sync left
      · rw [List.mem_singleton.mp new] at old
        exact absurd old (Nat.lt_irrefl _)
  | resolve sync =>
      change entry ∈ (usage.table.resolve sync).2.entries at member
      unfold Table.resolve at member
      split at member
      · exact member
      · exact stayed sync member
  | drain => cases member
  | ring key now =>
      rcases call_ring_cases paired key now with same | ⟨entry, there, rfl, early | late⟩
      · rwa [same] at member
      · rw [early.2] at member
        rcases List.mem_cons.mp ((Table.entries_renew paired.toIsKeyed there).mem_iff.mp member)
          with renewed | left
        · rw [renewed] at old
          exact absurd old (Nat.lt_irrefl _)
        · exact stayed _ left
      · rw [late.2] at member
        exact stayed _ member

theorem nextKey_call (paired : usage.table.IsPaired) (call : Call) :
    usage.table.nextKey ≤ (usage.call call).table.nextKey := by
  cases call with
  | register sync deadline job waiter =>
      have key := Table.nextKey_resolve usage.table sync
      change _ ≤ (usage.table.resolve sync).2.nextKey + 1
      omega
  | resolve sync => exact Nat.le_of_eq (Table.nextKey_resolve usage.table sync).symm
  | drain => exact Nat.le_refl _
  | ring key now =>
      rcases call_ring_cases paired key now with same | ⟨entry, there, rfl, early | late⟩
      · exact Nat.le_of_eq (congrArg (fun usage : Usage => usage.table.nextKey) same).symm
      · rw [early.2]
        exact Nat.le_succ _
      · rw [late.2]
        exact Nat.le_refl _

theorem nextKey_after (balanced : usage.IsBalanced) (calls : List Call) :
    usage.table.nextKey ≤ (usage.after calls).table.nextKey := by
  induction calls generalizing usage with
  | nil => exact Nat.le_refl _
  | cons call later ih =>
      exact Nat.le_trans (nextKey_call balanced.paired call) (ih (balanced.call call))

/-- What is in the table under an old key was there all the time. -/
theorem mem_of_after (balanced : usage.IsBalanced) (calls : List Call)
    (member : entry ∈ (usage.after calls).table.entries) (old : entry.alarm < usage.table.nextKey) :
    entry ∈ usage.table.entries := by
  induction calls generalizing usage with
  | nil => exact member
  | cons call later ih =>
      have still := ih (balanced.call call) member
        (Nat.lt_of_lt_of_le old (nextKey_call balanced.paired call))
      exact mem_of_call balanced.paired call still old

/-- The alarm of an entry that has left the table is never set again. -/
theorem setOff?_of_left (balanced : usage.IsBalanced) (between later : List Call)
    (member : entry ∈ usage.table.entries) (left : entry ∉ (usage.after between).table.entries)
    (now : Time) : ((usage.after between).after later).table.setOff? entry.alarm now = none := by
  have amid := balanced.after between
  refine (amid.after later).paired.setOff?_eq_none (fun other there same => left ?_) now
  -- an entry with this key can only be the one that has left, and would have been there then
  have old : other.alarm < usage.table.nextKey := same ▸ balanced.paired.fresh entry member
  have once : other ∈ (usage.after between).table.entries :=
    mem_of_after amid later there (Nat.lt_of_lt_of_le old (nextKey_after balanced between))
  have first : other ∈ usage.table.entries := mem_of_after balanced between once old
  rwa [List.inj_on_of_nodup_map balanced.paired.keyed first member same] at once

/-- Whether a table that was used in some calls has kept entries and alarms together. -/
structure IsFaithful (calls : List Call) (usage : Usage) : Prop extends usage.IsBalanced where
  /-- At its deadline or later, the alarm of an entry gives back this entry. -/
  fires : ∀ entry ∈ usage.table.entries, ∀ now, entry.deadline ≤ now →
    usage.table.setOff? entry.alarm now =
      some (.fired entry, (usage.table.erase entry.sync).disarm entry.alarm)
  /-- Before its deadline, the entry stays as it is, but for one alarm in place of the other. -/
  renews : ∀ entry ∈ usage.table.entries, ∀ now, now < entry.deadline →
    ∃ left renewed, usage.table.setOff? entry.alarm now = some (.rearmed, left) ∧
      left.entries.Perm (renewed :: (usage.table.erase entry.sync).entries) ∧
      renewed.claim = entry.claim ∧
      (left.alarms.filter fun alarm => alarm.sync == entry.sync) = [renewed.timer]
  /-- No alarm goes off but that of an entry. -/
  silent : ∀ key, (∀ entry ∈ usage.table.entries, entry.alarm ≠ key) → ∀ now,
    usage.table.setOff? key now = none
  /-- The next alarm goes off in this way when it is due. -/
  rings : ∀ now alarm rung, usage.table.ring? now = some (alarm, rung) →
    usage.table.setOff? alarm.key now = some (rung.takeExpired alarm.sync now)
  /-- Once an entry has left the table, its alarm never goes off, whoever has its id then. -/
  gone : ∀ before between later, calls = before ++ between ++ later →
    ∀ entry ∈ (Usage.start.after before).table.entries,
      entry ∉ (Usage.start.after (before ++ between)).table.entries → ∀ now,
        usage.table.setOff? entry.alarm now = none

/-- Whatever is done with a table, its entries and alarms stay together: each entry that came in is
given back once or still there, and an alarm goes off for the entry it was set for or not at
all. -/
theorem alarms_stay_with_their_entries (calls : List Call) :
    (start.after calls).IsFaithful calls := by
  have balanced := IsBalanced.start.after calls
  have paired := balanced.paired
  constructor
  case toIsBalanced => exact balanced
  case fires =>
    intro entry member now reached
    rw [paired.setOff?_eq member, if_neg (Nat.not_lt_of_le reached)]
  case renews =>
    intro entry member now ahead
    have renewed := Table.entries_renew paired.toIsKeyed member
    have there := renewed.mem_iff.mpr List.mem_cons_self
    refine ⟨_, _, ?_, renewed, rfl, (paired.renew member).alarms_of_sync there⟩
    rw [paired.setOff?_eq member, if_pos ahead]
  case silent => exact fun key none now => paired.setOff?_eq_none none now
  case rings => exact fun now alarm rung ringing => paired.setOff?_of_ring? ringing
  case gone =>
    rintro before between later rfl entry member left now
    rw [after_append] at left
    rw [after_append, after_append]
    exact setOff?_of_left (IsBalanced.start.after before) between later member left now

end Usage

end RequestMux.Client.Pending
