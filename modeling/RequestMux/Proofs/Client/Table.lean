import Mathlib.Data.List.Perm.Basic
import RequestMux.Client.Pending

/-!
# The table of pending requests

No two entries wait for the same id, so that each operation takes out exactly the
entry that it names, and each caller enters and leaves with an entry.
-/

namespace RequestMux.Client.Pending

/-- The ticket of a caller; a ping has none. -/
def Waiter.ticket? : Waiter → Option Nat
  | .caller ticket => some ticket
  | .ping => none

/-- What an entry waits for, whichever alarm is set for it. -/
def Entry.claim (entry : Entry) : UInt32 × Time × Nat × Waiter :=
  (entry.sync, entry.deadline, entry.job, entry.waiter)

/-- The caller whose entry was taken out of the table to make room. -/
def displaced (replaced : Option Entry) : Option Nat :=
  replaced.bind fun entry => entry.waiter.ticket?

theorem tickets_eq (entries : List Entry) :
    tickets entries = entries.filterMap fun entry => entry.waiter.ticket? := rfl

/-- Taking out the entry of an id leaves all others, where no id has two. -/
theorem perm_of_find? {entries : List Entry} {sync : UInt32} {entry : Entry}
    (distinct : (entries.map Entry.sync).Nodup)
    (found : entries.find? (fun other => other.sync == sync) = some entry) :
    entries.Perm (entry :: entries.filter fun other => other.sync != sync) := by
  induction entries with
  | nil => cases found
  | cons other rest ih =>
      obtain ⟨absent, restDistinct⟩ := List.nodup_cons.mp distinct
      by_cases same : other.sync = sync
      · have here : other = entry := by simpa [same] using found
        have untouched : rest.filter (fun other => other.sync != sync) = rest := by
          refine List.filter_eq_self.mpr fun later member => ?_
          have differs : later.sync ≠ sync := fun equal =>
            absent (same ▸ equal ▸ List.mem_map_of_mem member)
          simpa using differs
        subst here
        rw [List.filter_cons_of_neg (by simp [same]), untouched]
      · have later := ih restDistinct (by simpa [same] using found)
        have kept : (other :: rest).filter (fun other => other.sync != sync) =
            other :: rest.filter fun other => other.sync != sync := by
          simp [same]
        rw [kept]
        exact (later.cons other).trans (.swap entry other _)

/-- No two entries of a table wait for the same id. -/
def Table.IsDistinct (table : Table) : Prop := (table.entries.map Entry.sync).Nodup

theorem tickets_cons (entry : Entry) (entries : List Entry) :
    tickets (entry :: entries) = entry.waiter.ticket?.toList ++ tickets entries := by
  simp only [tickets_eq, List.filterMap_cons]
  cases entry.waiter.ticket? <;> rfl

theorem tickets_append (entries more : List Entry) :
    tickets (entries ++ more) = tickets entries ++ tickets more :=
  List.filterMap_append

theorem tickets_singleton (entry : Entry) : tickets [entry] = entry.waiter.ticket?.toList :=
  (tickets_cons entry []).trans (List.append_nil _)

/-- Entries that make the same claims wait for the same ids and have the same callers. -/
theorem same_of_claims {entries others : List Entry}
    (same : entries.map Entry.claim = others.map Entry.claim) :
    entries.map Entry.sync = others.map Entry.sync ∧ tickets entries = tickets others := by
  have syncs (entries : List Entry) :
      entries.map Entry.sync = (entries.map Entry.claim).map fun claim => claim.1 := by
    simp [Entry.claim, Function.comp_def]
  have callers (entries : List Entry) : tickets entries =
      (entries.map Entry.claim).filterMap fun claim => claim.2.2.2.ticket? := by
    simp [tickets_eq, Entry.claim, List.filterMap_map, Function.comp_def]
  rw [syncs entries, syncs others, callers entries, callers others, same]
  exact ⟨rfl, rfl⟩

namespace Table

/-- A ringing alarm leaves the entries alone. -/
theorem entries_of_ring? {table rung : Table} {now : Time} {alarm : Alarm}
    (ringing : table.ring? now = some (alarm, rung)) : rung.entries = table.entries := by
  unfold ring? at ringing
  split at ringing
  · cases ringing
  · split at ringing
    · cases ringing
      rfl
    · cases ringing

theorem fired_of_ringing {table rung left : Table} {now : Time} {alarm : Alarm} {entry : Entry}
    (ringing : table.ring? now = some (alarm, rung))
    (fired : rung.takeExpired alarm.sync now = (.fired entry, left)) :
    table.find? alarm.sync = some entry ∧ left.entries = (table.erase alarm.sync).entries := by
  have kept := entries_of_ring? ringing
  unfold takeExpired at fired
  split at fired
  · cases fired
  · next found =>
      split at fired
      · cases fired
      · cases fired
        refine ⟨?_, ?_⟩
        · simpa only [find?, kept] using found
        · simp only [erase, kept]

theorem due_of_fired {rung left : Table} {now : Time} {sync : UInt32} {entry : Entry}
    (fired : rung.takeExpired sync now = (.fired entry, left)) : entry.deadline ≤ now := by
  unfold takeExpired at fired
  split at fired
  · cases fired
  · split at fired
    · cases fired
    · next reached =>
        cases fired
        exact Nat.le_of_not_lt reached

/-- A deadline that has not come changes no more than the alarm of its entry. -/
theorem claims_of_ringing {table rung left : Table} {now : Time} {alarm : Alarm} {expiry : Expiry}
    (ringing : table.ring? now = some (alarm, rung))
    (taken : rung.takeExpired alarm.sync now = (expiry, left))
    (early : ∀ entry, expiry ≠ .fired entry) :
    left.entries.map Entry.claim = table.entries.map Entry.claim := by
  rw [← entries_of_ring? ringing]
  unfold takeExpired at taken
  split at taken
  · cases taken
    rfl
  · next entry found =>
      split at taken
      · cases taken
        simp only [List.map_map]
        refine List.map_congr_left fun other _ => ?_
        simp only [Function.comp_apply]
        split <;> rfl
      · cases taken
        exact absurd rfl (early entry)

variable {table left : Table} {sync : UInt32} {entry : Entry}

theorem isDistinct_of_claims (distinct : table.IsDistinct)
    (same : left.entries.map Entry.claim = table.entries.map Entry.claim) : left.IsDistinct := by
  rw [IsDistinct, (same_of_claims same).1]
  exact distinct

theorem isDistinct_erase (distinct : table.IsDistinct) : (table.erase sync).IsDistinct :=
  distinct.sublist (List.filter_sublist.map _)

theorem entries_erase (distinct : table.IsDistinct) (found : table.find? sync = some entry) :
    table.entries.Perm (entry :: (table.erase sync).entries) :=
  perm_of_find? distinct found

/-- Taking out the entry of an id takes its caller out. -/
theorem tickets_erase (distinct : table.IsDistinct) (found : table.find? sync = some entry) :
    (tickets table.entries).Perm
      (entry.waiter.ticket?.toList ++ tickets (table.erase sync).entries) := by
  rw [← tickets_cons, tickets_eq, tickets_eq]
  exact (entries_erase distinct found).filterMap _

theorem resolve_of_find? (found : table.find? sync = some entry) :
    table.resolve sync = (some entry, (table.erase sync).disarm entry.alarm) := by
  unfold resolve
  rw [found]

theorem resolve_of_absent (absent : table.find? sync = none) :
    table.resolve sync = (none, table) := by
  unfold resolve
  rw [absent]

theorem resolve_some (found : table.resolve sync = (some entry, left)) :
    table.find? sync = some entry ∧ left.entries = (table.erase sync).entries := by
  unfold resolve at found
  split at found
  · cases found
  · next here =>
      cases found
      exact ⟨here, rfl⟩

theorem erase_of_find?_none (absent : table.find? sync = none) : table.erase sync = table := by
  have untouched : table.entries.filter (fun other => other.sync != sync) = table.entries := by
    refine List.filter_eq_self.mpr fun other member => ?_
    simpa using List.find?_eq_none.mp absent other member
  rw [erase, untouched]

/-- Whichever entry had to go, none of the id is left before the new one enters. -/
theorem register_entries (table : Table) (entry : Entry) :
    (table.register entry).1 = table.find? entry.sync ∧
      (table.register entry).2.entries = (table.erase entry.sync).entries ++ [entry] := by
  unfold register resolve
  split
  · next replaced left resolved =>
      split at resolved
      · next absent =>
          cases resolved
          rw [erase_of_find?_none absent]
          exact ⟨absent.symm, rfl⟩
      · next here =>
          cases resolved
          exact ⟨here.symm, rfl⟩

theorem isDistinct_register (distinct : table.IsDistinct) (entry : Entry) :
    (table.register entry).2.IsDistinct := by
  have free : entry.sync ∉ (table.erase entry.sync).entries.map Entry.sync := by
    simp [erase]
  rw [IsDistinct, (register_entries table entry).2, List.map_append, List.map_singleton]
  refine List.nodup_append.mpr ⟨isDistinct_erase distinct, List.pairwise_singleton _ _, ?_⟩
  rintro sync member other single rfl
  exact free (List.mem_singleton.mp single ▸ member)

/-- A new entry comes in, and the entry of its id goes out. -/
theorem entries_register (distinct : table.IsDistinct) (entry : Entry) :
    (table.entries ++ [entry]).Perm
      ((table.register entry).1.toList ++ (table.register entry).2.entries) := by
  obtain ⟨replaced, entered⟩ := register_entries table entry
  rw [replaced, entered, ← List.append_assoc]
  refine List.Perm.append_right _ ?_
  cases found : table.find? entry.sync with
  | none =>
      rw [erase_of_find?_none found]
      exact .refl _
  | some old => exact entries_erase distinct found

theorem tickets_toList (replaced : Option Entry) :
    tickets replaced.toList = (displaced replaced).toList := by
  cases replaced with
  | none => rfl
  | some entry => exact tickets_singleton entry

/-- A new entry brings its caller in, and takes out the caller of the entry that had to go. -/
theorem tickets_register (distinct : table.IsDistinct) (entry : Entry) :
    (tickets table.entries ++ entry.waiter.ticket?.toList).Perm
      ((displaced (table.register entry).1).toList ++ tickets (table.register entry).2.entries) := by
  rw [← tickets_toList, ← tickets_singleton, ← tickets_append, ← tickets_append, tickets_eq,
    tickets_eq]
  exact (entries_register distinct entry).filterMap _

end Table

end RequestMux.Client.Pending
