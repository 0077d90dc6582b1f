import RequestMux.Client.Outcome

/-!
# Pending requests

The table holds who waits for which id.  Each entry has an alarm of its own, and
the two leave the table together: when the id is answered, when it is taken over,
when the deadline has come, or when the whole table is drained.  An alarm that
rings before the deadline of its entry is set again.
-/

namespace RequestMux.Client.Pending

/-- Who waits for an id. -/
inductive Waiter where
  /-- The caller of a request, known by its ticket. -/
  | caller (ticket : Nat)
  /-- The connection itself, which wants to know whether the peer is alive. -/
  | ping
  deriving DecidableEq, Repr

/-- One pending request. -/
structure Entry where
  sync : UInt32
  deadline : Time
  /-- Key of the alarm that belongs to this entry. -/
  alarm : Nat
  /-- Number of the write that carries the request. -/
  job : Nat
  waiter : Waiter
  deriving DecidableEq, Repr

/-- A timer that is set for an id. -/
structure Alarm where
  key : Nat
  sync : UInt32
  due : Time
  deriving DecidableEq, Repr

/-- All pending requests with their alarms. -/
structure Table where
  entries : List Entry
  alarms : List Alarm
  /-- Key of the next alarm. -/
  nextKey : Nat
  deriving DecidableEq, Repr

/-- What a ringing alarm turned out to mean. -/
inductive Expiry where
  /-- The deadline has come; the entry has left the table. -/
  | fired (entry : Entry)
  /-- The deadline is still ahead; the alarm is set again. -/
  | rearmed
  /-- Nobody waits for the id any more. -/
  | gone
  deriving DecidableEq, Repr

namespace Table

/-- The table without entries. -/
def empty : Table := ⟨[], [], 0⟩

/-- The entry of an id. -/
def find? (table : Table) (sync : UInt32) : Option Entry :=
  table.entries.find? fun entry => entry.sync == sync

/-- Set an alarm. -/
def arm (table : Table) (sync : UInt32) (due : Time) : Table :=
  { table with
    alarms := table.alarms ++ [⟨table.nextKey, sync, due⟩]
    nextKey := table.nextKey + 1 }

/-- Cancel an alarm. -/
def disarm (table : Table) (key : Nat) : Table :=
  { table with alarms := table.alarms.filter fun alarm => alarm.key != key }

/-- Remove the entry of an id. -/
def erase (table : Table) (sync : UInt32) : Table :=
  { table with entries := table.entries.filter fun entry => entry.sync != sync }

/-- Take the entry of an id out of the table and cancel its alarm. -/
def resolve (table : Table) (sync : UInt32) : Option Entry × Table :=
  match table.find? sync with
  | none => (none, table)
  | some entry => (some entry, (table.erase sync).disarm entry.alarm)

/-- A new entry, which is to own the next alarm. -/
def newEntry (table : Table) (sync : UInt32) (deadline : Time) (job : Nat) (waiter : Waiter) :
    Entry :=
  ⟨sync, deadline, table.nextKey, job, waiter⟩

/-- Enter a new entry and set its alarm.  An older entry of the same id is taken out. -/
def register (table : Table) (entry : Entry) : Option Entry × Table :=
  let (replaced, table) := table.resolve entry.sync
  (replaced,
    { table.arm entry.sync entry.deadline with entries := table.entries ++ [entry] })

/-- The earlier of two alarms; of two alarms due together, the first. -/
def earlier (first second : Alarm) : Alarm := if second.due < first.due then second else first

/-- The alarm that rings next. -/
def nextAlarm? (table : Table) : Option Alarm :=
  match table.alarms with
  | [] => none
  | alarm :: rest => some (rest.foldl earlier alarm)

/-- Let the next alarm ring, if it is due by now. -/
def ring? (table : Table) (now : Time) : Option (Alarm × Table) :=
  match table.nextAlarm? with
  | none => none
  | some alarm => if alarm.due ≤ now then some (alarm, table.disarm alarm.key) else none

/-- What the ringing of an alarm for an id means at a given time. -/
def takeExpired (table : Table) (sync : UInt32) (now : Time) : Expiry × Table :=
  match table.find? sync with
  | none => (.gone, table)
  | some entry =>
    if now < entry.deadline then
      let renew (other : Entry) : Entry :=
        if other.sync == sync then { other with alarm := table.nextKey } else other
      (.rearmed,
        { table.arm sync entry.deadline with entries := table.entries.map renew })
    else (.fired entry, table.erase sync)

/-- Take all entries out of the table and cancel every alarm. -/
def drain (table : Table) : List Entry × Table :=
  (table.entries, { table with entries := [], alarms := [] })

end Table

/-- The tickets of the callers among some entries. -/
def tickets (entries : List Entry) : List Nat :=
  entries.filterMap fun entry =>
    match entry.waiter with
    | .caller ticket => some ticket
    | .ping => none

end RequestMux.Client.Pending
