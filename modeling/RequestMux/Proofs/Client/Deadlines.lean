import RequestMux.Proofs.Client.Accounts
import RequestMux.Proofs.Client.Alarms
import RequestMux.Proofs.Client.Hearing

/-!
# Requests end by their deadlines

A request is due one read timeout after the engine takes it, and waits in the table with its
deadline until its caller is told.  A docket says what became of the requests: each ended by
its deadline, and exactly then if it timed out, or still waits, or was forgotten when the
engine broke down.
-/

namespace RequestMux.Client

open Pending (Entry Table displaced tickets)

/-- A request that has to end by its deadline. -/
structure Due where
  ticket : Nat
  deadline : Time
  deriving DecidableEq, Repr

/-- A caller is told an outcome. -/
structure Telling where
  ticket : Nat
  outcome : Outcome
  time : Time
  deriving DecidableEq, Repr

/-- A request with its end. -/
structure Fate where
  due : Due
  outcome : Outcome
  told : Time
  deriving DecidableEq, Repr

def Fate.telling (fate : Fate) : Telling := ⟨fate.due.ticket, fate.outcome, fate.told⟩

/-- Whether a request ended by its deadline, and exactly then if it timed out. -/
structure Fate.IsPunctual (fate : Fate) : Prop where
  bounded : fate.told ≤ fate.due.deadline
  timeout : fate.outcome = .timeout → fate.told = fate.due.deadline

def Pending.Entry.due? (entry : Entry) : Option Due :=
  entry.waiter.ticket?.map fun ticket => ⟨ticket, entry.deadline⟩

/-- The requests of callers among some entries. -/
def duesOf (entries : List Entry) : List Due := entries.filterMap Entry.due?

/-- The request that comes with a stimulus, when it is due. -/
def Stimulus.due? (deadline : Time) (stimulus : Stimulus) : Option Due :=
  stimulus.ticket?.map fun ticket => ⟨ticket, deadline⟩

theorem Stimulus.due?_of_ticket? {stimulus : Stimulus} (unasked : stimulus.ticket? = none)
    {deadline : Time} : (stimulus.due? deadline).toList = [] := by
  rw [Stimulus.due?, unasked]
  rfl

def Effect.telling? (time : Time) : Effect → Option Telling
  | .resolved ticket outcome => some ⟨ticket, outcome, time⟩
  | _ => none

/-- The callers who are told among some effects at a given time. -/
def tellingsOf (time : Time) (effects : List Effect) : List Telling :=
  effects.filterMap (Effect.telling? time)

/-- Tell some callers the same at the same time. -/
def Due.tell (outcome : Outcome) (time : Time) (due : Due) : Telling := ⟨due.ticket, outcome, time⟩

/-- What became of the requests of a connection. -/
structure Docket where
  fates : List Fate
  /-- Callers of writes that never reached the engine. -/
  dismissed : List Telling
  /-- Requests that nobody is told of any more. -/
  forgotten : List Due

/-- Whether a docket accounts for every request that was due and every caller who was told. -/
structure Docket.Settles (docket : Docket) (dues : List Due) (tellings : List Telling)
    (engine : Engine) : Prop where
  punctual : ∀ fate ∈ docket.fates, fate.IsPunctual
  dues : dues.Perm
    (docket.fates.map Fate.due ++ duesOf engine.pending.entries ++ docket.forgotten)
  tellings : tellings.Perm (docket.fates.map Fate.telling ++ docket.dismissed)
  dismissed : ∀ telling ∈ docket.dismissed, telling.outcome = .error ∧ engine.life = .stopped
  forgotten : docket.forgotten ≠ [] → engine.life = .collapsed

theorem duesOf_ticket (entries : List Entry) :
    (duesOf entries).map Due.ticket = tickets entries := by
  rw [duesOf, Pending.tickets_eq, List.map_filterMap]
  refine List.filterMap_congr fun entry _ => ?_
  simp [Entry.due?, Function.comp_def]

@[simp]
theorem duesOf_append (entries more : List Entry) :
    duesOf (entries ++ more) = duesOf entries ++ duesOf more :=
  List.filterMap_append

@[simp]
theorem tellingsOf_append (time : Time) (effects more : List Effect) :
    tellingsOf time (effects ++ more) = tellingsOf time effects ++ tellingsOf time more :=
  List.filterMap_append

theorem tellingsOf_eq_nil {time : Time} {effects : List Effect}
    (silent : ∀ effect ∈ effects, effect.resolved? = none) : tellingsOf time effects = [] := by
  refine List.filterMap_eq_nil_iff.mpr fun effect member => ?_
  have quiet := silent effect member
  cases effect with
  | resolved ticket outcome => cases quiet
  | _ => rfl

theorem AreSilent.tellingsOf {effects : List Effect} (silent : AreSilent effects) (time : Time) :
    Client.tellingsOf time effects = [] :=
  tellingsOf_eq_nil fun effect member => (silent effect member).1

/-- To tell the callers of some entries is to tell of what was due to them. -/
theorem tellingsOf_tell (time : Time) (entries : List Entry) (outcome : Outcome) :
    tellingsOf time ((tickets entries).map fun ticket => .resolved ticket outcome) =
      (duesOf entries).map (Due.tell outcome time) := by
  rw [← duesOf_ticket, List.map_map, tellingsOf, List.filterMap_map]
  exact congrFun (List.filterMap_eq_map (f := Due.tell outcome time)) _

/-- What waits in a timely table is not overdue. -/
theorem Engine.IsTimely.dues {now : Time} {engine : Engine} (timely : engine.IsTimely now)
    {entries : List Entry} (there : ∀ entry ∈ entries, entry ∈ engine.pending.entries) {due : Due}
    (member : due ∈ duesOf entries) : now ≤ due.deadline := by
  obtain ⟨entry, here, same⟩ := List.mem_filterMap.mp member
  obtain ⟨ticket, -, rfl⟩ := Option.map_eq_some_iff.mp same
  exact timely.ahead entry (there entry here)

namespace Docket.Settles

variable {docket : Docket} {dues : List Due} {tellings : List Telling} {engine after : Engine}
  {now : Time} {stimulus : Stimulus} {effects : List Effect}

theorem nothing_forgotten (settles : docket.Settles dues tellings engine)
    (awake : engine.IsAwake) : docket.forgotten = [] := by
  by_contra some
  exact nomatch awake.running.symm.trans (settles.forgotten some)

theorem nobody_dismissed (settles : docket.Settles dues tellings engine)
    (awake : engine.IsAwake) : docket.dismissed = [] := by
  refine List.eq_nil_iff_forall_not_mem.mpr fun telling member => ?_
  exact nomatch awake.running.symm.trans (settles.dismissed telling member).2

/-- What is due enters the table, and what leaves it is told. -/
theorem exchange (settles : docket.Settles dues tellings engine) (awake : engine.IsAwake)
    (outcome : Outcome) (now : Time) {arriving gone : List Due}
    (moved : (duesOf engine.pending.entries ++ arriving).Perm
      (gone ++ duesOf after.pending.entries))
    (punctual : ∀ due ∈ gone, now ≤ due.deadline ∧ (outcome = .timeout → now = due.deadline)) :
    ∃ later : Docket,
      later.Settles (dues ++ arriving) (tellings ++ gone.map (Due.tell outcome now)) after := by
  have none := settles.nothing_forgotten awake
  have nobody := settles.nobody_dismissed awake
  let ended := gone.map fun due => (⟨due, outcome, now⟩ : Fate)
  have endedDues : ended.map Fate.due = gone := by
    rw [List.map_map]
    exact List.map_id gone
  have endedTellings : ended.map Fate.telling = gone.map (Due.tell outcome now) :=
    List.map_map
  refine ⟨⟨docket.fates ++ ended, [], []⟩, ?_, ?_, ?_, nofun, fun some => absurd rfl some⟩
  · intro fate member
    rcases List.mem_append.mp member with old | new
    · exact settles.punctual fate old
    · obtain ⟨due, here, rfl⟩ := List.mem_map.mp new
      exact ⟨(punctual due here).1, (punctual due here).2⟩
  · have balanced := settles.dues
    rw [none, List.append_nil] at balanced
    rw [List.map_append, endedDues, List.append_nil, List.append_assoc]
    refine (balanced.append_right arriving).trans ?_
    rw [List.append_assoc]
    exact moved.append_left _
  · have told := settles.tellings
    rw [nobody, List.append_nil] at told
    rw [List.map_append, endedTellings, List.append_nil]
    exact told.append_right _

/-- Nothing but the requests that wait and the life of the engine counts. -/
theorem of_same (settles : docket.Settles dues tellings engine)
    (entries : after.pending.entries = engine.pending.entries) (life : after.life = engine.life) :
    docket.Settles dues tellings after :=
  ⟨settles.punctual, entries ▸ settles.dues, settles.tellings, life ▸ settles.dismissed,
    life ▸ settles.forgotten⟩

/-- Where nothing enters or leaves the table, nobody is told. -/
theorem still (settles : docket.Settles dues tellings engine) (awake : engine.IsAwake)
    (silent : AreSilent effects)
    (same : duesOf after.pending.entries = duesOf engine.pending.entries) :
    ∃ later : Docket, later.Settles dues (tellings ++ tellingsOf now effects) after := by
  have moved : (duesOf engine.pending.entries ++ []).Perm
      ([] ++ duesOf after.pending.entries) := by
    rw [same, List.append_nil]
    exact .refl _
  have exchanged := settles.exchange awake .error now moved nofun
  rw [List.append_nil] at exchanged
  rw [silent.tellingsOf]
  exact exchanged

/-- Every pending request may be dismissed. -/
theorem dismiss (settles : docket.Settles dues tellings engine) (awake : engine.IsAwake)
    (timely : engine.IsTimely now) (emptied : after.pending.entries = [])
    (told : tellingsOf now effects =
      (duesOf engine.pending.entries).map (Due.tell .error now)) :
    ∃ later : Docket, later.Settles dues (tellings ++ tellingsOf now effects) after := by
  have moved : (duesOf engine.pending.entries ++ []).Perm
      (duesOf engine.pending.entries ++ duesOf after.pending.entries) := by
    rw [emptied]
    exact .refl _
  have exchanged := settles.exchange awake .error now moved fun due member =>
    ⟨timely.dues (fun _ there => there) member, nofun⟩
  rw [List.append_nil] at exchanged
  rw [told]
  exact exchanged

theorem tellingsOf_dismissAll (engine : Engine) (now : Time) :
    tellingsOf now engine.dismissAll.2 =
      (duesOf engine.pending.entries).map (Due.tell .error now) := by
  change tellingsOf now (_ ++ (tickets engine.pending.entries).map _) = _
  rw [tellingsOf_append, (AreSilent.dismissing engine.pending.entries).tellingsOf,
    tellingsOf_tell]
  rfl

theorem shutDown (settles : docket.Settles dues tellings engine) (awake : engine.IsAwake)
    (timely : engine.IsTimely now) :
    ∃ later : Docket, later.Settles dues (tellings ++ tellingsOf now engine.shutDown.2)
      engine.shutDown.1 := by
  let closing : Engine := { engine with board := { engine.board with shuttingDown := true } }
  let leaving := closing.setPhase .shuttingDown
  have told : tellingsOf now engine.shutDown.2 =
      (duesOf engine.pending.entries).map (Due.tell .error now) := by
    change tellingsOf now ((leaving.release.2 ++ leaving.release.1.dismissAll.2) ++ [_]) = _
    rw [tellingsOf_append, tellingsOf_append, (AreSilent.release leaving).tellingsOf,
      tellingsOf_dismissAll]
    exact List.append_nil _
  exact settles.dismiss awake timely rfl told

/-- A request that enters the table is due, and the caller is told whose entry has to go. -/
theorem enter (settles : docket.Settles dues tellings engine) (awake : engine.IsAwake)
    (timely : engine.IsTimely now) (made : Entry) {talk : List Effect}
    (said : ∀ effect ∈ talk, effect.isRemark = true) :
    ∃ later : Docket, later.Settles (dues ++ duesOf [made])
      (tellings ++ tellingsOf now (engine.enter made talk).2) (engine.enter made talk).1 := by
  let replaced := (engine.pending.register made).1
  have moved : (duesOf engine.pending.entries ++ duesOf [made]).Perm
      (duesOf replaced.toList ++ duesOf (engine.pending.register made).2.entries) := by
    rw [← duesOf_append, ← duesOf_append]
    exact (Table.entries_register timely.armed.distinct made).filterMap _
  have there : ∀ entry ∈ replaced.toList, entry ∈ engine.pending.entries := by
    intro entry member
    have found := (Table.register_entries engine.pending made).1.symm.trans
      (Option.mem_toList.mp member)
    exact (Table.find?_sync found).1
  have told : tellingsOf now (engine.enter made talk).2 =
      (duesOf replaced.toList).map (Due.tell .error now) := by
    have spoken : AreSilent ([.registered made] ++ talk) :=
      (AreSilent.single ⟨rfl, rfl⟩).append (.of_remarks said)
    change tellingsOf now
      (([.registered made] ++ talk) ++ (displaced replaced).toList.map _) = _
    rw [tellingsOf_append, spoken.tellingsOf, ← Table.tickets_toList, tellingsOf_tell]
    rfl
  rw [told]
  exact settles.exchange awake _ now moved fun due member => ⟨timely.dues there member, nofun⟩

/-- A request that leaves the table has ended, and its caller is told. -/
theorem discharge (settles : docket.Settles dues tellings engine) (awake : engine.IsAwake)
    (timely : engine.IsTimely now) {entry : Entry} {sync : UInt32} {table : Table}
    (found : engine.pending.find? sync = some entry)
    (left : table.entries = (engine.pending.erase sync).entries) {outcome : Outcome}
    (overdue : outcome = .timeout → entry.deadline ≤ now) {first : Effect}
    (silent : first.resolved? = none) :
    ∃ later : Docket, later.Settles dues
      (tellings ++ tellingsOf now (first :: (engine.discharge entry table outcome).2))
      (engine.discharge entry table outcome).1 := by
  obtain ⟨member, -⟩ := Table.find?_sync found
  have there : ∀ other ∈ [entry], other ∈ engine.pending.entries := fun other single =>
    List.mem_singleton.mp single ▸ member
  have moved : (duesOf engine.pending.entries ++ []).Perm
      (duesOf [entry] ++ duesOf (engine.discharge entry table outcome).1.pending.entries) := by
    change (_ ++ []).Perm (_ ++ duesOf table.entries)
    rw [List.append_nil, left, ← duesOf_append]
    exact (Table.entries_erase timely.armed.distinct found).filterMap _
  have told : tellingsOf now (first :: (engine.discharge entry table outcome).2) =
      (duesOf [entry]).map (Due.tell outcome now) := by
    have begun : tellingsOf now [first] = [] :=
      tellingsOf_eq_nil fun other single => List.mem_singleton.mp single ▸ silent
    change tellingsOf now ([first] ++ entry.waiter.ticket?.toList.map _) = _
    rw [tellingsOf_append, begun, ← Pending.tickets_singleton, tellingsOf_tell]
    rfl
  have punctual : ∀ due ∈ duesOf [entry],
      now ≤ due.deadline ∧ (outcome = .timeout → now = due.deadline) := by
    intro due here
    refine ⟨timely.dues there here, fun timed => ?_⟩
    -- no deadline in the table has passed, and this one is not ahead either
    refine Nat.le_antisymm (timely.dues there here) ?_
    obtain ⟨other, single, same⟩ := List.mem_filterMap.mp here
    obtain ⟨ticket, -, rfl⟩ := Option.map_eq_some_iff.mp same
    rw [List.mem_singleton.mp single]
    exact overdue timed
  obtain ⟨later, exchanged⟩ := settles.exchange awake outcome now moved punctual
  rw [List.append_nil] at exchanged
  rw [told]
  exact ⟨later, exchanged⟩

/-- An engine that breaks down forgets what waits, and what comes. -/
theorem collapse (settles : docket.Settles dues tellings engine) (awake : engine.IsAwake)
    (arriving : List Due) (forgotten : List Nat) :
    ∃ later : Docket, later.Settles (dues ++ arriving)
      (tellings ++ tellingsOf now (engine.collapse forgotten).2)
      (engine.collapse forgotten).1 := by
  have silent : tellingsOf now (engine.collapse forgotten).2 = [] :=
    tellingsOf_eq_nil (Engine.forall_collapse _ engine _ (fun _ => rfl) fun _ => rfl)
  have nobody := settles.nobody_dismissed awake
  have balanced := settles.dues
  have told := settles.tellings
  rw [settles.nothing_forgotten awake, List.append_nil] at balanced
  refine ⟨⟨docket.fates, [], duesOf engine.pending.entries ++ arriving⟩, settles.punctual,
    ?_, ?_, nofun, fun _ => rfl⟩
  · refine (balanced.append_right _).trans (.of_eq ?_)
    change _ = docket.fates.map Fate.due ++ [] ++ _
    rw [List.append_nil, List.append_assoc]
  · rw [silent, List.append_nil]
    exact nobody ▸ told

theorem tick (settles : docket.Settles dues tellings engine) (awake : engine.IsAwake)
    (timely : engine.IsTimely now) (tick : Tick now engine effects after) :
    ∃ later : Docket, later.Settles dues (tellings ++ tellingsOf now effects) after := by
  cases tick with
  | remark effect said => exact settles.still awake (.of_remarks (by simpa using said)) rfl
  | reschedule => exact settles.still awake nofun rfl
  | publish => exact settles.still awake nofun rfl
  | dial idle => exact settles.still awake (.beginConnect engine) rfl
  | push octets counted => exact settles.still awake (.single ⟨rfl, rfl⟩) rfl
  | hand free linked first => exact settles.still awake (.single ⟨rfl, rfl⟩) rfl
  | release => exact settles.still awake (.release engine) rfl
  | dismiss => exact settles.dismiss awake timely rfl (tellingsOf_dismissAll engine now)

/-- A request that comes with a stimulus enters the table, or is forgotten; whoever leaves the
table is told. -/
theorem onset (settles : docket.Settles dues tellings engine) (awake : engine.IsAwake)
    (timely : engine.IsTimely now) (onset : Onset now engine stimulus effects after) :
    ∃ later : Docket, later.Settles
      (dues ++ (stimulus.due? (now + engine.patience)).toList)
      (tellings ++ tellingsOf now effects) after := by
  have unasked (plain : stimulus.ticket? = none) :
      dues ++ (stimulus.due? (now + engine.patience)).toList = dues := by
    rw [Stimulus.due?_of_ticket? plain, List.append_nil]
  cases onset with
  | plain told =>
      rw [unasked (Stimulus.ticket?_of_isPlain told)]
      exact settles.still awake nofun rfl
  | @enter _ sync waiter talk pingAt asked said possible =>
      have arrives : (stimulus.due? (now + engine.patience)).toList =
          duesOf [engine.entryFor now sync waiter] := by
        rw [Stimulus.due?, ← asked.ticket?]
        cases waiter <;> rfl
      obtain ⟨later, entered⟩ := settles.enter awake timely (engine.entryFor now sync waiter) said
      rw [arrives]
      exact ⟨later, entered.of_same rfl rfl⟩
  | collapse asked impossible => exact settles.collapse awake _ _
  | disablePing =>
      rw [unasked rfl]
      exact settles.still awake nofun rfl
  | shutDown =>
      rw [unasked rfl]
      exact settles.shutDown awake timely
  | attach socket =>
      rw [unasked rfl]
      exact settles.still awake (.append (.single ⟨rfl, rfl⟩) (.single ⟨rfl, rfl⟩)) rfl
  | redial failure =>
      have warned : AreSilent [.warned (.connectFailed failure)] := .single ⟨rfl, rfl⟩
      rw [unasked rfl]
      exact settles.still awake (warned.append (.beginConnect engine)) rfl
  | answer found =>
      obtain ⟨here, left⟩ := Table.resolve_some found
      rw [unasked rfl]
      refine settles.discharge awake timely here left ?_ ?_
      · exact nofun
      · rfl
  | unknown packet effect said =>
      rw [unasked rfl]
      exact settles.still awake (.of_remarks (by simpa using said)) rfl
  | readFailed fault =>
      rw [unasked rfl]
      exact settles.still awake (.single ⟨rfl, rfl⟩) rfl
  | written =>
      rw [unasked rfl]
      exact settles.still awake (.map _ fun _ => ⟨rfl, rfl⟩) rfl
  | writeFailed failure part =>
      have warned : AreSilent [.warned (.writeFailed failure)] := .single ⟨rfl, rfl⟩
      have back : AreSilent (engine.takeBack part).2 := .map _ fun _ => ⟨rfl, rfl⟩
      rw [unasked rfl]
      exact settles.still awake ((warned.append back).append (.release _)) rfl
  | stale generation report old =>
      rw [unasked rfl]
      exact settles.still awake (.ignoreReport engine report) rfl
  | ring ringing taken early =>
      obtain ⟨entry, fired⟩ := timely.armed.fired_of_ring? ringing taken
      exact absurd fired (early entry)
  | expire ringing fired =>
      obtain ⟨entry, -, overdue, leaves⟩ := timely.armed.leave_rung ringing
      cases leaves.symm.trans fired
      obtain ⟨found, left⟩ := Table.fired_of_ringing ringing fired
      rw [unasked rfl]
      exact settles.discharge awake timely found left (fun _ => overdue) rfl

/-- A reaction settles what comes with its stimulus. -/
theorem course (settles : docket.Settles dues tellings engine) (awake : engine.IsAwake)
    (timely : engine.IsTimely now) (course : Course now stimulus engine effects after) :
    ∃ later : Docket, later.Settles
      (dues ++ (stimulus.due? (now + engine.patience)).toList)
      (tellings ++ tellingsOf now effects) after := by
  let motive (past : List Effect) (engine' : Engine) : Prop :=
    engine'.IsTimely now ∧ ∃ later : Docket, later.Settles
      (dues ++ (stimulus.due? (now + engine.patience)).toList)
      (tellings ++ tellingsOf now past) engine'
  refine (course.holds (motive := motive) [] (fun began => ?_) fun awake ticked held => ?_).2
  · exact ⟨began.isTimely timely, settles.onset awake timely began⟩
  · obtain ⟨timely, later, settles⟩ := held
    refine ⟨ticked.isTimely timely, ?_⟩
    rw [tellingsOf_append, ← List.append_assoc]
    exact settles.tick awake timely ticked

/-- What a connection adds dismisses callers only where the engine has stopped. -/
theorem farewell (settles : docket.Settles dues tellings engine) (now : Time) {more : List Effect}
    (farewell : ∀ effect ∈ more, engine.life.isFarewell effect = true) :
    ∃ later : Docket, later.Settles dues (tellings ++ tellingsOf now more) engine := by
  refine ⟨{ docket with dismissed := docket.dismissed ++ tellingsOf now more },
    settles.punctual, settles.dues, ?_, ?_, settles.forgotten⟩
  · rw [← List.append_assoc]
    exact settles.tellings.append_right _
  · intro telling member
    rcases List.mem_append.mp member with old | new
    · exact settles.dismissed telling old
    · obtain ⟨effect, here, same⟩ := List.mem_filterMap.mp new
      have said := farewell effect here
      cases effect with
      | resolved ticket outcome =>
          cases same
          cases life : engine.life <;> rw [life] at said <;> cases outcome <;> cases said
          exact ⟨rfl, rfl⟩
      | _ => cases same

end Docket.Settles

namespace Turn

/-- The request that the engine takes in a turn, due when its patience is at an end. -/
def due? (patience : Nat) (turn : Turn) : Option Due :=
  turn.stimulus?.bind (Stimulus.due? (turn.time + patience))

/-- Whether no deadline has passed when a turn begins. -/
def IsTimely (turn : Turn) : Prop := turn.before.engine.IsTimely turn.time

variable {turn : Turn} {patience : Nat}

/-- An engine that no longer runs is asked for nothing. -/
theorem due?_of_unheard (sound : turn.before.IsSound) (unheard : turn.heard? = none) :
    turn.due? patience = none := by
  by_cases running : turn.before.engine.life = .running
  · rw [heard?, if_pos running] at unheard
    rw [due?, unheard]
    rfl
  · have empty := sound.idle running
    unfold due? stimulus?
    cases turn.move with
    | serve => rw [empty]; rfl
    | _ => rfl

theorem due?_of_heard {stimulus : Stimulus} (heard : turn.heard? = some stimulus) :
    turn.due? patience = stimulus.due? (turn.time + patience) := by
  rw [due?, stimulus?_of_heard? heard]
  rfl

/-- No turn leaves a deadline behind. -/
theorem IsTimely.after (timely : turn.IsTimely) (sound : turn.before.IsSound) :
    turn.after.engine.IsTimely turn.time := by
  cases turn.becomes sound with
  | idle board unheard like engine silent =>
      rw [engine]
      exact ⟨timely.armed, timely.ahead⟩
  | heard stimulus board more hears awake like engine effects farewell =>
      have reacted := (Engine.step_course turn.time awake stimulus).isTimely timely
      rw [engine]
      exact ⟨reacted.armed, reacted.ahead⟩

/-- Every turn settles what the engine takes in it. -/
theorem settles (turn : Turn) (sound : turn.before.IsSound) (timely : turn.IsTimely)
    (patient : turn.before.engine.patience = patience) {docket : Docket} {dues : List Due}
    {tellings : List Telling} (settles : docket.Settles dues tellings turn.before.engine) :
    ∃ later : Docket, later.Settles (dues ++ (turn.due? patience).toList)
      (tellings ++ tellingsOf turn.time turn.effects) turn.after.engine := by
  cases turn.becomes sound with
  | idle board unheard like engine silent =>
      rw [due?_of_unheard sound unheard, engine, silent, Option.toList_none, List.append_nil]
      refine ⟨docket, ?_⟩
      have kept : docket.Settles dues (tellings ++ []) turn.before.engine := by
        rw [List.append_nil]
        exact settles
      exact kept.of_same rfl rfl
  | heard stimulus board more hears awake like engine effects farewell =>
      obtain ⟨later, reacted⟩ :=
        settles.course awake timely (Engine.step_course turn.time awake stimulus)
      obtain ⟨last, ended⟩ := reacted.farewell turn.time farewell
      rw [patient] at ended
      rw [due?_of_heard hears, engine, effects, tellingsOf_append, ← List.append_assoc]
      exact ⟨last, ended.of_same rfl rfl⟩

end Turn

/-- The requests that the engine takes in some turns. -/
def duesIn (patience : Nat) (turns : List Turn) : List Due := turns.filterMap (Turn.due? patience)

/-- The callers who are told in some turns. -/
def tellingsIn (turns : List Turn) : List Telling :=
  turns.flatMap fun turn => tellingsOf turn.time turn.effects

/-- In every run in which no turn comes behind a deadline, some docket accounts for all requests
and all callers. -/
theorem Connection.requests_settle (endpoint : Endpoint) (settings : Settings)
    (moves : List (Time × Move))
    (timely : ∀ turn ∈ (start endpoint settings).turns moves, turn.IsTimely) :
    let turns := (start endpoint settings).turns moves
    let patience := settings.effectiveReadTimeout.toNat
    ∃ docket : Docket, docket.Settles (duesIn patience turns) (tellingsIn turns)
      ((start endpoint settings).run moves).engine := by
  intro turns patience
  let motive (turns : List Turn) (connection : Connection) : Prop :=
    connection.IsSound ∧ Lifecycle settings (history turns) connection.engine ∧
      ((∀ turn ∈ turns, turn.IsTimely) →
        ∃ docket : Docket, docket.Settles (duesIn patience turns) (tellingsIn turns)
          connection.engine)
  have began : motive [] (start endpoint settings) :=
    ⟨.start endpoint settings, ⟨rfl, fun _ => rfl, nofun, nofun⟩,
      fun _ => ⟨⟨[], [], []⟩, nofun, .refl _, .refl _, nofun, nofun⟩⟩
  refine (run_invariant (motive := motive) (fun past turn held => ?_) moves began).2.2 timely
  obtain ⟨sound, lifecycle, settled⟩ := held
  refine ⟨sound.make turn.time turn.move, ?_, fun timely => ?_⟩
  · rw [history_append, history_singleton]
    exact (Lifecycle.isKept settings).turn turn sound lifecycle
  · obtain ⟨docket, settles⟩ := settled fun other earlier =>
      timely other (List.mem_append_left _ earlier)
    have last : turn.IsTimely := timely turn (List.mem_append_right _ List.mem_cons_self)
    have patient : turn.before.engine.patience = patience :=
      congrArg (fun settings : Settings => settings.effectiveReadTimeout.toNat) lifecycle.same
    have dues : duesIn patience (past ++ [turn]) =
        duesIn patience past ++ (turn.due? patience).toList := by
      rw [duesIn, List.filterMap_append]
      cases due : turn.due? patience <;> simp [duesIn, due]
    have tellings : tellingsIn (past ++ [turn]) =
        tellingsIn past ++ tellingsOf turn.time turn.effects := by
      simp [tellingsIn]
    rw [dues, tellings]
    exact turn.settles sound last patient settles

end RequestMux.Client
