import Mathlib.Data.List.Count
import RequestMux.Proofs.Client.Turns

/-!
# The ledger of accepted writes

Every ticket that was accepted is in exactly one of four places: its caller was told,
or its entry is in the table, or its command is in the mailbox, or it was forgotten
when the engine broke down.  The number that the handle shows counts the last three.
-/

namespace RequestMux.Client

open Pending (Entry Table displaced tickets)

/-- The ticket of a caller that an effect tells. -/
def Effect.resolved? : Effect → Option Nat
  | .resolved ticket _ => some ticket
  | _ => none

/-- The ticket of a caller that an effect forgets. -/
def Effect.abandoned? : Effect → Option Nat
  | .abandoned ticket => some ticket
  | _ => none

/-- The tickets of the callers that were told, in order. -/
def resolvedIn (history : List Effect) : List Nat := history.filterMap Effect.resolved?

/-- The tickets of the callers that were forgotten. -/
def abandonedIn (history : List Effect) : List Nat := history.filterMap Effect.abandoned?

@[simp]
theorem resolvedIn_append (history more : List Effect) :
    resolvedIn (history ++ more) = resolvedIn history ++ resolvedIn more :=
  List.filterMap_append

@[simp]
theorem abandonedIn_append (history more : List Effect) :
    abandonedIn (history ++ more) = abandonedIn history ++ abandonedIn more :=
  List.filterMap_append

@[simp]
theorem resolvedIn_map_resolved (told : List Nat) (outcome : Outcome) :
    resolvedIn (told.map fun ticket => .resolved ticket outcome) = told := by
  simp [resolvedIn, List.filterMap_map, Function.comp_def, Effect.resolved?]

@[simp]
theorem abandonedIn_map_resolved (told : List Nat) (outcome : Outcome) :
    abandonedIn (told.map fun ticket => .resolved ticket outcome) = [] := by
  simp [abandonedIn, List.filterMap_map, Function.comp_def, Effect.abandoned?]

@[simp]
theorem resolvedIn_map_abandoned (forgotten : List Nat) :
    resolvedIn (forgotten.map .abandoned) = [] := by
  simp [resolvedIn, List.filterMap_map, Function.comp_def, Effect.resolved?]

@[simp]
theorem abandonedIn_map_abandoned (forgotten : List Nat) :
    abandonedIn (forgotten.map .abandoned) = forgotten := by
  simp [abandonedIn, List.filterMap_map, Function.comp_def, Effect.abandoned?]

/-- Whether effects neither tell nor forget a caller. -/
def AreSilent (effects : List Effect) : Prop :=
  ∀ effect ∈ effects, effect.resolved? = none ∧ effect.abandoned? = none

namespace AreSilent

theorem resolvedIn {effects : List Effect} (silent : AreSilent effects) :
    Client.resolvedIn effects = [] :=
  List.filterMap_eq_nil_iff.mpr fun effect member => (silent effect member).1

theorem abandonedIn {effects : List Effect} (silent : AreSilent effects) :
    Client.abandonedIn effects = [] :=
  List.filterMap_eq_nil_iff.mpr fun effect member => (silent effect member).2

theorem single {effect : Effect} (quiet : effect.resolved? = none ∧ effect.abandoned? = none) :
    AreSilent [effect] := by
  intro other member
  rw [List.mem_singleton.mp member]
  exact quiet

theorem append {effects more : List Effect} (silent : AreSilent effects)
    (moreSilent : AreSilent more) : AreSilent (effects ++ more) := by
  intro effect member
  rcases List.mem_append.mp member with early | late
  · exact silent effect early
  · exact moreSilent effect late

theorem map {Item : Type} {make : Item → Effect} (items : List Item)
    (quiet : ∀ item, (make item).resolved? = none ∧ (make item).abandoned? = none) :
    AreSilent (items.map make) := by
  intro effect member
  obtain ⟨item, -, rfl⟩ := List.mem_map.mp member
  exact quiet item

theorem of_remarks {effects : List Effect}
    (said : ∀ effect ∈ effects, Effect.isRemark effect = true) : AreSilent effects := by
  intro effect member
  have remark := said effect member
  cases effect with
  | warned _ => exact ⟨rfl, rfl⟩
  | noted _ => exact ⟨rfl, rfl⟩
  | _ => cases remark

theorem release (engine : Engine) : AreSilent engine.release.2 :=
  Engine.forall_release _ engine (fun _ => ⟨rfl, rfl⟩) ⟨rfl, rfl⟩

theorem beginConnect (engine : Engine) : AreSilent engine.beginConnect.2 :=
  Engine.forall_beginConnect _ engine (fun _ => ⟨rfl, rfl⟩) fun _ => ⟨rfl, rfl⟩

theorem ignoreReport (engine : Engine) (report : Report) :
    AreSilent (engine.ignoreReport report).2 :=
  Engine.forall_ignoreReport _ engine report (fun _ => ⟨rfl, rfl⟩) fun _ => ⟨rfl, rfl⟩

theorem dismissing (entries : List Entry) :
    AreSilent (if entries.isEmpty then [] else [.noted (.dismissing entries.length)]) := by
  split
  · exact nofun
  · exact .single ⟨rfl, rfl⟩

end AreSilent

/-- The accepted tickets balance with those told, in the table, waiting and forgotten, and the
board shows how many were not told. -/
structure Ledger (accepted waiting : List Nat) (history : List Effect) (engine : Engine) :
    Prop where
  distinct : engine.pending.IsDistinct
  balanced : ∀ ticket, accepted.count ticket =
    (resolvedIn history).count ticket + (tickets engine.pending.entries).count ticket +
      waiting.count ticket + (abandonedIn history).count ticket
  counted : engine.board.outstanding =
    (tickets engine.pending.entries).length + waiting.length + (abandonedIn history).length

namespace Ledger

variable {accepted waiting told : List Nat} {history effects : List Effect}
  {engine after : Engine}

theorem perm (ledger : Ledger accepted waiting history engine) :
    accepted.Perm (resolvedIn history ++ tickets engine.pending.entries ++ waiting ++
      abandonedIn history) := by
  rw [List.perm_iff_count]
  intro ticket
  simp only [List.count_append]
  exact ledger.balanced ticket

theorem length_eq (ledger : Ledger accepted waiting history engine) :
    accepted.length = (resolvedIn history).length + engine.board.outstanding := by
  have lengths := ledger.perm.length_eq
  simp only [List.length_append] at lengths
  rw [ledger.counted]
  omega

/-- What neither tells nor forgets anybody leaves the ledger as it is. -/
theorem silent (ledger : Ledger accepted waiting history engine) (silent : AreSilent effects)
    (table : after.pending = engine.pending)
    (shown : after.board.outstanding = engine.board.outstanding) :
    Ledger accepted waiting (history ++ effects) after := by
  refine ⟨table ▸ ledger.distinct, fun ticket => ?_, ?_⟩
  · simpa [silent.resolvedIn, silent.abandonedIn, table] using ledger.balanced ticket
  · simpa [silent.abandonedIn, table, shown] using ledger.counted

/-- Callers who are accepted have to wait. -/
theorem accept {newcomers : List Nat} (ledger : Ledger accepted waiting history engine)
    (table : after.pending = engine.pending)
    (shown : after.board.outstanding = engine.board.outstanding + newcomers.length) :
    Ledger (accepted ++ newcomers) (waiting ++ newcomers) history after := by
  refine ⟨table ▸ ledger.distinct, fun ticket => ?_, ?_⟩
  · have balanced := ledger.balanced ticket
    simp only [table, List.count_append] at balanced ⊢
    omega
  · have counted := ledger.counted
    simp only [table, shown, List.length_append] at counted ⊢
    omega

/-- Callers who enter the table no longer wait, and those who leave it wait to be told. -/
theorem exchange {table : Table} {brought : List Nat}
    (moved : (tickets engine.pending.entries ++ brought).Perm (told ++ tickets table.entries))
    (distinct : table.IsDistinct)
    (ledger : Ledger accepted (brought ++ waiting) history engine) :
    Ledger accepted (told ++ waiting) history { engine with pending := table } := by
  refine ⟨distinct, fun ticket => ?_, ?_⟩
  · have balanced := ledger.balanced ticket
    have moved := moved.count_eq ticket
    simp only [List.count_append] at balanced moved ⊢
    omega
  · have counted := ledger.counted
    have moved := moved.length_eq
    simp only [List.length_append] at counted moved ⊢
    omega

theorem tell (ledger : Ledger accepted (told ++ waiting) history engine) (outcome : Outcome) :
    Ledger accepted waiting (history ++ (engine.tell told outcome).2)
      (engine.tell told outcome).1 := by
  refine ⟨ledger.distinct, fun ticket => ?_, ?_⟩
  · have balanced := ledger.balanced ticket
    simp only [Engine.tell, resolvedIn_append, resolvedIn_map_resolved, abandonedIn_append,
      abandonedIn_map_resolved, List.append_nil, List.count_append] at balanced ⊢
    omega
  · have counted := ledger.counted
    simp only [Engine.tell, abandonedIn_append, abandonedIn_map_resolved, List.append_nil,
      List.length_append] at counted ⊢
    omega

theorem discharge {table : Table} {entry : Entry} {sync : UInt32}
    (ledger : Ledger accepted waiting history engine)
    (found : engine.pending.find? sync = some entry)
    (left : table.entries = (engine.pending.erase sync).entries) (outcome : Outcome) :
    Ledger accepted waiting (history ++ (engine.discharge entry table outcome).2)
      (engine.discharge entry table outcome).1 := by
  have distinct : table.IsDistinct := by
    rw [Table.IsDistinct, left]
    exact Table.isDistinct_erase ledger.distinct
  have moved := Table.tickets_erase ledger.distinct found
  rw [← left, ← List.append_nil (tickets engine.pending.entries)] at moved
  exact (exchange moved distinct ledger).tell outcome

theorem enter {entry : Entry} {talk : List Effect}
    (ledger : Ledger accepted (entry.waiter.ticket?.toList ++ waiting) history engine)
    (said : ∀ effect ∈ talk, Effect.isRemark effect = true) :
    Ledger accepted waiting (history ++ (engine.enter entry talk).2)
      (engine.enter entry talk).1 := by
  have exchanged := exchange (Table.tickets_register ledger.distinct entry)
    (Table.isDistinct_register ledger.distinct entry) ledger
  have spoken : AreSilent ([.registered entry] ++ talk) :=
    (AreSilent.single ⟨rfl, rfl⟩).append (.of_remarks said)
  have told := (exchanged.silent spoken rfl rfl).tell .error
  rw [List.append_assoc] at told
  exact told

theorem dismissAll (ledger : Ledger accepted waiting history engine) :
    Ledger accepted waiting (history ++ engine.dismissAll.2) engine.dismissAll.1 := by
  have emptied : (tickets engine.pending.entries ++ []).Perm
      (tickets engine.pending.entries ++ tickets engine.pending.drain.2.entries) := .refl _
  have drained : Ledger accepted (tickets engine.pending.entries ++ waiting) history
      { engine with pending := engine.pending.drain.2 } :=
    exchange emptied List.nodup_nil ledger
  have told := (drained.silent (.dismissing engine.pending.entries) rfl rfl).tell .error
  rw [List.append_assoc] at told
  exact told

theorem release (ledger : Ledger accepted waiting history engine) :
    Ledger accepted waiting (history ++ engine.release.2) engine.release.1 :=
  ledger.silent (.release engine) rfl rfl

theorem beginConnect (ledger : Ledger accepted waiting history engine) :
    Ledger accepted waiting (history ++ engine.beginConnect.2) engine.beginConnect.1 :=
  ledger.silent (.beginConnect engine) rfl rfl

theorem shutDown (ledger : Ledger accepted waiting history engine) :
    Ledger accepted waiting (history ++ engine.shutDown.2) engine.shutDown.1 := by
  let closing : Engine := { engine with board := { engine.board with shuttingDown := true } }
  have flagged : Ledger accepted waiting history (closing.setPhase .shuttingDown) :=
    ⟨ledger.distinct, ledger.balanced, ledger.counted⟩
  have noted : AreSilent [.noted .shutDown] := .single ⟨rfl, rfl⟩
  have ended : Ledger accepted waiting _ engine.shutDown.1 :=
    flagged.release.dismissAll.silent noted rfl rfl
  rw [List.append_assoc, List.append_assoc, ← List.append_assoc (Engine.release _).2] at ended
  exact ended

theorem forget {forgotten : List Nat}
    (ledger : Ledger accepted (forgotten ++ waiting) history engine) :
    Ledger accepted waiting (history ++ forgotten.map .abandoned) engine := by
  refine ⟨ledger.distinct, fun ticket => ?_, ?_⟩
  · have balanced := ledger.balanced ticket
    simp only [resolvedIn_append, resolvedIn_map_abandoned, abandonedIn_append,
      abandonedIn_map_abandoned, List.append_nil, List.count_append] at balanced ⊢
    omega
  · have counted := ledger.counted
    simp only [abandonedIn_append, abandonedIn_map_abandoned, List.length_append] at counted ⊢
    omega

theorem collapse {forgotten : List Nat}
    (ledger : Ledger accepted (forgotten ++ waiting) history engine) :
    Ledger accepted waiting (history ++ (engine.collapse forgotten).2)
      (engine.collapse forgotten).1 := by
  have emptied : (tickets engine.pending.entries ++ []).Perm
      (tickets engine.pending.entries ++ tickets Table.empty.entries) := .refl _
  have drained : Ledger accepted (tickets engine.pending.entries ++ (forgotten ++ waiting)) history
      { engine with pending := Table.empty } :=
    exchange emptied List.nodup_nil ledger
  rw [← List.append_assoc] at drained
  have closing : AreSilent (engine.link.toList.map .closed) := .map _ fun _ => ⟨rfl, rfl⟩
  have ended : Ledger accepted waiting _ (engine.collapse forgotten).1 :=
    drained.forget.silent closing rfl rfl
  rw [List.append_assoc] at ended
  exact ended

theorem tick {now : Time} (tick : Tick now engine effects after)
    (ledger : Ledger accepted waiting history engine) :
    Ledger accepted waiting (history ++ effects) after := by
  cases tick with
  | remark effect said => exact ledger.silent (.of_remarks (by simpa using said)) rfl rfl
  | reschedule => exact ledger.silent nofun rfl rfl
  | publish => exact ledger.silent nofun rfl rfl
  | dial => exact ledger.beginConnect
  | push octets counted => exact ledger.silent (.single ⟨rfl, rfl⟩) rfl rfl
  | hand => exact ledger.silent (.single ⟨rfl, rfl⟩) rfl rfl
  | release => exact ledger.release
  | dismiss => exact ledger.dismissAll

/-- A caller that comes with a stimulus enters the table, or is forgotten. -/
theorem onset {now : Time} {stimulus : Stimulus} (onset : Onset now engine stimulus effects after)
    (ledger : Ledger accepted (stimulus.ticket?.toList ++ waiting) history engine) :
    Ledger accepted waiting (history ++ effects) after := by
  cases onset with
  | plain told =>
      rw [Stimulus.ticket?_of_isPlain told] at ledger
      exact ledger.silent nofun rfl rfl
  | disablePing => exact silent ledger nofun rfl rfl
  | shutDown => exact shutDown ledger
  | @enter _ sync waiter talk pingAt asked said possible =>
      rw [← asked.ticket?] at ledger
      have entered : Ledger accepted waiting _ (engine.enter (engine.entryFor now sync waiter) talk).1 :=
        enter ledger said
      exact ⟨entered.distinct, entered.balanced, entered.counted⟩
  | collapse asked impossible => exact collapse ledger
  | attach socket => exact silent ledger (.append (.single ⟨rfl, rfl⟩) (.single ⟨rfl, rfl⟩)) rfl rfl
  | redial failure =>
      have warned : Ledger accepted waiting _ engine :=
        silent ledger (.single ⟨rfl, rfl⟩ : AreSilent [.warned (.connectFailed failure)]) rfl rfl
      have dialed := warned.beginConnect
      rw [List.append_assoc] at dialed
      exact dialed
  | @answer packet entry _ found =>
      obtain ⟨here, left⟩ := Table.resolve_some found
      have answered : Ledger accepted waiting _ engine :=
        silent ledger (.single ⟨rfl, rfl⟩ : AreSilent [.answered entry packet]) rfl rfl
      have told := answered.discharge here left (.ok packet)
      rw [List.append_assoc] at told
      exact told
  | unknown packet effect said => exact silent ledger (.of_remarks (by simpa using said)) rfl rfl
  | readFailed fault => exact silent ledger (.single ⟨rfl, rfl⟩) rfl rfl
  | written => exact silent ledger (.map _ fun _ => ⟨rfl, rfl⟩) rfl rfl
  | writeFailed failure part =>
      have warned : AreSilent [.warned (.writeFailed failure)] := .single ⟨rfl, rfl⟩
      have back : AreSilent (engine.takeBack part).2 := .map _ fun _ => ⟨rfl, rfl⟩
      exact silent ledger ((warned.append back).append (.release _)) rfl rfl
  | stale generation report old => exact silent ledger (.ignoreReport engine report) rfl rfl
  | ring ringing taken early =>
      rw [List.append_nil]
      have same := Table.claims_of_ringing ringing taken early
      obtain ⟨-, callers⟩ := Pending.same_of_claims same
      refine ⟨Table.isDistinct_of_claims ledger.distinct same, ?_, ?_⟩
      · rw [callers]
        exact ledger.balanced
      · rw [callers]
        exact ledger.counted
  | @expire alarm _ _ _ ringing fired =>
      obtain ⟨found, left⟩ := Table.fired_of_ringing ringing fired
      have expired : Ledger accepted waiting _ engine :=
        silent ledger (.single ⟨rfl, rfl⟩ : AreSilent [.expired alarm.sync]) rfl rfl
      have told := expired.discharge found left .timeout
      rw [List.append_assoc] at told
      exact told

/-- A reaction settles the account of the caller that its stimulus brings. -/
theorem course {now : Time} {stimulus : Stimulus} (course : Course now stimulus engine effects after)
    (ledger : Ledger accepted (stimulus.ticket?.toList ++ waiting) history engine) :
    Ledger accepted waiting (history ++ effects) after :=
  course.holds history (fun onset => ledger.onset onset) fun _ tick held => held.tick tick

end Ledger

end RequestMux.Client
