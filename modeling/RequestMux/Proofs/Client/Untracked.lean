import RequestMux.Proofs.Client.Pinging

/-!
# An engine that tracks nobody

What an engine keeps for its callers – their entries in the table, the alarms that are set for
them, and how many there are – never decides what it does to the outside.  Without it a request
is a packet that is sent, a response is a frame for nobody, and the engine does the same things to
its socket, its queue and its ping.
-/

namespace RequestMux.Client

open Pending (Alarm Entry Table Waiter)

namespace Pending

/-- An entry without the alarm that is set for it. -/
def Entry.unkeyed (entry : Entry) : Entry := { entry with alarm := 0 }

namespace Table

/-- What the connection itself waits for. -/
def watches (table : Table) : List Entry := (table.entries.filter Entry.isPing).map Entry.unkeyed

/-- The table without its callers. -/
def untracked (table : Table) : Table := ⟨table.watches, table.watches.map Entry.timer, 1⟩

variable {table left : Table} {sync : UInt32} {entry : Entry}

theorem untracked_congr (same : left.watches = table.watches) :
    left.untracked = table.untracked := by
  rw [untracked, untracked, same]

@[simp]
theorem watches_untracked (table : Table) : table.untracked.watches = table.watches := by
  have pings : table.watches.filter Entry.isPing = table.watches := by
    refine List.filter_eq_self.mpr fun entry member => ?_
    obtain ⟨other, there, rfl⟩ := List.mem_map.mp member
    exact (List.mem_filter.mp there).2
  have again : Entry.unkeyed ∘ Entry.unkeyed = Entry.unkeyed := rfl
  change (table.watches.filter Entry.isPing).map Entry.unkeyed = table.watches
  rw [pings, watches, List.map_map, again]

theorem untracked_untracked (table : Table) : table.untracked.untracked = table.untracked :=
  untracked_congr (watches_untracked table)

end Table

end Pending

/-- The engine without what it keeps for its callers. -/
def Engine.untracked (engine : Engine) : Engine :=
  { engine with
    pending := engine.pending.untracked
    board := { engine.board with outstanding := 0 } }

/-- Whether an effect concerns anybody but callers. -/
def Effect.isOutward : Effect → Bool
  | .resolved _ _ => false
  | .abandoned _ => false
  | .registered _ => false
  | .answered _ _ => false
  | .expired _ => false
  | .warned (.syncReused _) => false
  | .noted (.dismissing _) => false
  | .noted (.unknownSync _ _) => false
  | _ => true

/-- A reaction without what it does to callers. -/
def Reaction.untracked (reaction : Reaction) : Reaction :=
  (reaction.1.untracked, reaction.2.filter Effect.isOutward)

/-- A write without its ticket. -/
def Command.untracked : Command → Command
  | .write packet _ => .write packet none
  | given => given

def Stimulus.untracked : Stimulus → Stimulus
  | .command given => .command given.untracked
  | stimulus => stimulus

theorem Engine.untracked_untracked (engine : Engine) :
    engine.untracked.untracked = engine.untracked :=
  congrArg (fun table => ({ engine.untracked with pending := table } : Engine))
    engine.pending.untracked_untracked

theorem Reaction.untracked_nil (engine : Engine) :
    Reaction.untracked (engine.untracked, []) = (engine.untracked, []) :=
  congrArg (fun engine => (engine, [])) engine.untracked_untracked

theorem outward_resolved (told : List Nat) (outcome : Outcome) :
    ((told.map fun ticket => .resolved ticket outcome) : List Effect).filter Effect.isOutward =
      [] := by
  refine List.filter_eq_nil_iff.mpr fun effect member => ?_
  obtain ⟨ticket, -, rfl⟩ := List.mem_map.mp member
  exact Bool.false_ne_true

/-- Whether an engine goes on in the same way without its callers. -/
def IsBlind (next : Engine → Reaction) : Prop :=
  ∀ engine, (next engine).untracked = (next engine.untracked).untracked

/-- After reactions that are the same but for callers, an engine goes on in the same way. -/
theorem IsBlind.follow {next : Engine → Reaction} (blind : IsBlind next) {first other : Reaction}
    (same : first.untracked = other.untracked) :
    (first.andThen next).untracked = (other.andThen next).untracked := by
  have engines : first.1.untracked = other.1.untracked := congrArg Prod.fst same
  have effects : first.2.filter Effect.isOutward = other.2.filter Effect.isOutward :=
    congrArg Prod.snd same
  have nexts : (next first.1).untracked = (next other.1).untracked := by
    rw [blind first.1, engines, ← blind other.1]
  have later : (next first.1).2.filter Effect.isOutward =
      (next other.1).2.filter Effect.isOutward := congrArg Prod.snd nexts
  refine Prod.ext (Prod.ext_iff.mp nexts).1 ?_
  change (first.2 ++ (next first.1).2).filter _ = (other.2 ++ (next other.1).2).filter _
  rw [List.filter_append, List.filter_append, effects, later]

namespace IsBlind

variable {first next : Engine → Reaction} {change : Engine → Engine}

theorem of_exact
    (exact : ∀ engine, next engine.untracked = ((next engine).1.untracked, (next engine).2)) :
    IsBlind next := by
  intro engine
  rw [exact]
  change (_, _) = (_, _)
  rw [Engine.untracked_untracked]

theorem andThen (first_ : IsBlind first) (next_ : IsBlind next) :
    IsBlind fun engine => (first engine).andThen next :=
  fun engine => next_.follow (first_ engine)

/-- A change that does not look at the callers may come first. -/
theorem comp (next_ : IsBlind next)
    (exact : ∀ engine, change engine.untracked = (change engine).untracked) :
    IsBlind fun engine => next (change engine) := by
  intro engine
  rw [next_, ← exact]

theorem still : IsBlind fun engine => (engine, []) := of_exact fun _ => rfl

theorem emit (effect : Effect) : IsBlind (Engine.emit effect) := of_exact fun _ => rfl

theorem beginConnect : IsBlind Engine.beginConnect := of_exact fun _ => rfl

theorem pumpWrites : IsBlind Engine.pumpWrites := by
  refine of_exact fun engine => ?_
  obtain ⟨_, _, _, _, _, queue, inFlight, link, _, _, _, _, _⟩ := engine
  cases inFlight <;> cases link <;> cases queue <;> rfl

theorem enqueue (octets : Bytes) (counted : Bool) : IsBlind (Engine.enqueue octets counted) := by
  have pushes : IsBlind (Engine.push octets counted) := of_exact fun _ => rfl
  refine pushes.andThen fun engine => ?_
  have clears : IsBlind fun engine => ({ engine with queue := [] }, []) := of_exact fun _ => rfl
  have same : engine.untracked.phase = engine.phase := rfl
  unfold Engine.dispatch
  rw [same]
  split
  · exact beginConnect engine
  · exact still engine
  · exact pumpWrites engine
  · exact clears engine

theorem settle (ticket : Nat) (outcome : Outcome) : IsBlind (Engine.settle ticket outcome) := by
  intro engine
  exact (Reaction.untracked_nil engine).symm

theorem release : IsBlind Engine.release := of_exact fun _ => rfl

theorem dismissAll : IsBlind Engine.dismissAll := by
  have silent (engine : Engine) :
      engine.dismissAll.untracked =
        ({ engine.untracked with pending := Table.empty.untracked }, []) := by
    have untold : engine.dismissAll.2.filter Effect.isOutward = [] := by
      unfold Engine.dismissAll
      dsimp only
      rw [List.filter_append, outward_resolved, List.append_nil]
      split <;> rfl
    exact congrArg (fun effects => (_, effects)) untold
  intro engine
  rw [silent, silent]
  rfl

theorem teardown : IsBlind Engine.teardown := release.andThen dismissAll

theorem reconnect : IsBlind Engine.reconnect := by
  intro engine
  have same : engine.untracked.phase = engine.phase := rfl
  unfold Engine.reconnect
  rw [same]
  split
  · exact still engine
  · exact teardown.andThen beginConnect engine

theorem shutDown : IsBlind Engine.shutDown := by
  let flag (engine : Engine) : Engine :=
    { engine with board := { engine.board with shuttingDown := true } }.setPhase .shuttingDown
  have torn : IsBlind fun engine => (flag engine).teardown := teardown.comp fun _ => rfl
  exact torn.andThen (of_exact fun _ => rfl)

theorem schedulePing (now : Time) : IsBlind fun engine => (engine.schedulePing now, []) :=
  of_exact fun _ => rfl

theorem pingDone (now : Time) (outcome : Outcome) : IsBlind (Engine.pingDone now outcome) := by
  intro engine
  have same : engine.untracked.phase = engine.phase := rfl
  unfold Engine.pingDone
  rw [same]
  split
  · split
    · exact schedulePing now engine
    · exact (emit _).andThen reconnect engine
  · exact still engine

theorem complete (now : Time) (waiter : Waiter) (outcome : Outcome) :
    IsBlind (Engine.complete now waiter outcome) := by
  cases waiter with
  | caller ticket => exact settle ticket outcome
  | ping => exact pingDone now outcome

theorem attach (now : Time) (socket : Nat) : IsBlind (Engine.attach now socket) := by
  have attached : IsBlind fun engine =>
      (Engine.schedulePing now { engine.setPhase .connected with
        link := some socket, attempting := false },
        [.attached socket, .noted (.connected engine.generation)]) := of_exact fun _ => rfl
  exact attached.andThen pumpWrites

theorem handleWriteFailed (failure : IoFailure) (part : Bool) :
    IsBlind (Engine.handleWriteFailed failure part) := by
  have returned : IsBlind fun engine =>
      ({ engine with inFlight := none, queue := engine.returned part ++ engine.queue },
        .warned (.writeFailed failure) :: (engine.returned part).map .requeued) :=
    of_exact fun _ => rfl
  exact returned.andThen reconnect

theorem ignoreReport (report : Report) : IsBlind (Engine.ignoreReport report) := by
  refine of_exact fun engine => ?_
  cases report <;> rfl

end IsBlind

namespace Engine

variable {now : Time} {engine : Engine}

end Engine

namespace Connection

/-- A connection without its callers. -/
def untracked (connection : Connection) : Connection :=
  { connection with
    engine := connection.engine.untracked
    mailbox := connection.mailbox.map Command.untracked }

variable {connection other : Connection} {now : Time}

end Connection

end RequestMux.Client
