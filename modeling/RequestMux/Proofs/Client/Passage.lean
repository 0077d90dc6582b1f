import Mathlib.Data.List.Chain
import Mathlib.Data.List.Infix
import Mathlib.Data.List.Nodup
import RequestMux.Proofs.Client.Turns

/-!
# The passage of buffers

Buffers leave the queue at the front, one at a time, in the order of their numbers.
Only one that was cut off part-way comes back, to the front, and it is the next to
leave.
-/

namespace RequestMux.Client

/-- The buffer that joins the queue with an effect. -/
def Effect.enqueued? : Effect → Option QueuedWrite
  | .enqueued write => some write
  | _ => none

/-- The buffer that is handed to a writer with an effect. -/
def Effect.handed? : Effect → Option QueuedWrite
  | .handed _ write => some write
  | _ => none

/-- The buffers that joined the queue, in order. -/
def enqueuedIn (history : List Effect) : List QueuedWrite := history.filterMap Effect.enqueued?

/-- The buffers that were handed to writers, in order. -/
def handedIn (history : List Effect) : List QueuedWrite := history.filterMap Effect.handed?

/-- A buffer goes to a writer, or comes back. -/
inductive Passage where
  | handed (socket : Nat) (write : QueuedWrite)
  | requeued (write : QueuedWrite)
  deriving DecidableEq, Repr

namespace Passage

def write : Passage → QueuedWrite
  | .handed _ write => write
  | .requeued write => write

/-- A buffer that came back is the next to be handed over; behind one that was handed over, it
is the turn of the next number, unless it comes back. -/
def Follows : Passage → Passage → Prop
  | .handed _ first, .handed _ next => next.job = first.job + 1
  | .handed _ first, .requeued next => next = first
  | .requeued first, .handed _ next => next = first
  | .requeued _, .requeued _ => False

end Passage

/-- The passage that an effect is. -/
def Effect.passage? : Effect → Option Passage
  | .handed socket write => some (.handed socket write)
  | .requeued write => some (.requeued write)
  | _ => none

/-- The passages of buffers, in order. -/
def passagesIn (history : List Effect) : List Passage := history.filterMap Effect.passage?

@[simp]
theorem enqueuedIn_append (history more : List Effect) :
    enqueuedIn (history ++ more) = enqueuedIn history ++ enqueuedIn more :=
  List.filterMap_append

@[simp]
theorem handedIn_append (history more : List Effect) :
    handedIn (history ++ more) = handedIn history ++ handedIn more :=
  List.filterMap_append

@[simp]
theorem passagesIn_append (history more : List Effect) :
    passagesIn (history ++ more) = passagesIn history ++ passagesIn more :=
  List.filterMap_append

theorem handedIn_mono (history more : List Effect) : handedIn history ⊆ handedIn (history ++ more) := by
  rw [handedIn_append]
  exact List.subset_append_left _ _

/-- Whether effects move no buffer. -/
def AreStill (effects : List Effect) : Prop :=
  ∀ effect ∈ effects, effect.enqueued? = none ∧ effect.passage? = none

namespace AreStill

theorem enqueuedIn {effects : List Effect} (still : AreStill effects) :
    Client.enqueuedIn effects = [] :=
  List.filterMap_eq_nil_iff.mpr fun effect member => (still effect member).1

theorem passagesIn {effects : List Effect} (still : AreStill effects) :
    Client.passagesIn effects = [] :=
  List.filterMap_eq_nil_iff.mpr fun effect member => (still effect member).2

theorem of_isIdle {effect : Effect} (idle : effect.isIdle = true) :
    effect.enqueued? = none ∧ effect.passage? = none := by
  cases effect with
  | enqueued _ => cases idle
  | handed _ _ => cases idle
  | requeued _ => cases idle
  | _ => exact ⟨rfl, rfl⟩

end AreStill

/-- No onset hands a buffer over. -/
theorem Onset.handed?_eq_none {now : Time} {stimulus : Stimulus} {engine after : Engine}
    {effects : List Effect} (onset : Onset now engine stimulus effects after) :
    ∀ effect ∈ effects, effect.handed? = none := by
  intro effect member
  cases onset.brings member with
  | idle quiet =>
      cases effect with
      | handed _ _ => cases quiet
      | _ => rfl
  | _ => rfl

/-- Where the line of buffers stands after the last passage: what is queued, and what may be
with the writer, among all that joined. -/
inductive Line (joined : List QueuedWrite) :
    Option Passage → Option QueuedWrite → List QueuedWrite → Prop where
  | untouched {queue : List QueuedWrite} (all : joined = queue) : Line joined none none queue
  | handed {gone queue : List QueuedWrite} {socket : Nat} {write : QueuedWrite}
      {inFlight : Option QueuedWrite} (cut : joined = gone ++ write :: queue)
      (here : ∀ other ∈ inFlight, other = write) :
      Line joined (some (.handed socket write)) inFlight queue
  | requeued {gone queue : List QueuedWrite} {write : QueuedWrite}
      (cut : joined = gone ++ write :: queue) :
      Line joined (some (.requeued write)) none (write :: queue)

/-- The line of buffers, with all passages so far. -/
structure Convoy (history : List Effect) (engine : Engine) : Prop where
  numbered : (enqueuedIn history).map QueuedWrite.job = List.range engine.nextJob
  chained : (passagesIn history).IsChain Passage.Follows
  first : ∀ passage ∈ (passagesIn history).head?, passage.write.job = 0 ∧
    ∃ socket write, passage = .handed socket write
  known : ∀ passage ∈ passagesIn history, passage.write ∈ enqueuedIn history
  line : engine.life = .running →
    Line (enqueuedIn history) (passagesIn history).getLast? engine.inFlight engine.queue
  kept : engine.life = .running →
    ∀ write ∈ enqueuedIn history, write ∈ handedIn history ∨ write ∈ engine.queue
  ended : engine.life ≠ .running → engine.inFlight = none ∧ engine.queue = []

/-- The number of a buffer is its place among those that joined. -/
theorem job_eq_length {joined gone queue : List QueuedWrite} {write : QueuedWrite} {count : Nat}
    (numbered : joined.map QueuedWrite.job = List.range count)
    (cut : joined = gone ++ write :: queue) : write.job = gone.length := by
  have place : (joined.map QueuedWrite.job)[gone.length]? = some write.job := by
    rw [cut]
    simp
  rw [numbered, List.getElem?_range (by
    have := congrArg List.length numbered
    rw [cut] at this
    simp at this
    omega)] at place
  exact (Option.some.inj place).symm

namespace Line

variable {joined queue : List QueuedWrite} {last : Option Passage} {inFlight : Option QueuedWrite}

/-- What is with the writer, and behind it the queue, are the last that joined. -/
theorem isSuffix (line : Line joined last inFlight queue) : inFlight.toList ++ queue <:+ joined := by
  cases line with
  | untouched all => exact all ▸ List.suffix_rfl
  | @handed gone _ _ write _ cut here =>
      rw [cut]
      cases inFlight with
      | none => exact ⟨gone ++ [write], by simp⟩
      | some other =>
          rw [here other rfl]
          exact ⟨gone, rfl⟩
  | @requeued gone _ _ cut =>
      rw [cut]
      exact ⟨gone, rfl⟩

/-- The writer lets go of what it has. -/
theorem drop (line : Line joined last inFlight queue) : Line joined last none queue := by
  cases line with
  | untouched all => exact .untouched all
  | handed cut here => exact .handed cut nofun
  | requeued cut => exact .requeued cut

/-- One more joins. -/
theorem join (line : Line joined last inFlight queue) (write : QueuedWrite) :
    Line (joined ++ [write]) last inFlight (queue ++ [write]) := by
  cases line with
  | untouched all => exact .untouched (congrArg (· ++ [write]) all)
  | @handed gone _ _ first _ cut here =>
      have more : joined ++ [write] = gone ++ first :: (queue ++ [write]) := by
        rw [cut, List.append_assoc, List.cons_append]
      exact .handed more here
  | @requeued gone queue first cut =>
      have more : joined ++ [write] = gone ++ first :: (queue ++ [write]) := by
        rw [cut, List.append_assoc, List.cons_append]
      exact .requeued more

end Line

namespace Convoy

variable {history effects : List Effect} {engine after : Engine} {now : Time}

/-- What the line depends on in the engine, but for what is with the writer. -/
def lineup (engine : Engine) : Life × List QueuedWrite × Nat :=
  (engine.life, engine.queue, engine.nextJob)

/-- What moves no buffer lets the line be, but for the writer letting go. -/
theorem still (convoy : Convoy history engine) (still : AreStill effects)
    (same : lineup after = lineup engine)
    (inFlight : after.inFlight = engine.inFlight ∨ after.inFlight = none) :
    Convoy (history ++ effects) after := by
  simp only [lineup, Prod.mk.injEq] at same
  obtain ⟨lives, queue, numbers⟩ := same
  have joined : enqueuedIn (history ++ effects) = enqueuedIn history := by
    rw [enqueuedIn_append, still.enqueuedIn, List.append_nil]
  have passages : passagesIn (history ++ effects) = passagesIn history := by
    rw [passagesIn_append, still.passagesIn, List.append_nil]
  constructor
  case numbered =>
    rw [joined, numbers]
    exact convoy.numbered
  case chained =>
    rw [passages]
    exact convoy.chained
  case first =>
    rw [passages]
    exact convoy.first
  case known =>
    rw [passages, joined]
    exact convoy.known
  case line =>
    rw [passages, joined, lives, queue]
    intro running
    rcases inFlight with same | gone
    · rw [same]
      exact convoy.line running
    · rw [gone]
      exact (convoy.line running).drop
  case kept =>
    rw [joined, lives, queue]
    intro running write member
    exact (convoy.kept running write member).imp_left (handedIn_mono _ _ ·)
  case ended =>
    rw [lives, queue]
    intro ended
    obtain ⟨none, empty⟩ := convoy.ended ended
    rcases inFlight with same | gone
    · exact ⟨same.trans none, empty⟩
    · exact ⟨gone, empty⟩

/-- When the engine ends, the line is given up. -/
theorem giveUp (convoy : Convoy history engine) (still : AreStill effects)
    (numbers : after.nextJob = engine.nextJob) (ended : after.life ≠ .running)
    (inFlight : after.inFlight = none) (queue : after.queue = []) :
    Convoy (history ++ effects) after := by
  have joined : enqueuedIn (history ++ effects) = enqueuedIn history := by
    rw [enqueuedIn_append, still.enqueuedIn, List.append_nil]
  have passages : passagesIn (history ++ effects) = passagesIn history := by
    rw [passagesIn_append, still.passagesIn, List.append_nil]
  constructor
  case numbered =>
    rw [joined, numbers]
    exact convoy.numbered
  case chained =>
    rw [passages]
    exact convoy.chained
  case first =>
    rw [passages]
    exact convoy.first
  case known =>
    rw [passages, joined]
    exact convoy.known
  case line => exact fun running => absurd running ended
  case kept => exact fun running => absurd running ended
  case ended => exact fun _ => ⟨inFlight, queue⟩

/-- One passage more, which follows those so far. -/
theorem pass (convoy : Convoy history engine) {effect : Effect} {passage : Passage}
    (moves : effect.passage? = some passage) (joins : effect.enqueued? = none)
    (known : passage.write ∈ enqueuedIn history)
    (follows : ∀ last ∈ (passagesIn history).getLast?, last.Follows passage)
    (first : passagesIn history = [] → passage.write.job = 0 ∧
      ∃ socket write, passage = .handed socket write)
    (numbers : after.nextJob = engine.nextJob) (running : after.life = .running)
    (line : Line (enqueuedIn history) (some passage) after.inFlight after.queue)
    (kept : ∀ write ∈ enqueuedIn history,
      write ∈ handedIn (history ++ [effect]) ∨ write ∈ after.queue) :
    Convoy (history ++ [effect]) after := by
  have joined : enqueuedIn (history ++ [effect]) = enqueuedIn history := by
    simp [enqueuedIn, joins]
  have passages : passagesIn (history ++ [effect]) = passagesIn history ++ [passage] := by
    simp [passagesIn, moves]
  constructor
  case numbered =>
    rw [joined, numbers]
    exact convoy.numbered
  case chained =>
    rw [passages, List.isChain_append]
    refine ⟨convoy.chained, .singleton passage, fun last member next isNext => ?_⟩
    cases isNext
    exact follows last member
  case first =>
    rw [passages]
    cases before : passagesIn history with
    | nil =>
        intro other isHead
        cases isHead
        exact first before
    | cons head rest =>
        intro other isHead
        exact convoy.first other (before ▸ isHead)
  case known =>
    rw [passages, joined]
    intro other member
    rcases List.mem_append.mp member with early | late
    · exact convoy.known other early
    · rw [List.mem_singleton.mp late]
      exact known
  case line =>
    intro _
    rw [passages, joined, List.getLast?_concat]
    exact line
  case kept => exact fun _ => joined ▸ kept
  case ended => exact fun ended => absurd running ended

/-- A buffer joins the end of the queue. -/
theorem push (convoy : Convoy history engine) (running : engine.life = .running) (octets : Bytes)
    (counted : Bool) :
    Convoy (history ++ (engine.push octets counted).2) (engine.push octets counted).1 := by
  let write : QueuedWrite := ⟨engine.nextJob, octets, counted⟩
  have joined : enqueuedIn (history ++ [.enqueued write]) = enqueuedIn history ++ [write] :=
    enqueuedIn_append history _
  have passages : passagesIn (history ++ [.enqueued write]) = passagesIn history := by
    rw [passagesIn_append]
    exact List.append_nil _
  constructor
  case numbered =>
    change (enqueuedIn (history ++ [.enqueued write])).map _ = List.range (engine.nextJob + 1)
    rw [joined, List.map_append, convoy.numbered, List.range_succ]
    rfl
  case chained => exact passages ▸ convoy.chained
  case first => exact passages ▸ convoy.first
  case known =>
    intro passage member
    change passage ∈ passagesIn (history ++ [.enqueued write]) at member
    change passage.write ∈ enqueuedIn (history ++ [.enqueued write])
    rw [passages] at member
    rw [joined]
    exact List.mem_append_left _ (convoy.known passage member)
  case line =>
    intro _
    change Line (enqueuedIn (history ++ [.enqueued write]))
      (passagesIn (history ++ [.enqueued write])).getLast? _ (engine.queue ++ [write])
    rw [joined, passages]
    exact (convoy.line running).join write
  case kept =>
    intro _ other member
    change other ∈ enqueuedIn (history ++ [.enqueued write]) at member
    rw [joined] at member
    rcases List.mem_append.mp member with early | new
    · exact (convoy.kept running other early).imp (handedIn_mono _ _ ·) (List.mem_append_left _ ·)
    · exact .inr (List.mem_append_right _ new)
  case ended => exact fun ended => absurd running ended

/-- The first buffer of the queue goes to the writer. -/
theorem hand (convoy : Convoy history engine) (running : engine.life = .running) (socket : Nat)
    {write : QueuedWrite} {rest : List QueuedWrite} (free : engine.inFlight = none)
    (first : engine.queue = write :: rest) :
    Convoy (history ++ [.handed socket write])
      { engine with inFlight := some write, queue := rest } := by
  have line := convoy.line running
  rw [free, first] at line
  generalize lastly : (passagesIn history).getLast? = last at line
  have follows (cut : ∃ gone, enqueuedIn history = gone ++ write :: rest)
      (turn : ∀ prior ∈ last, prior.Follows (.handed socket write))
      (opening : last = none → write.job = 0) :
      Convoy (history ++ [.handed socket write])
        { engine with inFlight := some write, queue := rest } := by
    obtain ⟨gone, cut⟩ := cut
    have known : write ∈ enqueuedIn history := by
      rw [cut]
      exact List.mem_append_right _ List.mem_cons_self
    refine convoy.pass rfl rfl known (lastly ▸ turn) (fun none => ?_) rfl running
      (.handed cut ?_) fun other member => ?_
    · rw [none] at lastly
      exact ⟨opening lastly.symm, socket, write, rfl⟩
    · rintro other ⟨⟩
      rfl
    · rw [handedIn_append]
      rcases convoy.kept running other member with earlier | queued
      · exact .inl (List.mem_append_left _ earlier)
      · rw [first] at queued
        rcases List.mem_cons.mp queued with rfl | behind
        · exact .inl (List.mem_append_right _ List.mem_cons_self)
        · exact .inr behind
  cases line with
  | untouched all =>
      have cut : enqueuedIn history = [] ++ write :: rest := all
      exact follows ⟨[], cut⟩ nofun fun _ => job_eq_length convoy.numbered cut
  | @handed gone _ earlier prior _ cut here =>
      have split : enqueuedIn history = (gone ++ [prior]) ++ write :: rest := by
        rw [cut, List.append_assoc]
        rfl
      refine follows ⟨_, split⟩ ?_ nofun
      rintro last ⟨⟩
      change write.job = prior.job + 1
      rw [job_eq_length convoy.numbered split, job_eq_length convoy.numbered cut]
      simp
  | requeued cut =>
      refine follows ⟨_, cut⟩ ?_ nofun
      rintro last ⟨⟩
      rfl

theorem tick (awake : engine.IsAwake) (tick : Tick now engine effects after)
    (convoy : Convoy history engine) : Convoy (history ++ effects) after := by
  cases tick with
  | remark effect said =>
      refine convoy.still (fun other member => ?_) rfl (.inl rfl)
      rw [List.mem_singleton.mp member]
      exact AreStill.of_isIdle (Effect.isIdle_of_isRemark said)
  | reschedule => exact convoy.still nofun rfl (.inl rfl)
  | publish => exact convoy.still nofun rfl (.inl rfl)
  | dial =>
      exact convoy.still (Engine.forall_beginConnect _ engine (fun _ => ⟨rfl, rfl⟩)
        fun _ => ⟨rfl, rfl⟩) rfl (.inl rfl)
  | push octets counted => exact convoy.push awake.running octets counted
  | @hand socket _ _ free linked first =>
      have handed := convoy.hand awake.running socket free first
      exact ⟨handed.numbered, handed.chained, handed.first, handed.known, handed.line,
        handed.kept, handed.ended⟩
  | release =>
      exact convoy.still (Engine.forall_release _ engine (fun _ => ⟨rfl, rfl⟩) ⟨rfl, rfl⟩)
        rfl (.inr rfl)
  | dismiss =>
      exact convoy.still (Engine.forall_dismissAll _ engine (fun _ => ⟨rfl, rfl⟩)
        fun _ => ⟨rfl, rfl⟩) rfl (.inl rfl)

/-- A buffer that was cut off comes back to the front. -/
theorem takeBack (convoy : Convoy history engine) (running : engine.life = .running)
    (part : Bool) :
    Convoy (history ++ (engine.takeBack part).2) (engine.takeBack part).1 := by
  have nothing (none : engine.returned part = []) :
      Convoy (history ++ (engine.takeBack part).2) (engine.takeBack part).1 := by
    have same : lineup (engine.takeBack part).1 = lineup engine := by
      rw [Engine.takeBack, none]
      rfl
    refine convoy.still ?_ same (.inr rfl)
    rw [Engine.takeBack, none]
    exact nofun
  cases part with
  | false => exact nothing rfl
  | true =>
      cases inFlight : engine.inFlight with
      | none => exact nothing (congrArg Option.toList inFlight)
      | some write =>
          have returned : engine.returned true = [write] := congrArg Option.toList inFlight
          have line := convoy.line running
          rw [inFlight] at line
          generalize lastly : (passagesIn history).getLast? = last at line
          cases line with
          | @handed gone _ socket prior _ cut here =>
              have same : write = prior := here write rfl
              subst same
              have known : write ∈ enqueuedIn history := by
                rw [cut]
                exact List.mem_append_right _ List.mem_cons_self
              have passed : Convoy (history ++ [.requeued write]) (engine.takeBack true).1 := by
                refine convoy.pass rfl rfl known ?_ (fun none => ?_) rfl running ?_
                  fun other member => ?_
                · rw [lastly]
                  rintro last ⟨⟩
                  rfl
                · rw [none] at lastly
                  cases lastly
                · change Line _ _ none (engine.returned true ++ engine.queue)
                  rw [returned]
                  exact .requeued cut
                · exact (convoy.kept running other member).imp (handedIn_mono _ _ ·)
                    (List.mem_append_right _ ·)
              rw [Engine.takeBack, returned]
              rw [Engine.takeBack, returned] at passed
              exact passed

/-- Only a failed write moves a buffer at once. -/
theorem areStill_of_onset {stimulus : Stimulus} (onset : Onset now engine stimulus effects after)
    (sound : ∀ failure, stimulus ≠ .report engine.generation (.writeFailed failure true)) :
    AreStill effects := by
  intro effect member
  cases onset.brings member with
  | idle quiet => exact AreStill.of_isIdle quiet
  | requeued failed inFlight => exact absurd failed (sound _)
  | _ => exact ⟨rfl, rfl⟩

theorem onset {stimulus : Stimulus} (awake : engine.IsAwake)
    (onset : Onset now engine stimulus effects after) (convoy : Convoy history engine) :
    Convoy (history ++ effects) after := by
  have still := areStill_of_onset onset
  cases onset with
  | plain told =>
      refine convoy.still (still ?_) rfl (.inl rfl)
      rintro failure rfl
      cases told
  | enter talk pingAt asked said possible =>
      refine convoy.still (still ?_) rfl (.inl rfl)
      rintro failure rfl
      exact asked
  | stale generation report old =>
      refine convoy.still (still ?_) rfl (.inl rfl)
      rintro failure ⟨⟩
      exact old rfl
  | shutDown => exact convoy.giveUp (still nofun) rfl nofun rfl rfl
  | collapse asked impossible =>
      refine convoy.giveUp (still ?_) rfl nofun rfl rfl
      rintro failure rfl
      exact asked
  | written => exact convoy.still (still nofun) rfl (.inr rfl)
  | writeFailed failure part =>
      have warned : Convoy (history ++ [.warned (.writeFailed failure)]) engine :=
        convoy.still (by simp [AreStill, Effect.enqueued?, Effect.passage?]) rfl (.inl rfl)
      have releasing : AreStill (engine.takeBack part).1.release.2 :=
        Engine.forall_release _ _ (fun _ => ⟨rfl, rfl⟩) ⟨rfl, rfl⟩
      have released : Convoy _ (engine.takeBack part).1.release.1 :=
        (warned.takeBack awake.running part).still releasing rfl (.inr rfl)
      rw [List.append_assoc, List.append_assoc] at released
      exact released
  | disablePing => exact convoy.still (still nofun) rfl (.inl rfl)
  | attach socket => exact convoy.still (still nofun) rfl (.inl rfl)
  | redial failure => exact convoy.still (still nofun) rfl (.inl rfl)
  | answer found => exact convoy.still (still nofun) rfl (.inl rfl)
  | unknown packet effect said => exact convoy.still (still nofun) rfl (.inl rfl)
  | readFailed fault => exact convoy.still (still nofun) rfl (.inl rfl)
  | ring ringing taken early => exact convoy.still (still nofun) rfl (.inl rfl)
  | expire ringing fired => exact convoy.still (still nofun) rfl (.inl rfl)

theorem isKept : IsKept Convoy where
  shown board convoy :=
    ⟨convoy.numbered, convoy.chained, convoy.first, convoy.known, convoy.line, convoy.kept,
      convoy.ended⟩
  onset awake onset convoy := convoy.onset awake onset
  tick awake tick convoy := convoy.tick awake tick
  ends farewell convoy := by
    refine convoy.still (fun effect member => ?_) rfl (.inl rfl)
    exact AreStill.of_isIdle (Life.isIdle_of_isFarewell (farewell effect member))

theorem run (endpoint : Endpoint) (settings : Settings) (moves : List (Time × Move)) :
    let start := Connection.start endpoint settings
    Convoy (Client.history (start.turns moves)) (start.run moves).engine :=
  isKept.run endpoint settings
    ⟨rfl, .nil, nofun, nofun, fun _ => .untouched rfl, fun _ => nofun,
      fun ended => absurd rfl ended⟩ moves

end Convoy

/-- An effect after which buffers may go to another socket than before. -/
def Effect.isTurning : Effect → Bool
  | .attached _ => true
  | .requeued _ => true
  | _ => false

/-- Whether a socket was attached last, and no buffer came back since. -/
def IsServed (history : List Effect) (socket : Nat) : Prop :=
  ∃ before since, history = before ++ .attached socket :: since ∧
    ∀ effect ∈ since, effect.isTurning = false

theorem IsServed.append {history more : List Effect} {socket : Nat}
    (served : IsServed history socket) (steady : ∀ effect ∈ more, effect.isTurning = false) :
    IsServed (history ++ more) socket := by
  obtain ⟨before, since, rfl, calm⟩ := served
  refine ⟨before, since ++ more, by simp, fun effect member => ?_⟩
  rcases List.mem_append.mp member with early | late
  · exact calm effect early
  · exact steady effect late

/-- What is not among the later items was there before. -/
theorem prefix_of_not_mem {Item : Type} {before history more : List Item} {item : Item}
    (prior : before ++ [item] <+: history ++ more) (absent : item ∉ more) :
    before ++ [item] <+: history := by
  by_cases short : (before ++ [item]).length ≤ history.length
  · exact List.prefix_of_prefix_length_le prior (List.prefix_append _ _) short
  · have longer : history.length ≤ before.length := by
      rw [List.length_append, List.length_singleton] at short
      omega
    have start : before <+: history ++ more := (List.prefix_append _ _).trans prior
    obtain ⟨rest, rfl⟩ := List.prefix_of_prefix_length_le (List.prefix_append _ _) start longer
    rw [List.append_assoc, List.prefix_append_right_inj] at prior
    exact absurd (prior.subset (List.mem_append_right rest List.mem_cons_self)) absent

/-- Buffers are handed to the socket that was attached last. -/
structure Service (history : List Effect) (engine : Engine) : Prop where
  linked : ∀ socket ∈ engine.link, IsServed history socket
  handed : ∀ before socket write, before ++ [.handed socket write] <+: history →
    IsServed before socket

namespace Service

variable {history effects : List Effect} {engine after : Engine} {now : Time}

theorem extend (service : Service history engine) (quiet : ∀ effect ∈ effects, effect.handed? = none)
    (linked : ∀ socket ∈ after.link, IsServed (history ++ effects) socket) :
    Service (history ++ effects) after := by
  refine ⟨linked, fun before socket write prior => ?_⟩
  have absent : .handed socket write ∉ effects := fun member => nomatch quiet _ member
  exact service.handed before socket write (prefix_of_not_mem prior absent)

theorem still (service : Service history engine)
    (calm : ∀ effect ∈ effects, effect.handed? = none ∧ effect.isTurning = false)
    (link : after.link = engine.link ∨ after.link = none) : Service (history ++ effects) after := by
  refine service.extend (fun effect member => (calm effect member).1) fun socket member => ?_
  rcases link with same | gone
  · rw [same] at member
    exact (service.linked socket member).append fun effect member => (calm effect member).2
  · rw [gone] at member
    cases member

theorem calm_of_isIdle {effect : Effect} (idle : effect.isIdle = true) :
    effect.handed? = none ∧ effect.isTurning = false := by
  cases effect with
  | handed _ _ => cases idle
  | attached _ => cases idle
  | requeued _ => cases idle
  | _ => exact ⟨rfl, rfl⟩

theorem tick (tick : Tick now engine effects after) (service : Service history engine) :
    Service (history ++ effects) after := by
  cases tick with
  | @hand socket write rest free linked first =>
      have served := service.linked socket linked
      have steady : ∀ effect ∈ [Effect.handed socket write], effect.isTurning = false := by
        intro effect member
        rw [List.mem_singleton.mp member]
        rfl
      refine ⟨fun other member => ?_, fun before other earlier prior => ?_⟩
      · cases linked.symm.trans member
        exact served.append steady
      · rcases List.prefix_concat_iff.mp prior with whole | early
        · obtain ⟨rfl, same⟩ := List.append_inj' whole rfl
          cases same
          exact served
        · exact service.handed before other earlier early
  | remark effect said =>
      refine service.still (fun other member => ?_) (.inl rfl)
      rw [List.mem_singleton.mp member]
      exact calm_of_isIdle (Effect.isIdle_of_isRemark said)
  | reschedule => exact service.still nofun (.inl rfl)
  | publish => exact service.still nofun (.inl rfl)
  | dial =>
      exact service.still (Engine.forall_beginConnect _ engine (fun _ => ⟨rfl, rfl⟩)
        fun _ => ⟨rfl, rfl⟩) (.inl rfl)
  | push octets counted =>
      refine service.still (fun other member => ?_) (.inl rfl)
      rw [List.mem_singleton.mp member]
      exact ⟨rfl, rfl⟩
  | release =>
      exact service.still (Engine.forall_release _ engine (fun _ => ⟨rfl, rfl⟩) ⟨rfl, rfl⟩)
        (.inr rfl)
  | dismiss =>
      exact service.still (Engine.forall_dismissAll _ engine (fun _ => ⟨rfl, rfl⟩)
        fun _ => ⟨rfl, rfl⟩) (.inl rfl)

theorem onset {stimulus : Stimulus} (onset : Onset now engine stimulus effects after)
    (service : Service history engine) : Service (history ++ effects) after := by
  have quiet := onset.handed?_eq_none
  have calm (firm : ∀ socket, stimulus ≠ .report engine.generation (.connected socket))
      (sound : ∀ failure, stimulus ≠ .report engine.generation (.writeFailed failure true)) :
      ∀ effect ∈ effects, effect.handed? = none ∧ effect.isTurning = false := by
    intro effect member
    cases onset.brings member with
    | idle quiet => exact calm_of_isIdle quiet
    | attached connected => exact absurd connected (firm _)
    | requeued failed inFlight => exact absurd failed (sound _)
    | _ => exact ⟨rfl, rfl⟩
  cases onset with
  | attach socket =>
      refine service.extend quiet fun other member => ?_
      cases member
      refine ⟨history, [.noted (.connected engine.generation)], rfl, fun effect member => ?_⟩
      rw [List.mem_singleton.mp member]
      rfl
  | writeFailed failure part => exact service.extend quiet nofun
  | plain told =>
      refine service.still (calm ?_ ?_) (.inl rfl)
      · rintro socket rfl
        cases told
      · rintro failure rfl
        cases told
  | enter talk pingAt asked said possible =>
      refine service.still (calm ?_ ?_) (.inl rfl)
      · rintro socket rfl
        exact asked
      · rintro failure rfl
        exact asked
  | collapse asked impossible => exact service.extend quiet nofun
  | shutDown => exact service.extend quiet nofun
  | stale generation report old =>
      refine service.still (calm ?_ ?_) (.inl rfl)
      · rintro socket ⟨⟩
        exact old rfl
      · rintro failure ⟨⟩
        exact old rfl
  | disablePing => exact service.still (calm nofun nofun) (.inl rfl)
  | redial failure => exact service.still (calm nofun nofun) (.inl rfl)
  | answer found => exact service.still (calm nofun nofun) (.inl rfl)
  | unknown packet effect said => exact service.still (calm nofun nofun) (.inl rfl)
  | readFailed fault => exact service.still (calm nofun nofun) (.inl rfl)
  | written => exact service.still (calm nofun nofun) (.inl rfl)
  | ring ringing taken early => exact service.still (calm nofun nofun) (.inl rfl)
  | expire ringing fired => exact service.still (calm nofun nofun) (.inl rfl)

theorem isKept : IsKept Service where
  shown _ service := ⟨service.linked, service.handed⟩
  onset _ onset service := service.onset onset
  tick _ tick service := service.tick tick
  ends farewell service := by
    refine service.still (fun effect member => ?_) (.inl rfl)
    exact calm_of_isIdle (Life.isIdle_of_isFarewell (farewell effect member))

theorem run (endpoint : Endpoint) (settings : Settings) (moves : List (Time × Move)) :
    let start := Connection.start endpoint settings
    Service (Client.history (start.turns moves)) (start.run moves).engine := by
  refine isKept.run endpoint settings ⟨nofun, fun before socket write prior => ?_⟩ moves
  have empty := List.prefix_nil.mp prior
  simp at empty

end Service

/-- Only a write that failed part-way brings a buffer back: the one with the writer.  The socket
is given up with it, and the buffer heads the queue. -/
theorem Engine.requeued_of_step {now : Time} {engine : Engine} {stimulus : Stimulus}
    {write : QueuedWrite} (awake : engine.IsAwake)
    (member : .requeued write ∈ (engine.step now stimulus).2) :
    ∃ failure, stimulus = .report engine.generation (.writeFailed failure true) ∧
      engine.inFlight = some write ∧ (engine.step now stimulus).1.link = none ∧
      (engine.step now stimulus).1.queue.head? = some write := by
  have course := Engine.step_course now awake stimulus
  have onlyFailure : ∃ failure, stimulus = .report engine.generation (.writeFailed failure true) ∧
      engine.inFlight = some write := by
    obtain ⟨first, middle, later, onset, ticks, effects⟩ := course
    rw [effects] at member
    rcases List.mem_append.mp member with early | late
    · cases onset.brings early with
      | idle quiet => cases quiet
      | requeued failed inFlight => exact ⟨_, failed, inFlight⟩
    · have never : ∀ effect ∈ later, effect ≠ .requeued write := by
        refine ticks.forall_effects (· ≠ .requeued write) fun tick effect member => ?_
        cases tick.brings member with
        | idle quiet =>
            rintro rfl
            cases quiet
        | _ => exact nofun
      exact absurd rfl (never _ late)
  obtain ⟨failure, rfl, inFlight⟩ := onlyFailure
  have after : (engine.step now (.report engine.generation (.writeFailed failure true))).1.link =
      none ∧ (engine.step now (.report engine.generation (.writeFailed failure true))).1.queue.head? =
        some write := by
    let heads (_ : List Effect) (engine : Engine) : Prop :=
      engine.link = none ∧ engine.queue.head? = some write
    refine course.holds (motive := heads) [] (fun onset => ?_) fun _ tick held => ?_
    · cases onset with
      | plain told => cases told
      | enter talk pingAt asked => exact asked.elim
      | collapse asked => exact asked.elim
      | writeFailed =>
          refine ⟨rfl, ?_⟩
          change (engine.inFlight.toList ++ engine.queue).head? = some write
          rw [inFlight]
          rfl
      | stale _ _ old => exact absurd rfl old
    · obtain ⟨unlinked, first⟩ := held
      cases tick with
      | hand free linked _ => exact nomatch unlinked.symm.trans linked
      | release => exact ⟨rfl, first⟩
      | push octets counted =>
          refine ⟨unlinked, ?_⟩
          rw [Engine.push, List.head?_append, first]
          rfl
      | _ => exact ⟨unlinked, first⟩
  exact ⟨failure, rfl, inFlight, after⟩

/-- The same of a turn. -/
theorem Turn.requeued {turn : Turn} {write : QueuedWrite} (sound : turn.before.IsSound)
    (member : .requeued write ∈ turn.effects) :
    ∃ failure, turn.move = .report turn.before.engine.generation (.writeFailed failure true) ∧
      turn.before.engine.inFlight = some write ∧ turn.after.engine.link = none ∧
      turn.after.engine.queue.head? = some write := by
  obtain ⟨time, move, connection⟩ := turn
  have reacted {stimulus : Stimulus} (member : .requeued write ∈ (connection.react time stimulus).2) :
      ∃ failure, stimulus = .report connection.engine.generation (.writeFailed failure true) ∧
        connection.engine.inFlight = some write ∧
        (connection.react time stimulus).1.engine.link = none ∧
        (connection.react time stimulus).1.engine.queue.head? = some write := by
    unfold Connection.react at member ⊢
    split at member
    · next running =>
        rcases Connection.mem_takeOver member with reacted | idle
        · obtain ⟨failure, failed, inFlight, unlinked, first⟩ :=
            Engine.requeued_of_step (sound.awake running) reacted
          obtain ⟨board, _, after, -⟩ := connection.takeOver_cases connection.mailbox
            (connection.engine.step time stimulus)
          rw [if_pos running, after]
          exact ⟨failure, failed, inFlight, unlinked, first⟩
        · cases idle
    · cases member
  cases move with
  | serve =>
      change .requeued write ∈ (connection.serve time).2 at member
      unfold Connection.serve at member
      split at member
      · cases member
      · next command rest waiting =>
          by_cases running : connection.engine.life = .running
          · rcases Connection.mem_takeOver member with reacted | idle
            · obtain ⟨failure, other, -⟩ := Engine.requeued_of_step (sound.awake running) reacted
              cases other
            · cases idle
          · rw [sound.idle running] at waiting
            cases waiting
  | report generation report =>
      obtain ⟨failure, ⟨⟩, rest⟩ := reacted member
      exact ⟨failure, rfl, rest⟩
  | alarm =>
      obtain ⟨failure, other, -⟩ := reacted member
      cases other
  | ping sync =>
      obtain ⟨failure, other, -⟩ := reacted member
      cases other
  | _ => cases member

namespace Convoy

variable {history : List Effect} {engine : Engine}

theorem isSuffix (convoy : Convoy history engine) :
    engine.inFlight.toList ++ engine.queue <:+ enqueuedIn history := by
  by_cases running : engine.life = .running
  · exact (convoy.line running).isSuffix
  · obtain ⟨inFlight, queue⟩ := convoy.ended running
    rw [inFlight, queue]
    exact List.nil_suffix

/-- No buffer joins twice. -/
theorem nodup_enqueuedIn (convoy : Convoy history engine) : (enqueuedIn history).Nodup := by
  have numbers : ((enqueuedIn history).map QueuedWrite.job).Nodup := by
    rw [convoy.numbered]
    exact List.nodup_range
  exact List.Nodup.of_map _ numbers

/-- The next buffer has not joined yet. -/
theorem not_mem_enqueuedIn (convoy : Convoy history engine) {write : QueuedWrite}
    (new : engine.nextJob ≤ write.job) : write ∉ enqueuedIn history := by
  intro member
  have job : write.job ∈ (enqueuedIn history).map QueuedWrite.job := List.mem_map_of_mem member
  rw [convoy.numbered] at job
  exact Nat.not_le_of_lt (List.mem_range.mp job) new

theorem handedIn_eq (history : List Effect) :
    handedIn history = (passagesIn history).filterMap fun passage =>
      match passage with
      | .handed _ write => some write
      | .requeued _ => none := by
  rw [handedIn, passagesIn, List.filterMap_filterMap]
  congr 1
  funext effect
  cases effect <;> rfl

/-- Buffers are handed over in the order of their numbers. -/
theorem pairwise_handed (convoy : Convoy history engine) :
    (handedIn history).Pairwise fun first next => first.job ≤ next.job := by
  have chained : (passagesIn history).IsChain fun first next => first.write.job ≤ next.write.job := by
    refine convoy.chained.imp fun first next follows => ?_
    cases first with
    | handed socket prior =>
        cases next with
        | handed other write => exact Nat.le_of_lt (Nat.lt_of_succ_le (Nat.le_of_eq follows.symm))
        | requeued write => exact Nat.le_of_eq (congrArg QueuedWrite.job follows.symm)
    | requeued prior =>
        cases next with
        | handed other write => exact Nat.le_of_eq (congrArg QueuedWrite.job follows.symm)
        | requeued write => exact follows.elim
  have pairwise := List.isChain_iff_pairwise.mp ((List.isChain_map _).mpr chained)
  rw [handedIn_eq]
  refine (List.pairwise_map.mp pairwise).filterMap _ fun first next ordered write here later there => ?_
  cases first with
  | handed _ _ =>
      cases next with
      | handed _ _ =>
          cases here
          cases there
          exact ordered
      | requeued _ => cases there
  | requeued _ => cases here

end Convoy

/-- In every run, what is with the writer and what is queued are the last buffers that joined,
in order, and the buffers are numbered as they joined.  They are handed over in this order,
each to the socket that was attached last; none is skipped, and while the engine runs none is
lost that was not handed over.  A buffer is handed over again only after it came back, and it
comes back only when its write failed part-way: then it heads the queue, no socket is left, and
it is the next to be handed over. -/
theorem Connection.buffers_pass_in_order (endpoint : Endpoint) (settings : Settings)
    (moves : List (Time × Move)) :
    let start := Connection.start endpoint settings
    let turns := start.turns moves
    let past := history turns
    let engine := (start.run moves).engine
    engine.inFlight.toList ++ engine.queue <:+ enqueuedIn past ∧
      (enqueuedIn past).map QueuedWrite.job = List.range engine.nextJob ∧
      (handedIn past).Pairwise (fun first next => first.job ≤ next.job) ∧
      (passagesIn past).IsChain Passage.Follows ∧
      (∀ passage ∈ (passagesIn past).head?, passage.write.job = 0 ∧
        ∃ socket write, passage = .handed socket write) ∧
      (∀ passage ∈ passagesIn past, passage.write ∈ enqueuedIn past) ∧
      (engine.life = .running →
        ∀ write ∈ enqueuedIn past, write ∈ handedIn past ∨ write ∈ engine.queue) ∧
      (∀ before socket write, before ++ [.handed socket write] <+: past → IsServed before socket) ∧
      (∀ turn ∈ turns, ∀ write, .requeued write ∈ turn.effects →
        ∃ failure, turn.move = .report turn.before.engine.generation (.writeFailed failure true) ∧
          turn.before.engine.inFlight = some write ∧ turn.after.engine.link = none ∧
          turn.after.engine.queue.head? = some write) := by
  intro start turns past engine
  have convoy : Convoy past engine := Convoy.run endpoint settings moves
  have service : Service past engine := Service.run endpoint settings moves
  refine ⟨convoy.isSuffix, convoy.numbered, convoy.pairwise_handed, convoy.chained, convoy.first,
    convoy.known, convoy.kept, service.handed, fun turn member write returned => ?_⟩
  exact Turn.requeued (Connection.isSound_of_mem_turns member) returned

end RequestMux.Client
