import RequestMux.Proofs.Network.Freight

/-!
# Where buffers are

A buffer is claimed by a socket that accepted it as a whole or still may.  No buffer is
claimed by two sockets, and what is queued is claimed by none: a buffer comes back only when
its socket can no longer accept it as a whole.
-/

namespace RequestMux.Network

open Client (Convoy Effect Engine Onset QueuedWrite Report Stimulus Stretch Tick Time attachedIn
  enqueuedIn handedTo handedTo_append handedTo_handed handedTo_other)
open Link (Writer)

/-- Whether a report tells what became of a buffer. -/
def settles : Report → Bool
  | .written => true
  | .writeFailed _ _ => true
  | _ => false

def isSettlement (generation : Nat) (entry : Nat × Report) : Bool :=
  entry.1 == generation && settles entry.2

theorem isSettlement_iff {generation : Nat} {entry : Nat × Report} :
    isSettlement generation entry = true ↔ entry.1 = generation ∧ settles entry.2 = true := by
  simp [isSettlement]

namespace Scene

def writers (scene : Scene) : List Writer := scene.sockets.map Socket.writer

theorem writers_of_socket {scene : Scene} {number : Nat} {socket : Socket}
    (there : scene.sockets[number]? = some socket) :
    scene.writers[number]? = some socket.writer := by
  unfold writers
  rw [List.getElem?_map, there]
  rfl

/-- Whether a socket accepted a buffer as a whole, or still may. -/
def Claims (scene : Scene) (number : Nat) (write : QueuedWrite) : Prop :=
  write ∈ handedTo number (effectsIn scene.record) ∧ write.octets ≠ [] ∧
    ∀ writer ∈ scene.writers[number]?, writer.halted = true →
      write ∈ completedOn number scene.record

/-- What every socket was handed and accepted. -/
structure IsStocked (scene : Scene) : Prop where
  fed : ∀ (number : Nat) (writer : Writer), scene.writers[number]? = some writer →
    IsFed (handedTo number (effectsIn scene.record)) (sentOn number scene.record) writer
  unused : ∀ number, scene.writers.length ≤ number →
    handedTo number (effectsIn scene.record) = [] ∧ sentOn number scene.record = []
  single : ∀ write first second, scene.Claims first write → scene.Claims second write →
    first = second

/-- The reports of the current generation that tell what became of a buffer. -/
def settlements (scene : Scene) : List (Nat × Report) :=
  scene.inbox.filter (isSettlement scene.engine.generation)

/-- How many buffers the writer of the socket that is served has. -/
def burden (scene : Scene) : Nat :=
  ((scene.engine.link.bind fun number => scene.writers[number]?).map Writer.load).getD 0

/-- How a running engine keeps up with its socket. -/
structure IsInStep (scene : Scene) : Prop where
  load : scene.engine.inFlight.toList.length = scene.settlements.length + scene.burden
  latest : ∀ write ∈ scene.engine.inFlight, ∃ number, scene.engine.link = some number ∧
    (handedTo number (effectsIn scene.record)).getLast? = some write
  failed : ∀ entry ∈ scene.settlements, ∀ failure, entry.2 = .writeFailed failure true →
    ∀ number writer, scene.engine.link = some number → scene.writers[number]? = some writer →
      writer.halted = true ∧ (sentOn number scene.record).length <
        (octetsOf (handedTo number (effectsIn scene.record))).length
  spent : ∀ write ∈ scene.engine.queue, ∀ number, ¬scene.Claims number write
  kept : ∀ write ∈ scene.engine.inFlight, ∀ number, scene.Claims number write →
    scene.engine.link = some number

/-- Two scenes whose writers have the same to write, and were handed and accepted the same. -/
structure SameStock (before after : Scene) : Prop where
  length : after.writers.length = before.writers.length
  like : ∀ (number : Nat) (old new : Writer), before.writers[number]? = some old →
    after.writers[number]? = some new → Writer.IsLike old new
  handed : ∀ number, handedTo number (effectsIn after.record) =
    handedTo number (effectsIn before.record)
  sent : ∀ number, sentOn number after.record = sentOn number before.record

namespace SameStock

variable {scene middle after : Scene}

theorem of_writers (writers : after.writers = scene.writers)
    (handed : ∀ number, handedTo number (effectsIn after.record) =
      handedTo number (effectsIn scene.record))
    (sent : ∀ number, sentOn number after.record = sentOn number scene.record) :
    SameStock scene after := by
  refine ⟨congrArg List.length writers, fun number old new here there => ?_, handed, sent⟩
  rw [writers, here] at there
  cases there
  exact .refl old

theorem refl (scene : Scene) : SameStock scene scene :=
  of_writers rfl (fun _ => rfl) fun _ => rfl

/-- Where there is a writer, there was one with the same to write. -/
theorem before (stock : SameStock scene after) {number : Nat} {new : Writer}
    (there : after.writers[number]? = some new) :
    ∃ old, scene.writers[number]? = some old ∧ Writer.IsLike old new := by
  have bound : number < scene.writers.length := by
    rw [← stock.length]
    exact (List.getElem?_eq_some_iff.mp there).1
  have here : scene.writers[number]? = some scene.writers[number] := List.getElem?_eq_getElem bound
  exact ⟨_, here, stock.like number _ new here there⟩

theorem later (stock : SameStock scene after) {number : Nat} {old : Writer}
    (here : scene.writers[number]? = some old) :
    ∃ new, after.writers[number]? = some new ∧ Writer.IsLike old new := by
  have bound : number < after.writers.length := by
    rw [stock.length]
    exact (List.getElem?_eq_some_iff.mp here).1
  have there : after.writers[number]? = some after.writers[number] := List.getElem?_eq_getElem bound
  exact ⟨_, there, stock.like number old _ here there⟩

theorem trans (first : SameStock scene middle) (second : SameStock middle after) :
    SameStock scene after where
  length := second.length.trans first.length
  like number old new here there := by
    obtain ⟨between, found, like⟩ := first.later here
    exact like.trans (second.like number between new found there)
  handed number := (second.handed number).trans (first.handed number)
  sent number := (second.sent number).trans (first.sent number)

theorem claims (stock : SameStock scene after) {number : Nat} {write : QueuedWrite}
    (claims : after.Claims number write) : scene.Claims number write := by
  obtain ⟨handed, something, completed⟩ := claims
  unfold completedOn at completed
  rw [stock.handed] at handed
  rw [stock.handed, stock.sent] at completed
  refine ⟨handed, something, fun writer here halted => ?_⟩
  obtain ⟨new, there, like⟩ := stock.later here
  exact completed new there (like.halted.trans halted)

theorem burden (stock : SameStock scene after) (link : after.engine.link = scene.engine.link) :
    after.burden = scene.burden := by
  unfold Scene.burden
  rw [link]
  cases scene.engine.link with
  | none => rfl
  | some number =>
      rw [Option.bind_some, Option.bind_some]
      cases here : scene.writers[number]? with
      | some writer =>
          obtain ⟨new, there, like⟩ := stock.later here
          rw [there]
          exact like.load
      | none =>
          cases there : after.writers[number]? with
          | none => rfl
          | some new =>
              obtain ⟨old, found, -⟩ := stock.before there
              exact nomatch here.symm.trans found

theorem note {sights : List Sight} (silent : effectsIn sights = [])
    (unsent : ∀ number, sentOn number sights = []) : SameStock scene (scene.note sights) := by
  refine of_writers rfl (fun number => ?_) fun number => ?_
  · change handedTo number (effectsIn (scene.record ++ sights)) = _
    rw [effectsIn_append, silent, List.append_nil]
  · change sentOn number (scene.record ++ sights) = _
    rw [sentOn_append, unsent, List.append_nil]

theorem onSocket (number : Nat) {change : Socket → Socket}
    (like : ∀ socket ∈ scene.sockets[number]?, Writer.IsLike socket.writer (change socket).writer) :
    SameStock scene (scene.onSocket number change) := by
  refine ⟨?_, fun place old new here there => ?_, fun _ => rfl, fun _ => rfl⟩
  · change ((scene.sockets.modify number change).map Socket.writer).length = scene.writers.length
    unfold writers
    rw [List.length_map, List.length_map, List.length_modify]
  · unfold writers at here
    rw [List.getElem?_map] at here
    obtain ⟨socket, found, rfl⟩ := Option.map_eq_some_iff.mp here
    change ((scene.sockets.modify number change).map Socket.writer)[place]? = some new at there
    rw [List.getElem?_map, List.getElem?_modify, found] at there
    change some (Socket.writer (if number = place then change socket else socket)) = some new at there
    split at there
    · next same =>
        cases there
        exact like socket (same ▸ found)
    · cases there
      exact .refl _

theorem mail (generation : Nat) (reports : List Report) :
    SameStock scene (scene.mail generation reports) := by
  refine of_writers ?_ (fun number => ?_) fun number => ?_
  · exact congrArg (List.map Socket.writer) (mail_sockets scene generation reports)
  · rw [mail_record]
  · rw [mail_record]

/-- Only what is handed over changes what writers have. -/
theorem performAll {now : Time} {effects : List Effect}
    (quiet : ∀ effect ∈ effects, effect.handed? = none) :
    SameStock scene (scene.performAll now effects) := by
  induction effects generalizing scene with
  | nil => exact .refl scene
  | cons effect rest ih =>
      have first := quiet effect List.mem_cons_self
      have noted : SameStock scene (scene.note [.engine now effect]) := by
        refine of_writers rfl (fun number => ?_) fun number => ?_
        · have nothing : handedTo number [effect] = [] := by
            cases effect with
            | handed _ _ => cases first
            | _ => rfl
          change handedTo number (effectsIn (scene.record ++ _)) = _
          rw [effectsIn_append, handedTo_append]
          exact (congrArg (_ ++ ·) nothing).trans (List.append_nil _)
        · change sentOn number (scene.record ++ _) = _
          rw [sentOn_append]
          exact List.append_nil _
      have performed : SameStock scene (scene.perform now effect) := by
        cases effect with
        | handed _ _ => cases first
        | closed number =>
            have closed : SameStock (scene.note [.engine now (.closed number)])
                ((scene.note [.engine now (.closed number)]).onSocket number fun socket =>
                  { socket with isOpen := false }) := onSocket number fun _ _ => .refl _
            exact (noted.trans closed).trans (note rfl fun _ => rfl)
        | _ => exact ⟨noted.length, noted.like, noted.handed, noted.sent⟩
      exact performed.trans (ih fun other member => quiet other (List.mem_cons_of_mem effect member))

end SameStock

variable {scene after : Scene}

/-- A new socket claims nothing. -/
theorem claims_of_push {writer : Writer} (writers : after.writers = scene.writers ++ [writer])
    (effects : effectsIn after.record = effectsIn scene.record)
    (sent : ∀ number, sentOn number after.record = sentOn number scene.record) {number : Nat}
    {write : QueuedWrite} (claims : after.Claims number write) : scene.Claims number write := by
  obtain ⟨handed, something, completed⟩ := claims
  unfold completedOn at completed
  rw [effects] at handed completed
  rw [sent] at completed
  refine ⟨handed, something, fun writer there => completed writer ?_⟩
  have bound := (List.getElem?_eq_some_iff.mp there).1
  rw [writers, List.getElem?_append_left bound]
  exact there

namespace IsStocked

theorem same (stocked : scene.IsStocked) (stock : SameStock scene after) : after.IsStocked := by
  constructor
  case fed =>
    intro number writer there
    rw [stock.handed, stock.sent]
    obtain ⟨old, here, like⟩ := stock.before there
    exact (stocked.fed number old here).like like
  case unused =>
    intro number beyond
    rw [stock.handed, stock.sent]
    exact stocked.unused number (stock.length ▸ beyond)
  case single =>
    intro write first second one two
    exact stocked.single write first second (stock.claims one) (stock.claims two)

/-- A socket that was handed nothing has nothing to write. -/
theorem load_eq_zero (stocked : scene.IsStocked) {number : Nat} {writer : Writer}
    (there : scene.writers[number]? = some writer)
    (nothing : handedTo number (effectsIn scene.record) = []) : writer.load = 0 := by
  have bound := (stocked.fed number writer there).load
  rw [nothing] at bound
  exact Nat.le_zero.mp bound

theorem push (stocked : scene.IsStocked) (writers : after.writers = scene.writers ++ [.start])
    (effects : effectsIn after.record = effectsIn scene.record)
    (sent : ∀ number, sentOn number after.record = sentOn number scene.record) :
    after.IsStocked := by
  constructor
  case fed =>
    intro number writer there
    rw [writers, List.getElem?_append] at there
    rw [effects, sent]
    split at there
    · exact stocked.fed number writer there
    · next beyond =>
        obtain ⟨unhanded, unsent⟩ := stocked.unused number (Nat.le_of_not_lt beyond)
        have single := List.mem_of_getElem? there
        rw [List.mem_singleton.mp single, unhanded, unsent]
        exact .start
  case unused =>
    intro number beyond
    rw [effects, sent]
    rw [writers, List.length_append] at beyond
    exact stocked.unused number (Nat.le_of_add_right_le beyond)
  case single =>
    intro write first second one two
    exact stocked.single write first second (claims_of_push writers effects sent one)
      (claims_of_push writers effects sent two)

end IsStocked

namespace IsInStep

variable {scene after : Scene}

/-- Nothing changes that matters to the socket that is served. -/
theorem same (inStep : scene.IsInStep) (stock : SameStock scene after)
    (link : after.engine.link = scene.engine.link)
    (inFlight : after.engine.inFlight = scene.engine.inFlight)
    (spent : ∀ write ∈ after.engine.queue, ∀ number, ¬scene.Claims number write)
    (settled : after.settlements = scene.settlements) : after.IsInStep := by
  constructor
  case load =>
    rw [inFlight, settled, stock.burden link]
    exact inStep.load
  case latest =>
    rw [inFlight, link]
    intro write member
    obtain ⟨number, linked, last⟩ := inStep.latest write member
    exact ⟨number, linked, (stock.handed number).symm ▸ last⟩
  case failed =>
    rw [settled, link]
    intro entry member failure failed number writer linked there
    rw [stock.sent, stock.handed]
    obtain ⟨old, here, like⟩ := stock.before there
    rw [like.halted]
    exact inStep.failed entry member failure failed number old linked here
  case spent =>
    intro write member number claims
    exact spent write member number (stock.claims claims)
  case kept =>
    rw [inFlight, link]
    intro write member number claims
    exact inStep.kept write member number (stock.claims claims)

/-- Without a socket, nothing is in flight. -/
theorem of_unlinked (link : after.engine.link = none) (inFlight : after.engine.inFlight = none)
    (settled : after.settlements = [])
    (spent : ∀ write ∈ after.engine.queue, ∀ number, ¬after.Claims number write) :
    after.IsInStep := by
  constructor
  case load =>
    unfold burden
    rw [inFlight, settled, link]
    rfl
  case latest =>
    rw [inFlight]
    exact nofun
  case failed =>
    rw [settled]
    exact nofun
  case spent => exact spent
  case kept =>
    rw [inFlight]
    exact nofun

/-- With nothing in flight, nothing is to be settled, and the writer has no work. -/
theorem idle (inStep : scene.IsInStep) (free : scene.engine.inFlight = none) :
    scene.settlements = [] ∧ scene.burden = 0 := by
  have load := inStep.load
  rw [free] at load
  obtain ⟨settled, burden⟩ := Nat.add_eq_zero_iff.mp load.symm
  exact ⟨List.length_eq_zero_iff.mp settled, burden⟩

theorem free (inStep : scene.IsInStep) (unlinked : scene.engine.link = none) :
    scene.engine.inFlight = none := by
  cases here : scene.engine.inFlight with
  | none => rfl
  | some write =>
      obtain ⟨number, linked, -⟩ := inStep.latest write here
      exact nomatch unlinked.symm.trans linked

/-- A socket that was handed nothing is served now. -/
theorem attach (inStep : scene.IsInStep) (stocked : scene.IsStocked)
    (stock : SameStock scene after) {number : Nat} (unlinked : scene.engine.link = none)
    (nothing : handedTo number (effectsIn scene.record) = [])
    (link : after.engine.link = some number)
    (inFlight : after.engine.inFlight = scene.engine.inFlight)
    (queue : after.engine.queue = scene.engine.queue)
    (settled : after.settlements = scene.settlements) : after.IsInStep := by
  have free := inStep.free unlinked
  obtain ⟨unsettled, -⟩ := inStep.idle free
  constructor
  case load =>
    have resting : after.burden = 0 := by
      unfold burden
      rw [link, Option.bind_some]
      cases there : after.writers[number]? with
      | none => rfl
      | some writer =>
          obtain ⟨old, here, like⟩ := stock.before there
          exact like.load.trans (stocked.load_eq_zero here nothing)
    rw [inFlight, free, settled, unsettled, resting]
    rfl
  case latest =>
    rw [inFlight, free]
    exact nofun
  case failed =>
    rw [settled, unsettled]
    exact nofun
  case spent =>
    rw [queue]
    intro write member number claims
    exact inStep.spent write member number (stock.claims claims)
  case kept =>
    rw [inFlight, free]
    exact nofun

/-- The writer has told that it is done with the buffer in flight. -/
theorem settle (inStep : scene.IsInStep) (stock : SameStock scene after) {entry : Nat × Report}
    (link : after.engine.link = scene.engine.link) (inFlight : after.engine.inFlight = none)
    (queue : after.engine.queue = scene.engine.queue)
    (settled : scene.settlements = entry :: after.settlements) : after.IsInStep := by
  have bound : scene.engine.inFlight.toList.length ≤ 1 := by
    cases scene.engine.inFlight with
    | none => exact Nat.zero_le 1
    | some write => exact Nat.le_refl 1
  have load := inStep.load
  rw [settled, List.length_cons] at load
  have burden := stock.burden link
  have rest : after.settlements.length + after.burden = 0 := by
    rw [burden]
    omega
  constructor
  case load =>
    rw [inFlight, rest]
    rfl
  case latest =>
    rw [inFlight]
    exact nofun
  case failed =>
    rw [List.length_eq_zero_iff.mp (Nat.add_eq_zero_iff.mp rest).1]
    exact nofun
  case spent =>
    rw [queue]
    intro write member number claims
    exact inStep.spent write member number (stock.claims claims)
  case kept =>
    rw [inFlight]
    exact nofun

end IsInStep

/-! What becomes of the stock when a buffer is handed over. -/

section Handing

variable {scene : Scene} (now : Time) {number : Nat} {write : QueuedWrite}

theorem writers_handed (scene : Scene) (number : Nat) (write : QueuedWrite) (place : Nat) :
    (scene.perform now (.handed number write)).writers[place]? =
      if number = place then (scene.writers[place]?).map fun writer => writer.hand write.octets
      else scene.writers[place]? := by
  change ((scene.sockets.modify number _).map Socket.writer)[place]? = _
  unfold writers
  rw [List.getElem?_map, List.getElem?_map, List.getElem?_modify]
  split
  · cases scene.sockets[place]? <;> rfl
  · cases scene.sockets[place]? <;> rfl

theorem length_writers_handed (scene : Scene) (number : Nat) (write : QueuedWrite) :
    (scene.perform now (.handed number write)).writers.length = scene.writers.length := by
  change ((scene.sockets.modify number _).map Socket.writer).length = _
  unfold writers
  rw [List.length_map, List.length_map, List.length_modify]

theorem handedTo_perform (scene : Scene) (number : Nat) (write : QueuedWrite) (place : Nat) :
    handedTo place (effectsIn (scene.perform now (.handed number write)).record) =
      handedTo place (effectsIn scene.record) ++ handedTo place [.handed number write] := by
  rw [effectsIn_perform, handedTo_append]

theorem sentOn_handed (scene : Scene) (number : Nat) (write : QueuedWrite) (place : Nat) :
    sentOn place (scene.perform now (.handed number write)).record = sentOn place scene.record :=
  sentOn_performAll place now [.handed number write] scene

/-- The socket that a buffer is handed to is the only one to claim more than before. -/
theorem claims_of_handed {place : Nat} {other : QueuedWrite}
    (claims : (scene.perform now (.handed number write)).Claims place other) :
    scene.Claims place other ∨ place = number ∧ other = write := by
  obtain ⟨handed, something, completed⟩ := claims
  unfold completedOn at completed
  rw [handedTo_perform] at handed completed
  rw [sentOn_handed, writers_handed] at completed
  by_cases here : number = place
  · subst here
    rw [handedTo_handed] at handed completed
    rw [if_pos rfl] at completed
    by_cases new : other = write
    · exact .inr ⟨rfl, new⟩
    · refine .inl ⟨?_, something, fun writer there halted => ?_⟩
      · exact (List.mem_append.mp handed).resolve_right fun last => new (List.mem_singleton.mp last)
      · have whole := completed (writer.hand write.octets) (Option.mem_map_of_mem _ there) halted
        exact (mem_covered_concat whole).resolve_left new
  · rw [handedTo_other (Ne.symm here), List.append_nil] at handed completed
    rw [if_neg here] at completed
    exact .inl ⟨handed, something, completed⟩

theorem IsStocked.hand (stocked : scene.IsStocked) {writer : Writer}
    (there : scene.writers[number]? = some writer) (unclaimed : ∀ place, ¬scene.Claims place write) :
    (scene.perform now (.handed number write)).IsStocked := by
  constructor
  case fed =>
    intro place other here
    rw [handedTo_perform, sentOn_handed]
    rw [writers_handed] at here
    split at here
    · next same =>
        subst same
        rw [there] at here
        cases here
        rw [handedTo_handed]
        exact (stocked.fed number writer there).hand write
    · next differs =>
        rw [handedTo_other (Ne.symm differs), List.append_nil]
        exact stocked.fed place other here
  case unused =>
    intro place beyond
    rw [length_writers_handed] at beyond
    have differs : place ≠ number := by
      rintro rfl
      exact Nat.not_le_of_lt (List.getElem?_eq_some_iff.mp there).1 beyond
    rw [handedTo_perform, sentOn_handed, handedTo_other differs, List.append_nil]
    exact stocked.unused place beyond
  case single =>
    intro other first second one two
    rcases claims_of_handed now one with early | ⟨rfl, rfl⟩
    · rcases claims_of_handed now two with old | ⟨rfl, rfl⟩
      · exact stocked.single other first second early old
      · exact absurd early (unclaimed first)
    · rcases claims_of_handed now two with old | ⟨rfl, -⟩
      · exact absurd old (unclaimed second)
      · rfl

theorem IsInStep.hand (inStep : scene.IsInStep) {writer : Writer} {rest : List QueuedWrite}
    (free : scene.engine.inFlight = none) (linked : scene.engine.link = some number)
    (there : scene.writers[number]? = some writer) (first : scene.engine.queue = write :: rest)
    (distinct : write ∉ rest) {engine : Engine} (link : engine.link = scene.engine.link)
    (inFlight : engine.inFlight = some write) (queue : engine.queue = rest)
    (generation : engine.generation = scene.engine.generation) :
    ((scene.perform now (.handed number write)).withEngine engine).IsInStep := by
  obtain ⟨settled, resting⟩ := inStep.idle free
  have unsettled : ((scene.perform now (.handed number write)).withEngine engine).settlements = [] := by
    change scene.inbox.filter (isSettlement engine.generation) = []
    rw [generation]
    exact settled
  constructor
  case load =>
    have before : writer.load = 0 := by
      unfold burden at resting
      rw [linked, Option.bind_some, there] at resting
      exact resting
    have loaded : ((scene.perform now (.handed number write)).withEngine engine).burden = 1 := by
      change ((engine.link.bind fun place =>
        (scene.perform now (.handed number write)).writers[place]?).map Writer.load).getD 0 = 1
      rw [link, linked, Option.bind_some, writers_handed, if_pos rfl, there]
      change (writer.hand write.octets).load = 1
      rw [Writer.load_hand, before]
    rw [unsettled, loaded]
    change engine.inFlight.toList.length = 1
    rw [inFlight]
    rfl
  case latest =>
    intro other member
    cases inFlight.symm.trans member
    refine ⟨number, link.trans linked, ?_⟩
    change (handedTo number (effectsIn (scene.perform now (.handed number write)).record)).getLast? = _
    rw [handedTo_perform, handedTo_handed, List.getLast?_concat]
  case failed =>
    rw [unsettled]
    exact nofun
  case spent =>
    intro other member place claims
    have queued : other ∈ rest := queue ▸ member
    rcases claims_of_handed now claims with old | ⟨-, rfl⟩
    · refine inStep.spent other ?_ place old
      rw [first]
      exact List.mem_cons_of_mem write queued
    · exact distinct queued
  case kept =>
    intro other member place claims
    cases inFlight.symm.trans member
    rcases claims_of_handed now claims with old | ⟨rfl, -⟩
    · exact absurd old (inStep.spent write (first ▸ List.mem_cons_self) place)
    · exact link.trans linked

end Handing

end Scene

end RequestMux.Network
