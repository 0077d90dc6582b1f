import RequestMux.Proofs.Client.Passage

/-!
# What one socket is handed

While a socket is served, what it was handed and what is queued are the last buffers that
joined.  So what any socket is handed is an unbroken stretch of the line, provided that no
socket is attached twice.
-/

namespace RequestMux.Client

def Effect.attached? : Effect → Option Nat
  | .attached socket => some socket
  | _ => none

/-- The sockets that were served, in order. -/
def attachedIn (history : List Effect) : List Nat := history.filterMap Effect.attached?

@[simp]
theorem attachedIn_append (history more : List Effect) :
    attachedIn (history ++ more) = attachedIn history ++ attachedIn more :=
  List.filterMap_append

def Effect.handedTo? (socket : Nat) : Effect → Option QueuedWrite
  | .handed other write => if other = socket then some write else none
  | _ => none

/-- The buffers that were handed to a socket, in order. -/
def handedTo (socket : Nat) (history : List Effect) : List QueuedWrite :=
  history.filterMap (Effect.handedTo? socket)

@[simp]
theorem handedTo_append (socket : Nat) (history more : List Effect) :
    handedTo socket (history ++ more) = handedTo socket history ++ handedTo socket more :=
  List.filterMap_append

theorem handedTo_handed (socket : Nat) (write : QueuedWrite) :
    handedTo socket [.handed socket write] = [write] := by
  simp [handedTo, Effect.handedTo?]

theorem handedTo_other {socket other : Nat} (differs : socket ≠ other) (write : QueuedWrite) :
    handedTo socket [.handed other write] = [] := by
  simp [handedTo, Effect.handedTo?, Ne.symm differs]

/-- Whether effects neither queue nor hand over a buffer, nor attach a socket. -/
def AreInert (effects : List Effect) : Prop :=
  ∀ effect ∈ effects, effect.enqueued? = none ∧ effect.handed? = none ∧ effect.attached? = none

namespace AreInert

variable {effects : List Effect}

theorem enqueuedIn (inert : AreInert effects) : Client.enqueuedIn effects = [] :=
  List.filterMap_eq_nil_iff.mpr fun effect member => (inert effect member).1

theorem attachedIn (inert : AreInert effects) : Client.attachedIn effects = [] :=
  List.filterMap_eq_nil_iff.mpr fun effect member => (inert effect member).2.2

theorem handedTo (inert : AreInert effects) (socket : Nat) : Client.handedTo socket effects = [] := by
  refine List.filterMap_eq_nil_iff.mpr fun effect member => ?_
  obtain ⟨-, unhanded, -⟩ := inert effect member
  cases effect with
  | handed _ _ => cases unhanded
  | _ => rfl

theorem of_isIdle {effect : Effect} (idle : effect.isIdle = true) :
    effect.enqueued? = none ∧ effect.handed? = none ∧ effect.attached? = none := by
  cases effect with
  | enqueued _ => cases idle
  | handed _ _ => cases idle
  | attached _ => cases idle
  | _ => exact ⟨rfl, rfl, rfl⟩

/-- No onset is anything else, but that a socket comes. -/
theorem of_onset {now : Time} {stimulus : Stimulus} {engine after : Engine}
    (onset : Onset now engine stimulus effects after)
    (firm : ∀ socket, stimulus ≠ .report engine.generation (.connected socket)) :
    AreInert effects := by
  intro effect member
  cases onset.brings member with
  | idle quiet => exact of_isIdle quiet
  | attached connected => exact absurd connected (firm _)
  | _ => exact ⟨rfl, rfl, rfl⟩

end AreInert

/-- The stretch of the line that each socket was handed. -/
structure Stretch (history : List Effect) (engine : Engine) : Prop where
  introduced : ∀ socket, handedTo socket history ≠ [] → socket ∈ attachedIn history
  linked : ∀ socket ∈ engine.link, socket ∈ attachedIn history
  whole : ∀ socket, handedTo socket history <:+: enqueuedIn history
  current : ∀ socket ∈ engine.link,
    handedTo socket history ++ engine.queue <:+ enqueuedIn history

namespace Stretch

variable {history effects : List Effect} {engine after : Engine} {now : Time}

/-- What neither queues nor hands over a buffer leaves every stretch as it is. -/
theorem still (stretch : Stretch history engine) (inert : AreInert effects)
    (link : after.link = engine.link ∧ after.queue = engine.queue ∨ after.link = none) :
    Stretch (history ++ effects) after := by
  have joined : enqueuedIn (history ++ effects) = enqueuedIn history := by
    rw [enqueuedIn_append, inert.enqueuedIn, List.append_nil]
  have attached : attachedIn (history ++ effects) = attachedIn history := by
    rw [attachedIn_append, inert.attachedIn, List.append_nil]
  have handed (socket : Nat) : handedTo socket (history ++ effects) = handedTo socket history := by
    rw [handedTo_append, inert.handedTo, List.append_nil]
  constructor
  case introduced =>
    intro socket
    rw [handed, attached]
    exact stretch.introduced socket
  case linked =>
    intro socket member
    rw [attached]
    rcases link with ⟨same, -⟩ | gone
    · exact stretch.linked socket (same ▸ member)
    · rw [gone] at member
      cases member
  case whole =>
    intro socket
    rw [handed, joined]
    exact stretch.whole socket
  case current =>
    intro socket member
    rw [handed, joined]
    rcases link with ⟨same, queue⟩ | gone
    · rw [queue]
      exact stretch.current socket (same ▸ member)
    · rw [gone] at member
      cases member

/-- A new socket has been handed nothing yet. -/
theorem attach (stretch : Stretch history engine) (queued : engine.queue <:+ enqueuedIn history)
    {socket : Nat} (new : socket ∉ attachedIn history) (note : Note) (link : after.link = some socket)
    (queue : after.queue = engine.queue) :
    Stretch (history ++ [.attached socket, .noted note]) after := by
  have joined : enqueuedIn (history ++ [.attached socket, .noted note]) = enqueuedIn history := by
    rw [enqueuedIn_append]
    exact List.append_nil _
  have handed (other : Nat) :
      handedTo other (history ++ [.attached socket, .noted note]) = handedTo other history := by
    rw [handedTo_append]
    exact List.append_nil _
  have nothing : handedTo socket history = [] := by
    by_contra something
    exact new (stretch.introduced socket something)
  constructor
  case introduced =>
    intro other something
    rw [handed] at something
    rw [attachedIn_append]
    exact List.mem_append_left _ (stretch.introduced other something)
  case linked =>
    intro other member
    cases link.symm.trans member
    rw [attachedIn_append]
    exact List.mem_append_right _ List.mem_cons_self
  case whole =>
    intro other
    rw [handed, joined]
    exact stretch.whole other
  case current =>
    intro other member
    cases link.symm.trans member
    rw [handed, joined, nothing, queue]
    exact queued

theorem push (stretch : Stretch history engine) (octets : Bytes) (counted : Bool) :
    Stretch (history ++ (engine.push octets counted).2) (engine.push octets counted).1 := by
  let write : QueuedWrite := ⟨engine.nextJob, octets, counted⟩
  have joined : enqueuedIn (history ++ [.enqueued write]) = enqueuedIn history ++ [write] :=
    enqueuedIn_append history _
  have attached : attachedIn (history ++ [.enqueued write]) = attachedIn history := by
    rw [attachedIn_append]
    exact List.append_nil _
  have handed (socket : Nat) :
      handedTo socket (history ++ [.enqueued write]) = handedTo socket history := by
    rw [handedTo_append]
    exact List.append_nil _
  constructor
  case introduced =>
    intro socket
    change handedTo socket (history ++ [.enqueued write]) ≠ [] →
      socket ∈ attachedIn (history ++ [.enqueued write])
    rw [handed, attached]
    exact stretch.introduced socket
  case linked =>
    intro socket member
    change socket ∈ attachedIn (history ++ [.enqueued write])
    rw [attached]
    exact stretch.linked socket member
  case whole =>
    intro socket
    change handedTo socket (history ++ [.enqueued write]) <:+:
      enqueuedIn (history ++ [.enqueued write])
    rw [handed, joined]
    exact (stretch.whole socket).trans (List.prefix_append _ _).isInfix
  case current =>
    intro socket member
    change handedTo socket (history ++ [.enqueued write]) ++ (engine.queue ++ [write]) <:+
      enqueuedIn (history ++ [.enqueued write])
    rw [handed, joined]
    obtain ⟨gone, cut⟩ := stretch.current socket member
    refine ⟨gone, ?_⟩
    rw [← cut, List.append_assoc, List.append_assoc]

theorem hand (stretch : Stretch history engine) {socket : Nat} {write : QueuedWrite}
    {rest : List QueuedWrite} (linked : engine.link = some socket)
    (first : engine.queue = write :: rest) (link : after.link = engine.link)
    (queue : after.queue = rest) : Stretch (history ++ [.handed socket write]) after := by
  have joined : enqueuedIn (history ++ [.handed socket write]) = enqueuedIn history := by
    rw [enqueuedIn_append]
    exact List.append_nil _
  have attached : attachedIn (history ++ [.handed socket write]) = attachedIn history := by
    rw [attachedIn_append]
    exact List.append_nil _
  have served := stretch.linked socket linked
  have longer : handedTo socket (history ++ [.handed socket write]) ++ rest <:+ enqueuedIn history := by
    have current := stretch.current socket linked
    rw [first] at current
    rw [handedTo_append, handedTo_handed, List.append_assoc]
    exact current
  constructor
  case introduced =>
    intro other something
    rw [attached]
    by_cases same : other = socket
    · exact same ▸ served
    · rw [handedTo_append, handedTo_other same, List.append_nil] at something
      exact stretch.introduced other something
  case linked =>
    intro other member
    rw [attached]
    exact stretch.linked other (link ▸ member)
  case whole =>
    intro other
    rw [joined]
    by_cases same : other = socket
    · rw [same]
      exact (List.prefix_append _ _).isInfix.trans longer.isInfix
    · rw [handedTo_append, handedTo_other same, List.append_nil]
      exact stretch.whole other
  case current =>
    intro other member
    cases linked.symm.trans (link ▸ member)
    rw [joined, queue]
    exact longer

theorem tick (tick : Tick now engine effects after) (stretch : Stretch history engine) :
    Stretch (history ++ effects) after := by
  cases tick with
  | remark effect said =>
      refine stretch.still (fun other member => ?_) (.inl ⟨rfl, rfl⟩)
      rw [List.mem_singleton.mp member]
      exact AreInert.of_isIdle (Effect.isIdle_of_isRemark said)
  | reschedule => exact stretch.still nofun (.inl ⟨rfl, rfl⟩)
  | publish => exact stretch.still nofun (.inl ⟨rfl, rfl⟩)
  | dial =>
      exact stretch.still (Engine.forall_beginConnect _ engine (fun _ => ⟨rfl, rfl, rfl⟩)
        fun _ => ⟨rfl, rfl, rfl⟩) (.inl ⟨rfl, rfl⟩)
  | push octets counted => exact stretch.push octets counted
  | hand free linked first => exact stretch.hand linked first rfl rfl
  | release =>
      exact stretch.still (Engine.forall_release _ engine (fun _ => ⟨rfl, rfl, rfl⟩)
        ⟨rfl, rfl, rfl⟩) (.inr rfl)
  | dismiss =>
      exact stretch.still (Engine.forall_dismissAll _ engine (fun _ => ⟨rfl, rfl, rfl⟩)
        fun _ => ⟨rfl, rfl, rfl⟩) (.inl ⟨rfl, rfl⟩)

theorem onset {stimulus : Stimulus} (onset : Onset now engine stimulus effects after)
    (queued : engine.queue <:+ enqueuedIn history)
    (once : (attachedIn (history ++ effects)).Nodup) (stretch : Stretch history engine) :
    Stretch (history ++ effects) after := by
  have inert := AreInert.of_onset onset
  cases onset with
  | attach socket =>
      refine stretch.attach queued ?_ _ rfl rfl
      rw [attachedIn_append] at once
      exact fun before => (List.nodup_append.mp once).2.2 socket before socket List.mem_cons_self rfl
  | writeFailed failure part => exact stretch.still (inert nofun) (.inr rfl)
  | shutDown => exact stretch.still (inert nofun) (.inr rfl)
  | collapse asked impossible =>
      refine stretch.still (inert ?_) (.inr rfl)
      rintro socket rfl
      exact asked
  | plain told =>
      refine stretch.still (inert ?_) (.inl ⟨rfl, rfl⟩)
      rintro socket rfl
      cases told
  | enter talk pingAt asked said possible =>
      refine stretch.still (inert ?_) (.inl ⟨rfl, rfl⟩)
      rintro socket rfl
      exact asked
  | stale generation report old =>
      refine stretch.still (inert ?_) (.inl ⟨rfl, rfl⟩)
      rintro socket ⟨⟩
      exact old rfl
  | disablePing => exact stretch.still (inert nofun) (.inl ⟨rfl, rfl⟩)
  | redial failure => exact stretch.still (inert nofun) (.inl ⟨rfl, rfl⟩)
  | answer found => exact stretch.still (inert nofun) (.inl ⟨rfl, rfl⟩)
  | unknown packet effect said => exact stretch.still (inert nofun) (.inl ⟨rfl, rfl⟩)
  | readFailed fault => exact stretch.still (inert nofun) (.inl ⟨rfl, rfl⟩)
  | written => exact stretch.still (inert nofun) (.inl ⟨rfl, rfl⟩)
  | ring ringing taken early => exact stretch.still (inert nofun) (.inl ⟨rfl, rfl⟩)
  | expire ringing fired => exact stretch.still (inert nofun) (.inl ⟨rfl, rfl⟩)

end Stretch

/-- The line of buffers, and the stretches of it that sockets were handed if none was attached
twice. -/
def March (history : List Effect) (engine : Engine) : Prop :=
  Convoy history engine ∧ ((attachedIn history).Nodup → Stretch history engine)

theorem March.isKept : IsKept March := by
  have earlier {history more : List Effect} (once : (attachedIn (history ++ more)).Nodup) :
      (attachedIn history).Nodup := by
    rw [attachedIn_append] at once
    exact (List.nodup_append.mp once).1
  constructor
  case shown =>
    rintro past engine board ⟨convoy, stretch⟩
    refine ⟨Convoy.isKept.shown board convoy, fun once => ?_⟩
    have held := stretch once
    exact ⟨held.introduced, held.linked, held.whole, held.current⟩
  case onset =>
    rintro now stimulus past engine effects after awake onset ⟨convoy, stretch⟩
    refine ⟨Convoy.isKept.onset awake onset convoy, fun once => ?_⟩
    have queued : engine.queue <:+ enqueuedIn past :=
      (List.suffix_append _ _).trans convoy.isSuffix
    exact Stretch.onset onset queued once (stretch (earlier once))
  case tick =>
    rintro now past engine effects after awake tick ⟨convoy, stretch⟩
    refine ⟨Convoy.isKept.tick awake tick convoy, fun once => ?_⟩
    exact Stretch.tick tick (stretch (earlier once))
  case ends =>
    rintro past engine more farewell ⟨convoy, stretch⟩
    refine ⟨Convoy.isKept.ends farewell convoy, fun once => ?_⟩
    refine (stretch (earlier once)).still (fun effect member => ?_) (.inl ⟨rfl, rfl⟩)
    exact AreInert.of_isIdle (Life.isIdle_of_isFarewell (farewell effect member))

theorem March.start (endpoint : Endpoint) (settings : Settings) :
    March [] (Connection.start endpoint settings).engine := by
  refine ⟨Convoy.run endpoint settings [], fun _ => ?_⟩
  exact ⟨fun socket something => absurd rfl something, nofun, fun socket => List.infix_rfl, nofun⟩

end RequestMux.Client
