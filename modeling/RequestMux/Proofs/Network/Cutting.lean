import RequestMux.Proofs.Network.Schedule
import RequestMux.Proofs.Network.Veil

/-!
# The cutting of what a peer sends

Two courses of operations that differ only in how the peer's bytes are cut give the same:
the same answers, the same connection, the same record but for the arrivals themselves.
What the peer sends in one go may as well be sent in several, as long as nothing runs in
between.
-/

namespace RequestMux.Network

open Client (Connection)
open Wire (Framed Piece faultIn grains octetsIn)

namespace Operation

/-- Whether the peer sends something. -/
def isSending : Operation → Bool
  | .peerSend _ _ => true
  | _ => false

end Operation

/-- The same operations, but for the cutting of what the peer sends. -/
inductive Recut : List Operation → List Operation → Prop where
  | nil : Recut [] []
  | same (operation : Operation) {before after : List Operation} (later : Recut before after) :
      Recut (operation :: before) (operation :: after)
  /-- Chunks are cut elsewhere. -/
  | cut (socket : Option Nat) {pieces others : List Piece} (grain : grains pieces = grains others)
      {before after : List Operation} (later : Recut before after) :
      Recut (.peerSend socket pieces :: before) (.peerSend socket others :: after)
  /-- What was sent in one go is sent in two. -/
  | split (socket : Option Nat) (first second : List Piece) {before after : List Operation}
      (later : Recut before after) :
      Recut (.peerSend socket (first ++ second) :: before)
        (.peerSend socket first :: .peerSend socket second :: after)
  | symm {before after : List Operation} (back : Recut before after) : Recut after before
  | trans {before between after : List Operation} (first : Recut before between)
      (second : Recut between after) : Recut before after

theorem Socket.arrive_arrive (socket : Socket) (first second : List Piece) :
    (socket.arrive first).arrive second = socket.arrive (first ++ second) := by
  cases ended : socket.ended with
  | true => simp [arrive, ended]
  | false => simp [arrive, ended]

namespace Simulation

variable {simulation other : Simulation}

/-- Acts that answer and do the same under the veil do the same to simulations that look the
same. -/
theorem answer_of_veiled {act : Simulation → Answer × Simulation}
    (acts : ∀ simulation, (act simulation).1 = (act simulation.veiled).1 ∧
      (act simulation).2.veiled = (act simulation.veiled).2)
    (same : simulation.veiled = other.veiled) :
    (act simulation).1 = (act other).1 ∧
      (act simulation).2.veiled = (act other).2.veiled := by
  rw [(acts simulation).1, (acts other).1, (acts simulation).2, (acts other).2, same]
  exact ⟨rfl, rfl⟩

theorem throughHandle_alike {act : Simulation → Answer × Simulation}
    (acts : ∀ simulation, (act simulation).1 = (act simulation.veiled).1 ∧
      (act simulation).2.veiled = (act simulation.veiled).2)
    (same : simulation.veiled = other.veiled) :
    (simulation.throughHandle act).1 = (other.throughHandle act).1 ∧
      (simulation.throughHandle act).2.veiled = (other.throughHandle act).2.veiled := by
  have handled : simulation.handled = other.handled :=
    of_veiled Simulation.handled (fun _ => rfl) same
  unfold throughHandle
  rw [handled]
  split
  · exact answer_of_veiled acts same
  · exact ⟨rfl, same⟩

theorem meant_of_length (length : simulation.sockets.length = other.sockets.length)
    (socket : Option Nat) : simulation.meant socket = other.meant socket := by
  simp only [meant, List.isEmpty_iff_length_eq_zero, length]

/-- The sockets that are meant look the same, if there are any. -/
theorem meant_alike (same : simulation.veiled = other.veiled) (socket : Option Nat) :
    (simulation.meant socket).bind simulation.socket? = none ∧
        (other.meant socket).bind other.socket? = none ∨
      ∃ found twin, (simulation.meant socket).bind simulation.socket? = some found ∧
        (other.meant socket).bind other.socket? = some twin ∧ found.veiled = twin.veiled := by
  have length : simulation.sockets.length = other.sockets.length :=
    of_veiled (fun simulation => simulation.sockets.length) (fun _ => List.length_map _) same
  rw [meant_of_length length]
  cases other.meant socket with
  | none => exact .inl ⟨rfl, rfl⟩
  | some number => exact socket?_alike same number

theorem byPeer_alike (same : simulation.veiled = other.veiled) (socket : Option Nat)
    {sight twinSight : Nat → Sight} {change twinChange : Socket → Socket}
    (sights : ∀ number {simulation other : Simulation}, simulation.veiled = other.veiled →
      (simulation.see (sight number)).veiled = (other.see (twinSight number)).veiled)
    (changes : ∀ socket twin : Socket, socket.veiled = twin.veiled →
      (change socket).veiled = (twinChange twin).veiled) :
    (simulation.byPeer socket sight change).1 = (other.byPeer socket twinSight twinChange).1 ∧
      (simulation.byPeer socket sight change).2.veiled =
        (other.byPeer socket twinSight twinChange).2.veiled := by
  unfold byPeer
  rcases meant_alike same socket with ⟨one, two⟩ | ⟨found, twin, one, two, alike⟩
  · rw [one, two]
    exact ⟨rfl, same⟩
  · have isOpen : found.isOpen = twin.isOpen := Socket.of_veiled Socket.isOpen (fun _ => rfl) alike
    have number : found.number = twin.number := Socket.of_veiled Socket.number (fun _ => rfl) alike
    rw [one, two]
    dsimp only
    rw [isOpen, number]
    split
    · exact ⟨rfl, wake_alike (sights _ (onSocket_alike same _ changes)) _⟩
    · exact ⟨rfl, same⟩

theorem release_alike (same : simulation.veiled = other.veiled) (socket : Option Nat) :
    (simulation.release socket).1 = (other.release socket).1 ∧
      (simulation.release socket).2.veiled = (other.release socket).2.veiled := by
  unfold release
  rcases meant_alike same socket with ⟨one, two⟩ | ⟨found, twin, one, two, alike⟩
  · rw [one, two]
    exact ⟨rfl, same⟩
  · have blocked : found.isBlocked = twin.isBlocked :=
      Socket.of_veiled Socket.isBlocked (fun _ => rfl) alike
    have number : found.number = twin.number := Socket.of_veiled Socket.number (fun _ => rfl) alike
    rw [one, two]
    dsimp only
    rw [blocked, number]
    split
    · refine ⟨rfl, wake_alike (onSocket_alike same _ fun socket twin alike => ?_) _⟩
      exact congrArg (fun veiled : Socket => veiled.release) alike
    · exact ⟨rfl, same⟩

theorem prepare_alike (same : simulation.veiled = other.veiled) (socket : Option Nat)
    (script : Link.Script) :
    (simulation.prepare socket script).1 = (other.prepare socket script).1 ∧
      (simulation.prepare socket script).2.veiled = (other.prepare socket script).2.veiled := by
  unfold prepare
  rcases meant_alike same socket with ⟨one, two⟩ | ⟨found, twin, one, two, alike⟩
  · rw [one, two]
    exact ⟨rfl, same⟩
  · have number : found.number = twin.number := Socket.of_veiled Socket.number (fun _ => rfl) alike
    rw [one, two]
    dsimp only
    rw [number]
    refine ⟨rfl, onSocket_alike same _ fun socket twin alike => ?_⟩
    exact congrArg (fun veiled : Socket => veiled.prepare script) alike

/-- However what the peer sends is cut, the simulations look the same. -/
theorem peerSend_alike (same : simulation.veiled = other.veiled) (socket : Option Nat)
    {pieces others : List Piece} (grain : grains pieces = grains others) :
    (simulation.act (.peerSend socket pieces)).1 = (other.act (.peerSend socket others)).1 ∧
      (simulation.act (.peerSend socket pieces)).2.veiled =
        (other.act (.peerSend socket others)).2.veiled := by
  refine byPeer_alike same socket (fun number _ _ same => ?_)
    (fun socket twin alike => Socket.arrive_alike alike grain)
  rw [veiled_see_arrival, veiled_see_arrival, same]

theorem act_alike (same : simulation.veiled = other.veiled) (operation : Operation) :
    (simulation.act operation).1 = (other.act operation).1 ∧
      (simulation.act operation).2.veiled = (other.act operation).2.veiled := by
  cases operation with
  | write ticket packet => exact throughHandle_alike (fun _ => ⟨rfl, rfl⟩) same
  | send packet => exact throughHandle_alike (fun _ => ⟨rfl, rfl⟩) same
  | request ticket packet =>
      refine throughHandle_alike (fun simulation => ⟨rfl, ?_⟩) same
      change (if _ then _ else _ : Simulation).veiled = if _ then _ else _
      rw [apply_ite veiled, veiled_see _ rfl]
      rfl
  | shutdown => exact throughHandle_alike (fun _ => ⟨rfl, rfl⟩) same
  | gentleShutdown =>
      refine throughHandle_alike (fun simulation => ?_) same
      exact ⟨rfl, rfl⟩
  | reconnect => exact throughHandle_alike (fun _ => ⟨rfl, rfl⟩) same
  | disablePing => exact throughHandle_alike (fun _ => ⟨rfl, rfl⟩) same
  | drop =>
      refine throughHandle_alike (fun simulation => ?_) same
      exact ⟨rfl, rfl⟩
  | describe =>
      exact @throughHandle_alike simulation other
        (fun simulation => (.text simulation.connection.describe, simulation))
        (fun _ => ⟨rfl, rfl⟩) same
  | elapse span => exact ⟨rfl, elapse_alike same span⟩
  | peerSend socket pieces => exact peerSend_alike same socket rfl
  | peerClose socket =>
      refine byPeer_alike same socket
        (fun number _ _ same => alike_of_veiled (fun simulation => veiled_see simulation rfl) same)
        (fun socket twin alike => ?_)
      exact congrArg (fun veiled : Socket => veiled.finish) alike
  | unblock socket => exact release_alike same socket
  | prepare socket script => exact prepare_alike same socket script
  | plan plans =>
      exact ⟨rfl, congrArg (fun veiled : Simulation =>
        { veiled with plans := veiled.plans ++ plans }) same⟩
  | nothing => exact ⟨rfl, same⟩

theorem wake_wake (simulation : Simulation) (task : Task) :
    (simulation.wake task).wake task = simulation.wake task := by
  have there : task ∈ (simulation.wake task).tasks := by
    unfold wake
    split
    · assumption
    · exact List.mem_append_right _ List.mem_cons_self
  exact if_pos there

theorem sockets_wake (simulation : Simulation) (task : Task) :
    (simulation.wake task).sockets = simulation.sockets := by
  unfold wake
  split <;> rfl

theorem onSocket_wake (simulation : Simulation) (number : Nat) (change : Socket → Socket)
    (task : Task) :
    (simulation.wake task).onSocket number change =
      (simulation.onSocket number change).wake task := by
  by_cases waiting : task ∈ simulation.tasks
  · have also : task ∈ (simulation.onSocket number change).tasks := waiting
    rw [wake, wake, if_pos waiting, if_pos also]
  · have neither : task ∉ (simulation.onSocket number change).tasks := waiting
    rw [wake, wake, if_neg waiting, if_neg neither]
    rfl

theorem onSocket_arrive (simulation : Simulation) (number : Nat) (first second : List Piece) :
    (simulation.onSocket number fun socket => socket.arrive first).onSocket number
        (fun socket => socket.arrive second) =
      simulation.onSocket number fun socket => socket.arrive (first ++ second) := by
  have changes : (fun socket : Socket => socket.arrive second) ∘
      (fun socket : Socket => socket.arrive first) =
      fun socket : Socket => socket.arrive (first ++ second) :=
    funext fun socket : Socket => socket.arrive_arrive first second
  have modified := List.modify_modify_eq (fun socket : Socket => socket.arrive first)
    (fun socket => socket.arrive second) number simulation.sockets
  rw [changes] at modified
  exact congrArg (fun sockets => { simulation with sockets := sockets }) modified

/-- A socket that is meant is meant after a change as well, with its number. -/
theorem meant_of_modify (after : Simulation) {socket : Option Nat} {found : Socket} {number : Nat}
    {change : Socket → Socket} (numbered : ∀ socket, (change socket).number = socket.number)
    (opened : ∀ socket, (change socket).isOpen = socket.isOpen)
    (modified : after.sockets = simulation.sockets.modify number change)
    (meant : (simulation.meant socket).bind simulation.socket? = some found) :
    ∃ changed, (after.meant socket).bind after.socket? = some changed ∧
      changed.number = found.number ∧ changed.isOpen = found.isOpen := by
  obtain ⟨place, names, there⟩ := Option.bind_eq_some_iff.mp meant
  have length : after.sockets.length = simulation.sockets.length := by
    rw [modified, List.length_modify]
  rw [meant_of_length length, names]
  change ∃ changed, after.sockets[place]? = some changed ∧ _
  have here : simulation.sockets[place]? = some found := there
  rw [modified, List.getElem?_modify, here]
  by_cases same : number = place
  · exact ⟨change found, congrArg some (if_pos same), numbered found, opened found⟩
  · exact ⟨found, congrArg some (if_neg same), rfl, rfl⟩

/-- What is sent in one go may as well be sent in two. -/
theorem peerSend_split (simulation : Simulation) (socket : Option Nat) (first second : List Piece) :
    (simulation.act (.peerSend socket (first ++ second))).2.veiled =
      ((simulation.act (.peerSend socket first)).2.act (.peerSend socket second)).2.veiled := by
  change (simulation.byPeer _ _ _).2.veiled = ((simulation.byPeer _ _ _).2.byPeer _ _ _).2.veiled
  unfold byPeer
  cases meant : (simulation.meant socket).bind simulation.socket? with
  | none =>
      dsimp only
      rw [meant]
  | some found =>
      dsimp only
      by_cases isOpen : found.isOpen
      · rw [if_pos isOpen, if_pos isOpen]
        dsimp only
        obtain ⟨changed, also, number, opened⟩ := meant_of_modify
          (((simulation.onSocket found.number fun socket => socket.arrive first).see
            (.arrived found.number first)).wake (.reader found.number))
          (fun _ => Socket.number_arrive _ _) (fun _ => Socket.isOpen_arrive _ _)
          (sockets_wake _ _) meant
        rw [also]
        dsimp only
        rw [opened, if_pos isOpen, number]
        dsimp only
        -- the reader is in line already when the second part comes
        rw [onSocket_wake, veiled_wake, veiled_see_arrival, veiled_wake, veiled_see_arrival,
          veiled_wake, wake_wake]
        change _ = wake _ (see _ (onSocket _ _ (onSocket _ _ simulation))).veiled
        rw [veiled_see_arrival, onSocket_arrive]
      · rw [if_neg isOpen, if_neg isOpen]
        dsimp only
        rw [meant]
        dsimp only
        rw [if_neg isOpen]

/-- What operations answer, but for what the peer learns of its sending. -/
def replies (simulation : Simulation) : List Operation → List Answer
  | [] => []
  | operation :: later =>
    let answered := simulation.act operation
    if operation.isSending then answered.2.replies later
    else answered.1 :: answered.2.replies later

theorem acts_alike {before after : List Operation} (recut : Recut before after)
    (same : simulation.veiled = other.veiled) :
    simulation.replies before = other.replies after ∧
      (simulation.acts before).veiled = (other.acts after).veiled := by
  induction recut generalizing simulation other with
  | nil => exact ⟨rfl, same⟩
  | same operation _ ih =>
      obtain ⟨answer, alike⟩ := act_alike same operation
      obtain ⟨answers, end_⟩ := ih alike
      unfold replies
      dsimp only
      rw [answer, answers]
      exact ⟨rfl, end_⟩
  | cut socket grain _ ih => exact ih (peerSend_alike same socket grain).2
  | split socket first second _ ih =>
      have alike := (act_alike same (.peerSend socket (first ++ second))).2
      exact ih (alike.trans (peerSend_split other socket first second))
  | symm _ ih =>
      obtain ⟨answers, alike⟩ := ih same.symm
      exact ⟨answers.symm, alike.symm⟩
  | trans _ _ first second =>
      obtain ⟨firstAnswers, firstAlike⟩ := first same
      obtain ⟨secondAnswers, secondAlike⟩ := second rfl
      exact ⟨firstAnswers.trans secondAnswers, firstAlike.trans secondAlike⟩

/-- What a batch answers, but for what the peer learns of its sending. -/
def answersTo (simulation : Simulation) (operations : List Operation) : List Answer :=
  ((operations.zip (simulation.batch operations).1).filter fun entry =>
    !entry.1.isSending).map Prod.snd

/-- The simulation after some batches. -/
def play (simulation : Simulation) (batches : List (List Operation)) : Simulation :=
  batches.foldl (fun simulation operations => (simulation.batch operations).2) simulation

theorem answersTo_eq (simulation : Simulation) (operations : List Operation) :
    simulation.answersTo operations = simulation.replies operations := by
  unfold answersTo
  rw [batch_eq]
  dsimp only
  induction operations generalizing simulation with
  | nil => rfl
  | cons operation later ih =>
      rw [answers, List.zip_cons_cons, List.filter_cons, replies]
      dsimp only
      cases operation.isSending with
      | true => exact ih _
      | false => exact congrArg (_ :: ·) (ih _)

theorem play_alike {batches others : List (List Operation)}
    (recut : List.Forall₂ Recut batches others) (same : simulation.veiled = other.veiled) :
    (simulation.play batches).veiled = (other.play others).veiled := by
  induction recut generalizing simulation other with
  | nil => exact same
  | cons first _ ih =>
      refine ih ?_
      dsimp only
      rw [batch_eq, batch_eq]
      exact settle_alike (acts_alike first same).2

/-- Whether two simulations show the same: the time, the state of the connection, the attempts,
who waits for an outcome, and all that was seen but for arrivals. -/
structure ShowsAs (simulation other : Simulation) : Prop where
  now : simulation.now = other.now
  connection : simulation.connection = other.connection
  attempt : simulation.attempt = other.attempt
  attempts : simulation.attempts = other.attempts
  awaited : simulation.awaited = other.awaited
  seen : (simulation.seen.filter fun sight => !sight.isArrival) =
    other.seen.filter fun sight => !sight.isArrival

theorem ShowsAs.of_veiled (same : simulation.veiled = other.veiled) :
    simulation.ShowsAs other where
  now := Simulation.of_veiled Simulation.now (fun _ => rfl) same
  connection := Simulation.of_veiled Simulation.connection (fun _ => rfl) same
  attempt := Simulation.of_veiled Simulation.attempt (fun _ => rfl) same
  attempts := Simulation.of_veiled Simulation.attempts (fun _ => rfl) same
  awaited := Simulation.of_veiled Simulation.awaited (fun _ => rfl) same
  seen := congrArg Simulation.seen same

end Simulation

/-- **Only the bytes of a stream count.**  Whenever the reader of a socket has run, its reports
are the frames of the bytes that have arrived, in order, and behind them why reading stopped, if
it did: the refusal of a header, or else the failure or the end of the stream.  So courses of a
simulation that differ only in the cutting of what the peer sends show the same whenever they
settle, and give the same answers. -/
theorem cutting_never_shows :
    (∀ (number generation : Nat) (limit : UInt32) (echo : Bool) (script : Link.Script)
        (moments : List Moment),
      ∃ frames refusal, Framed limit (octetsIn (delivered moments)) frames refusal ∧
        ((Socket.fresh number generation limit echo script).through (moments ++ [.reading])).2 =
          frames.map .frame ++
            ((refusal.map .protocol).or
              (Link.closing (decide (.ending ∈ moments)) (delivered moments))).toList.map
                .readFailed) ∧
    ∀ (simulation : Simulation) (batches others : List (List Operation)),
      List.Forall₂ Recut batches others →
        (simulation.play batches).ShowsAs (simulation.play others) ∧
        ∀ before after, Recut before after →
          (simulation.play batches).answersTo before =
            (simulation.play others).answersTo after := by
  refine ⟨Socket.reports_through, fun simulation batches others recut => ?_⟩
  have played := Simulation.play_alike recut (rfl : simulation.veiled = simulation.veiled)
  refine ⟨.of_veiled played, fun before after last => ?_⟩
  rw [Simulation.answersTo_eq, Simulation.answersTo_eq]
  exact (Simulation.acts_alike last played).1

/-- The response to a request, read from a socket in one piece and in three, of which the first is
cut within the header and the last comes by itself. -/
theorem cutting_never_shows_in_two_parts :
    let beginning := Simulation.start ⟨.dotted [127, 0, 0, 1], 3301⟩ .standard .fresh []
      ⟨.accept, 0, false, none, ⟨[], []⟩⟩
    let response := Field.pack 1 7 0 [.u32 258]
    let asking : List Operation := [.write 0 (Field.pack 1 7 0 [])]
    let whole : List Operation := [.peerSend none [.chunk response.data], .describe]
    let parted : List Operation := [
      .peerSend none [.chunk (response.data.take 5), .chunk ((response.data.drop 5).take 8)],
      .peerSend none [.chunk (response.data.drop 13)], .describe]
    Recut whole parted ∧
      (beginning.play [asking]).sockets.map Socket.isOpen = [true] ∧
      .result 0 0 (.outcome (.ok response)) ∈ (beginning.play [asking, whole]).seen ∧
      (beginning.play [asking, whole]).ShowsAs (beginning.play [asking, parted]) ∧
      (beginning.play [asking]).answersTo whole = (beginning.play [asking]).answersTo parted := by
  intro beginning response asking whole parted
  have cut : Recut whole
      [.peerSend none [.chunk (response.data.take 5), .chunk ((response.data.drop 5).take 8),
        .chunk (response.data.drop 13)], .describe] :=
    .cut none (by decide) (.same _ .nil)
  have recut : Recut whole parted :=
    cut.trans (.split none [.chunk (response.data.take 5), .chunk ((response.data.drop 5).take 8)]
      [.chunk (response.data.drop 13)] (.same _ .nil))
  have asked : Recut asking asking := .same _ .nil
  exact ⟨recut, by decide +kernel, by decide +kernel,
    (cutting_never_shows.2 beginning _ _ (.cons asked (.cons recut .nil))).1,
    (cutting_never_shows.2 beginning _ _ (.cons asked .nil)).2 _ _ recut⟩

end RequestMux.Network
