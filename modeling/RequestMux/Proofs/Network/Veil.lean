import RequestMux.Network.Operation
import RequestMux.Proofs.Network.Delivery

/-!
# A simulation without the cutting of its streams

A veil over a simulation hides how the bytes that wait in a socket are cut, all that a
stopped reader has kept, and the sights of arrivals.  Nothing that a simulation does
depends on what is hidden: what can be seen afterwards is the same for all simulations
that look the same.
-/

namespace RequestMux.Wire

/-- The same bytes, each in a chunk of its own, and the same failures. -/
def grains (pieces : List Piece) : List Piece :=
  pieces.flatMap fun piece =>
    match piece with
    | .chunk octets => octets.map fun octet => .chunk [octet]
    | .fault failure => [.fault failure]

theorem grains_append (pieces more : List Piece) :
    grains (pieces ++ more) = grains pieces ++ grains more :=
  List.flatMap_append

theorem map_single (octets : Bytes) :
    (octets.map fun octet => Piece.chunk [octet]) =
      (octets.map fun octet => [octet]).map .chunk := by
  rw [List.map_map]
  rfl

theorem octetsIn_grains (pieces : List Piece) : octetsIn (grains pieces) = octetsIn pieces := by
  induction pieces with
  | nil => rfl
  | cons piece rest ih =>
      cases piece with
      | fault failure => rfl
      | chunk octets =>
          have whole : (octets.map fun octet => [octet]).flatten = octets := by
            rw [← List.flatMap_def]
            exact List.flatMap_singleton' octets
          change octetsIn ((octets.map fun octet => Piece.chunk [octet]) ++ grains rest) =
            octets ++ octetsIn rest
          rw [map_single, octetsIn_chunks, ih, whole]

theorem faultIn_grains (pieces : List Piece) : faultIn (grains pieces) = faultIn pieces := by
  induction pieces with
  | nil => rfl
  | cons piece rest ih =>
      cases piece with
      | fault failure => rfl
      | chunk octets =>
          change faultIn ((octets.map fun octet => Piece.chunk [octet]) ++ grains rest) =
            faultIn rest
          rw [map_single, faultIn_chunks, ih]

end RequestMux.Wire

namespace RequestMux.Link

open Wire (grains)

/-- A reader of which only is known that it has stopped, if it has. -/
def Reader.veiled (reader : Reader) : Reader :=
  if reader.halted then ⟨.empty 0, 0, true⟩ else reader

theorem Reader.veiled_of_halted {reader : Reader} (halted : reader.halted = true) :
    reader.veiled = ⟨.empty 0, 0, true⟩ :=
  if_pos halted

theorem Reader.veiled_of_going {reader : Reader} (going : reader.halted = false) :
    reader.veiled = reader :=
  if_neg (Bool.eq_false_iff.mp going)

theorem Reader.halted_veiled (reader : Reader) : reader.veiled.halted = reader.halted := by
  cases halted : reader.halted with
  | true => rw [veiled_of_halted halted]
  | false => rw [veiled_of_going halted, halted]

end RequestMux.Link

namespace RequestMux.Network

open Client (Connection Effect Report Stimulus Time)
open Link (Reader Reading)
open Wire (Piece faultIn grains octetsIn)

namespace Socket

/-- What waits in a socket, octet by octet; a reader that has stopped will not take it. -/
def waiting (socket : Socket) : List Piece :=
  if socket.reader.halted then [] else grains socket.pieces

/-- A socket without the cutting of what waits in it, and without what a stopped reader has
kept. -/
def veiled (socket : Socket) : Socket :=
  { socket with
    pieces := socket.waiting
    reader := socket.reader.veiled }

variable {socket other : Socket}

/-- What the veil does not change is the same for sockets that look the same. -/
theorem of_veiled {Part : Type} (part : Socket → Part)
    (kept : ∀ socket : Socket, part socket.veiled = part socket)
    (same : socket.veiled = other.veiled) : part socket = part other := by
  rw [← kept, same, kept]

theorem halted_of_veiled (same : socket.veiled = other.veiled) :
    socket.reader.halted = other.reader.halted :=
  of_veiled (fun socket => socket.reader.halted) (fun socket => socket.reader.halted_veiled) same

/-- Two sockets look the same if they do but for their readers, and these look the same. -/
theorem veiled_with (same : socket.veiled = other.veiled) {reader others : Reader}
    {pieces rest : List Piece} (readers : reader.veiled = others.veiled)
    (waiting : (if reader.halted then [] else grains pieces) =
      if others.halted then [] else grains rest) :
    { socket with reader := reader, pieces := pieces }.veiled =
      { other with reader := others, pieces := rest }.veiled := by
  change { socket.veiled with
    reader := reader.veiled, pieces := if reader.halted then [] else grains pieces } = _
  rw [same, readers, waiting]
  rfl

/-- Readers of sockets that look the same report the same, and leave them looking the same. -/
theorem read_alike (same : socket.veiled = other.veiled) :
    socket.read.1.veiled = other.read.1.veiled ∧ socket.read.2 = other.read.2 := by
  have halted := halted_of_veiled same
  have ended : socket.ended = other.ended :=
    of_veiled Socket.ended (fun _ => rfl) same
  cases stopped : socket.reader.halted with
  | true =>
      rw [read_of_halted stopped, read_of_halted (halted ▸ stopped)]
      exact ⟨same, rfl⟩
  | false =>
      have readers : socket.reader = other.reader := by
        have veiled : socket.reader.veiled = other.reader.veiled := congrArg Socket.reader same
        rwa [Reader.veiled_of_going stopped, Reader.veiled_of_going (halted ▸ stopped)] at veiled
      have pieces : grains socket.pieces = grains other.pieces := by
        have waiting : socket.waiting = other.waiting := congrArg Socket.pieces same
        rwa [Socket.waiting, Socket.waiting, ← halted, stopped] at waiting
      have octets : octetsIn socket.pieces = octetsIn other.pieces := by
        rw [← Wire.octetsIn_grains, pieces, Wire.octetsIn_grains]
      have faults : faultIn socket.pieces = faultIn other.pieces := by
        rw [← Wire.faultIn_grains, pieces, Wire.faultIn_grains]
      have runs (pieces : List Piece) : socket.reader.run socket.ended pieces =
          Reader.advance socket.ended socket.reader.frames socket.reader.missing pieces := by
        rw [Reader.run, stopped]
        rfl
      -- both reads give what a buffer with all the bytes gives
      obtain ⟨packets, stop, kept, left, one, two⟩ :=
        Reader.advance_alike socket.ended socket.reader.frames socket.reader.missing octets faults
      rw [← runs] at one two
      have another : other.reader.run other.ended other.pieces =
          socket.reader.run socket.ended other.pieces := by
        rw [readers, ended]
      unfold read
      dsimp only
      rw [another]
      generalize socket.reader.run socket.ended socket.pieces = reading at one
      generalize socket.reader.run socket.ended other.pieces = another at two
      refine ⟨veiled_with same ?_ ?_, ?_⟩
      · cases stop with
        | some stop => rw [Reader.veiled_of_halted one.halted, Reader.veiled_of_halted two.halted]
        | none => rw [(one.going rfl).1, (two.going rfl).1]
      · rw [one.halted, two.halted]
        cases stop with
        | some stop => rfl
        | none => rw [(one.going rfl).2, (two.going rfl).2]
      · rw [Reading.reports, Reading.reports, one.frames, two.frames, one.fault, two.fault]

/-- However what arrives is cut, the sockets look the same. -/
theorem arrive_alike (same : socket.veiled = other.veiled) {pieces others : List Piece}
    (grain : grains pieces = grains others) :
    (socket.arrive pieces).veiled = (other.arrive others).veiled := by
  have halted := halted_of_veiled same
  have ended : socket.ended = other.ended :=
    of_veiled Socket.ended (fun _ => rfl) same
  have waiting : socket.waiting = other.waiting := congrArg Socket.pieces same
  unfold arrive
  by_cases closed : socket.ended
  · rw [if_pos closed, if_pos (ended ▸ closed)]
    exact same
  · rw [if_neg closed, if_neg (ended ▸ closed)]
    refine veiled_with same (congrArg Socket.reader same) ?_
    unfold Socket.waiting at waiting
    rw [← halted] at waiting ⊢
    cases stopped : socket.reader.halted with
    | true => rfl
    | false =>
        rw [stopped] at waiting
        change grains (socket.pieces ++ pieces) = grains (other.pieces ++ others)
        rw [Wire.grains_append, Wire.grains_append, grain]
        exact congrArg (· ++ _) waiting

/-- Writers of sockets that look the same do the same. -/
theorem write_alike (same : socket.veiled = other.veiled) :
    socket.write.socket.veiled = other.write.socket.veiled ∧
      socket.write.sent = other.write.sent ∧ socket.write.report = other.write.report ∧
      socket.write.echo = other.write.echo := by
  have writer : socket.writer = other.writer :=
    of_veiled Socket.writer (fun _ => rfl) same
  have script : socket.script = other.script :=
    of_veiled Socket.script (fun _ => rfl) same
  have echo : socket.echo = other.echo :=
    of_veiled Socket.echo (fun _ => rfl) same
  have written : { socket with
        writer := (socket.writer.run socket.script).writer
        script := (socket.writer.run socket.script).script }.veiled =
      { other with
        echo := socket.echo
        writer := (socket.writer.run socket.script).writer
        script := (socket.writer.run socket.script).script }.veiled :=
    congrArg (fun veiled : Socket =>
      { veiled with
        echo := socket.echo
        writer := (socket.writer.run socket.script).writer
        script := (socket.writer.run socket.script).script }) same
  have ran : other.writer.run other.script = socket.writer.run socket.script := by
    rw [writer, script]
  unfold write
  dsimp only
  rw [ran, ← echo]
  exact ⟨arrive_alike written rfl, rfl, rfl, rfl⟩

end Socket

def Sight.isArrival : Sight → Bool
  | .arrived _ _ => true
  | _ => false

namespace Simulation

/-- A simulation without the cutting of its streams. -/
def veiled (simulation : Simulation) : Simulation :=
  { simulation with
    sockets := simulation.sockets.map Socket.veiled
    seen := simulation.seen.filter fun sight => !sight.isArrival }

section Veiled

variable (simulation : Simulation)

theorem veiled_see {sight : Sight} (shown : sight.isArrival = false) :
    (simulation.see sight).veiled = simulation.veiled.see sight := by
  have kept : (!sight.isArrival) = true := by rw [shown]; rfl
  exact congrArg (fun seen : List Sight => ({ simulation.veiled with seen := seen } : Simulation))
    (List.filter_cons_of_pos kept)

theorem veiled_see_arrival (number : Nat) (pieces : List Piece) :
    (simulation.see (.arrived number pieces)).veiled = simulation.veiled :=
  rfl

theorem veiled_wake (task : Task) :
    (simulation.wake task).veiled = simulation.veiled.wake task :=
  apply_ite veiled _ _ _

theorem veiled_onSocket (number : Nat) {change veiledChange : Socket → Socket}
    (changes : ∀ socket, (change socket).veiled = veiledChange socket.veiled) :
    (simulation.onSocket number change).veiled =
      simulation.veiled.onSocket number veiledChange := by
  have modified : (simulation.sockets.modify number change).map Socket.veiled =
      (simulation.sockets.map Socket.veiled).modify number veiledChange := by
    refine List.ext_getElem? fun place => ?_
    rw [List.getElem?_map, List.getElem?_modify, List.getElem?_modify, List.getElem?_map]
    cases simulation.sockets[place]? with
    | none => rfl
    | some socket =>
        by_cases here : number = place
        · exact (congrArg some (by simpa [here] using changes socket))
        · simp [here]
  exact congrArg (fun sockets => { simulation.veiled with sockets := sockets }) modified

/-- A change that does not touch the reader nor what waits for it is the same under the veil. -/
theorem veiled_onSocket_of_kept (number : Nat) {change : Socket → Socket}
    (changes : ∀ socket, (change socket).veiled = change socket.veiled) :
    (simulation.onSocket number change).veiled = simulation.veiled.onSocket number change :=
  veiled_onSocket simulation number changes

theorem veiled_close (number : Nat) :
    (simulation.close number).veiled = simulation.veiled.close number := by
  unfold close
  dsimp only
  rw [veiled_see _ rfl, veiled_onSocket_of_kept]
  · rfl
  · exact fun _ => rfl

theorem veiled_deliver (ticket : Nat) (outcome : Client.Outcome) :
    (simulation.deliver ticket outcome).veiled = simulation.veiled.deliver ticket outcome := by
  unfold deliver
  split
  · next awaited =>
      rw [veiled_wake]
      exact (if_pos awaited).symm
  · next alone =>
      rw [veiled_see _ rfl]
      exact (if_neg alone).symm

theorem veiled_obey (effect : Effect) :
    (simulation.obey effect).veiled = simulation.veiled.obey effect := by
  cases effect with
  | resolved ticket outcome => exact veiled_deliver simulation ticket outcome
  | abandoned ticket =>
      change (if _ then _ else _ : Simulation).veiled = if _ then _ else _
      rw [apply_ite veiled, veiled_wake]
      rfl
  | handed number write =>
      change (wake _ _).veiled = _
      rw [veiled_wake, veiled_onSocket_of_kept]
      · rfl
      · exact fun _ => rfl
  | dialed generation => exact veiled_wake _ _
  | hungUp => rfl
  | attached number =>
      change (wake _ _).veiled = _
      rw [veiled_wake, veiled_wake]
      rfl
  | closed number => exact veiled_close simulation number
  | _ => rfl

theorem veiled_perform (effect : Effect) :
    (simulation.perform effect).veiled = simulation.veiled.perform effect := by
  unfold perform
  rw [veiled_obey, veiled_see _ rfl]
  rfl

/-- What is done for each item in turn is done under the veil. -/
theorem veiled_foldl {Item : Type} {change : Simulation → Item → Simulation}
    (changes : ∀ simulation item, (change simulation item).veiled = change simulation.veiled item)
    (items : List Item) :
    (items.foldl change simulation).veiled = items.foldl change simulation.veiled := by
  induction items generalizing simulation with
  | nil => rfl
  | cons item items ih => rw [List.foldl_cons, List.foldl_cons, ih, changes]

theorem veiled_accept (reaction : Connection × List Effect) :
    (simulation.accept reaction).veiled = simulation.veiled.accept reaction :=
  veiled_foldl { simulation with connection := reaction.1 } veiled_perform reaction.2

theorem veiled_stimulate (stimulus : Stimulus) :
    (simulation.stimulate stimulus).veiled = simulation.veiled.stimulate stimulus := by
  unfold stimulate hear
  rw [veiled_accept, veiled_see _ rfl]
  rfl

theorem veiled_serve (command : Client.Command) :
    (simulation.serve command).veiled = simulation.veiled.serve command := by
  unfold serve hear
  rw [veiled_accept, veiled_see _ rfl]
  rfl

theorem veiled_report (generation : Nat) (report : Report) :
    (simulation.report generation report).veiled = simulation.veiled.report generation report := by
  unfold Simulation.report
  rw [apply_ite veiled, veiled_wake]
  rfl

theorem veiled_acceptSocket (generation : Nat) (plan : Plan) (reportAt : Time) :
    (simulation.acceptSocket generation plan reportAt).veiled =
      simulation.veiled.acceptSocket generation plan reportAt := by
  have number : simulation.veiled.sockets.length = simulation.sockets.length :=
    List.length_map _
  have accepted (socket : Socket) (nodelay : Bool) (plain : socket.veiled = socket) :
      ({ simulation with sockets := simulation.sockets ++ [socket] }.see
          (.accepted simulation.sockets.length nodelay)).veiled =
        { simulation.veiled with sockets := simulation.veiled.sockets ++ [socket] }.see
          (.accepted simulation.sockets.length nodelay) := by
    rw [veiled_see _ rfl]
    change see _ { simulation.veiled with
      sockets := (simulation.sockets ++ [socket]).map Socket.veiled } = _
    rw [List.map_append, List.map_singleton, plain]
    rfl
  unfold acceptSocket
  dsimp only
  rw [number]
  cases plan.setupFailure with
  | some failure =>
      change { (close _ _).veiled with
        attempt := some ⟨generation, .failing reportAt failure⟩ } = _
      rw [veiled_close, accepted _ _ rfl]
      rfl
  | none =>
      dsimp only
      rw [apply_ite veiled, veiled_report, veiled_close]
      change (if _ then report _ _ { (see _ _).veiled with attempt := none }
        else close _ { (see _ _).veiled with attempt := none }) = _
      rw [accepted _ _ rfl]
      rfl

theorem veiled_proceed (attempt : Attempt) :
    (simulation.proceed attempt).veiled = simulation.veiled.proceed attempt := by
  unfold proceed
  cases attempt.stage with
  | unstarted => rfl
  | accepting time plan reportAt => exact veiled_acceptSocket _ _ _ _
  | failing time failure => exact veiled_report _ _ _

theorem veiled_runAwaiter (ticket : Nat) (outcome : Client.Outcome) :
    (simulation.runTask (.awaiter ticket outcome)).veiled =
      simulation.veiled.runTask (.awaiter ticket outcome) :=
  veiled_see _ rfl

/-- What becomes of an attempt that is begun: it goes on at once if it is due. -/
def launch (begun : Attempt) : Simulation :=
  match begun.stage with
  | .accepting time _ _ =>
    if simulation.isDue (some time) then simulation.proceed begun else simulation
  | _ => simulation

theorem veiled_launch (begun : Attempt) :
    (simulation.launch begun).veiled = simulation.veiled.launch begun := by
  unfold launch
  cases begun.stage with
  | accepting time plan reportAt =>
      dsimp only
      rw [apply_ite veiled, veiled_proceed]
      rfl
  | _ => rfl

theorem veiled_attempt : simulation.veiled.attempt = simulation.attempt := rfl

theorem veiled_dial : simulation.dial.veiled = simulation.veiled.dial := by
  unfold dial
  rw [veiled_attempt]
  cases simulation.attempt with
  | none => rfl
  | some attempt =>
      refine (veiled_launch _ _).trans ?_
      rw [veiled_see _ rfl]
      rfl

theorem veiled_takeReports :
    simulation.takeReports.veiled = simulation.veiled.takeReports :=
  veiled_foldl { simulation with reports := [] }
    (fun simulation entry => veiled_stimulate simulation (.report entry.1 entry.2))
    simulation.reports

theorem veiled_firePing : simulation.firePing.veiled = simulation.veiled.firePing :=
  veiled_stimulate simulation.allocate.2 _

theorem veiled_fireTimer : simulation.fireTimer.veiled = simulation.veiled.fireTimer := by
  unfold fireTimer
  rw [apply_ite veiled, veiled_stimulate]
  congr 1
  rw [veiled_attempt]
  cases simulation.attempt with
  | none => exact veiled_firePing simulation
  | some attempt =>
      dsimp only
      rw [apply_ite veiled, veiled_proceed, veiled_firePing]
      rfl

end Veiled

section Alike

variable {simulation other : Simulation}

/-- What the veil does not change is the same for simulations that look the same. -/
theorem of_veiled {Part : Type} (part : Simulation → Part)
    (kept : ∀ simulation : Simulation, part simulation.veiled = part simulation)
    (same : simulation.veiled = other.veiled) : part simulation = part other := by
  rw [← kept, same, kept]

/-- What is done under the veil leaves simulations looking the same. -/
theorem alike_of_veiled {change : Simulation → Simulation}
    (changes : ∀ simulation, (change simulation).veiled = change simulation.veiled)
    (same : simulation.veiled = other.veiled) :
    (change simulation).veiled = (change other).veiled := by
  rw [changes, same, changes]

/-- The sockets with a number look the same, if there are any. -/
theorem socket?_alike (same : simulation.veiled = other.veiled) (number : Nat) :
    simulation.socket? number = none ∧ other.socket? number = none ∨
      ∃ socket twin, simulation.socket? number = some socket ∧
        other.socket? number = some twin ∧ socket.veiled = twin.veiled := by
  have sockets : simulation.sockets.map Socket.veiled = other.sockets.map Socket.veiled :=
    congrArg Simulation.sockets same
  have found : (simulation.sockets[number]?).map Socket.veiled =
      (other.sockets[number]?).map Socket.veiled := by
    rw [← List.getElem?_map, sockets, List.getElem?_map]
  unfold socket?
  cases one : simulation.sockets[number]? with
  | none =>
      rw [one] at found
      exact .inl ⟨rfl, Option.map_eq_none_iff.mp found.symm⟩
  | some socket =>
      rw [one] at found
      obtain ⟨twin, two, alike⟩ := Option.map_eq_some_iff.mp found.symm
      exact .inr ⟨socket, twin, rfl, two, alike.symm⟩

theorem openSocket?_alike (same : simulation.veiled = other.veiled) (number : Nat) :
    simulation.openSocket? number = none ∧ other.openSocket? number = none ∨
      ∃ socket twin, simulation.openSocket? number = some socket ∧
        other.openSocket? number = some twin ∧ socket.veiled = twin.veiled := by
  unfold openSocket?
  rcases socket?_alike same number with ⟨one, two⟩ | ⟨socket, twin, one, two, alike⟩
  · rw [one, two]
    exact .inl ⟨rfl, rfl⟩
  · have both : socket.isOpen = twin.isOpen := Socket.of_veiled Socket.isOpen (fun _ => rfl) alike
    rw [one, two, Option.filter_some, Option.filter_some, ← both]
    split
    · exact .inr ⟨socket, twin, rfl, rfl, alike⟩
    · exact .inl ⟨rfl, rfl⟩

/-- Changes that leave sockets looking the same leave simulations looking the same. -/
theorem onSocket_alike (same : simulation.veiled = other.veiled) (number : Nat)
    {change twinChange : Socket → Socket}
    (changes : ∀ socket twin : Socket, socket.veiled = twin.veiled →
      (change socket).veiled = (twinChange twin).veiled) :
    (simulation.onSocket number change).veiled = (other.onSocket number twinChange).veiled := by
  have modified : (simulation.sockets.modify number change).map Socket.veiled =
      (other.sockets.modify number twinChange).map Socket.veiled := by
    refine List.ext_getElem? fun place => ?_
    rw [List.getElem?_map, List.getElem?_map, List.getElem?_modify, List.getElem?_modify]
    rcases socket?_alike same place with ⟨one, two⟩ | ⟨socket, twin, one, two, alike⟩
    · rw [← socket?, one, ← socket?, two]
      rfl
    · rw [← socket?, one, ← socket?, two]
      by_cases here : number = place
      · simpa [here] using changes socket twin alike
      · simpa [here] using alike
  have kept : ({ simulation.veiled with sockets := [] } : Simulation) =
      { other.veiled with sockets := [] } := by rw [same]
  change ({ ({ simulation.veiled with sockets := [] } : Simulation) with
    sockets := (simulation.sockets.modify number change).map Socket.veiled } : Simulation) = _
  rw [kept, modified]
  rfl

theorem wake_alike (same : simulation.veiled = other.veiled) (task : Task) :
    (simulation.wake task).veiled = (other.wake task).veiled :=
  alike_of_veiled (fun simulation => veiled_wake simulation task) same

theorem report_alike (same : simulation.veiled = other.veiled) (generation : Nat)
    (report : Report) :
    (simulation.report generation report).veiled = (other.report generation report).veiled :=
  alike_of_veiled (fun simulation => veiled_report simulation generation report) same

theorem runReader_alike (same : simulation.veiled = other.veiled) (number : Nat) :
    (simulation.runReader number).veiled = (other.runReader number).veiled := by
  unfold runReader
  rcases openSocket?_alike same number with ⟨one, two⟩ | ⟨socket, twin, one, two, alike⟩
  · rw [one, two]
    exact same
  · obtain ⟨after, reports⟩ := Socket.read_alike alike
    have generation : socket.generation = twin.generation :=
      Socket.of_veiled Socket.generation (fun _ => rfl) alike
    rw [one, two]
    dsimp only
    rw [veiled_foldl _ fun simulation => veiled_report simulation _,
      veiled_foldl _ fun simulation => veiled_report simulation _, reports, generation,
      onSocket_alike same number fun _ _ _ => after]

theorem runWriter_alike (same : simulation.veiled = other.veiled) (number : Nat) :
    (simulation.runWriter number).veiled = (other.runWriter number).veiled := by
  unfold runWriter
  rcases openSocket?_alike same number with ⟨one, two⟩ | ⟨socket, twin, one, two, alike⟩
  · rw [one, two]
    exact same
  · obtain ⟨after, sent, report, echo⟩ := Socket.write_alike alike
    have generation : socket.generation = twin.generation :=
      Socket.of_veiled Socket.generation (fun _ => rfl) alike
    have moved : (simulation.onSocket number fun _ => socket.write.socket).veiled =
        (other.onSocket number fun _ => twin.write.socket).veiled :=
      onSocket_alike same number fun _ _ _ => after
    rw [one, two]
    dsimp only
    rw [← sent, ← report, ← echo, ← generation]
    generalize simulation.onSocket number _ = before at moved
    generalize other.onSocket number _ = twinBefore at moved
    have noted :
        (if socket.write.sent.isEmpty then before
          else before.see (.sent number socket.write.sent)).veiled =
        (if socket.write.sent.isEmpty then twinBefore
          else twinBefore.see (.sent number socket.write.sent)).veiled := by
      split
      · exact moved
      · exact alike_of_veiled (fun simulation => veiled_see simulation rfl) moved
    generalize (if socket.write.sent.isEmpty then before else _) = before at noted
    generalize (if socket.write.sent.isEmpty then twinBefore else _) = twinBefore at noted
    have answered :
        (if socket.write.echo.isEmpty then before
          else (before.see (.arrived number socket.write.echo)).wake (.reader number)).veiled =
        (if socket.write.echo.isEmpty then twinBefore
          else (twinBefore.see (.arrived number socket.write.echo)).wake
            (.reader number)).veiled := by
      split
      · exact noted
      · refine wake_alike ?_ _
        rw [veiled_see_arrival, veiled_see_arrival, noted]
    cases socket.write.report with
    | none => exact answered
    | some report => exact report_alike answered _ report

theorem runTask_alike (same : simulation.veiled = other.veiled) (task : Task) :
    (simulation.runTask task).veiled = (other.runTask task).veiled := by
  cases task with
  | engine => exact alike_of_veiled veiled_takeReports same
  | dial => exact alike_of_veiled veiled_dial same
  | reader number => exact runReader_alike same number
  | writer number => exact runWriter_alike same number
  | awaiter ticket outcome =>
      exact alike_of_veiled (fun simulation => veiled_runAwaiter simulation ticket outcome) same

/-- Simulations that look the same go on in step. -/
theorem step?_alike (same : simulation.veiled = other.veiled) (horizon : Time) :
    (simulation.step? horizon).map veiled = (other.step? horizon).map veiled := by
  have mailbox : simulation.connection.mailbox = other.connection.mailbox :=
    of_veiled (fun simulation => simulation.connection.mailbox) (fun _ => rfl) same
  have tasks : simulation.tasks = other.tasks := of_veiled Simulation.tasks (fun _ => rfl) same
  have timer : simulation.nextTimer? = other.nextTimer? :=
    of_veiled nextTimer? (fun _ => rfl) same
  unfold step?
  rw [← mailbox, ← tasks, ← timer]
  cases simulation.connection.mailbox with
  | cons command rest =>
      exact congrArg some (alike_of_veiled (fun simulation => veiled_serve simulation command) same)
  | nil =>
      cases simulation.tasks with
      | cons task rest =>
          have left : ({ simulation with tasks := rest } : Simulation).veiled =
              ({ other with tasks := rest } : Simulation).veiled :=
            congrArg (fun veiled : Simulation => { veiled with tasks := rest }) same
          exact congrArg some (runTask_alike left task)
      | nil =>
          cases simulation.nextTimer? with
          | none => rfl
          | some time =>
              have moved :
                  ({ simulation with now := max simulation.now time, tasks := [] } :
                    Simulation).veiled =
                  ({ other with now := max other.now time, tasks := [] } : Simulation).veiled :=
                congrArg (fun veiled : Simulation =>
                  { veiled with now := max veiled.now time, tasks := [] }) same
              dsimp only
              split
              · exact congrArg some (alike_of_veiled veiled_fireTimer moved)
              · rfl

theorem run_alike (horizon : Time) (fuel : Nat) (same : simulation.veiled = other.veiled) :
    (simulation.run horizon fuel).veiled = (other.run horizon fuel).veiled := by
  induction fuel generalizing simulation other with
  | zero => exact same
  | succ fuel ih =>
      have stepped := step?_alike same horizon
      unfold run
      cases one : simulation.step? horizon with
      | none =>
          rw [one] at stepped
          rw [Option.map_eq_none_iff.mp stepped.symm]
          exact same
      | some next =>
          rw [one] at stepped
          obtain ⟨twin, two, alike⟩ := Option.map_eq_some_iff.mp stepped.symm
          rw [two]
          exact ih alike.symm

theorem settle_alike (same : simulation.veiled = other.veiled) :
    simulation.settle.veiled = other.settle.veiled := by
  have now : simulation.now = other.now := of_veiled Simulation.now (fun _ => rfl) same
  unfold settle
  rw [now]
  exact run_alike _ _ same

theorem elapse_alike (same : simulation.veiled = other.veiled) (span : Time) :
    (simulation.elapse span).veiled = (other.elapse span).veiled := by
  have now : simulation.now = other.now := of_veiled Simulation.now (fun _ => rfl) same
  unfold elapse
  dsimp only
  rw [now]
  have ran := run_alike (other.now + span) stepLimit same
  generalize simulation.run (other.now + span) stepLimit = after at ran
  generalize other.run (other.now + span) stepLimit = twinAfter at ran
  have rests : after.isAtRest (other.now + span) = twinAfter.isAtRest (other.now + span) := by
    have stepped := congrArg Option.isNone (step?_alike ran (other.now + span))
    rwa [Option.isNone_map, Option.isNone_map] at stepped
  rw [rests]
  split
  · exact congrArg (fun veiled : Simulation => { veiled with now := other.now + span }) ran
  · exact ran

end Alike

end Simulation

end RequestMux.Network
