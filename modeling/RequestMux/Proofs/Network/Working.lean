import RequestMux.Proofs.Network.Conveying
import RequestMux.Proofs.Network.Echoing

/-!
# The tasks of a socket that sends back what it is sent

The writer of such a socket takes its buffer there and reports so, and what comes back is there for
the reader, which reports the packets.  Nothing else changes but who is in the line.
-/

namespace RequestMux.Network

open Client (Report)
open Link (Script)

namespace Simulation

/-- A task of a socket has run: the socket stands like this, something is reported, and tasks are
woken. -/
structure Works (number : Nat) (socket : Socket) (reports : List Report) (woken : List Task)
    (before after : Simulation) : Prop where
  bystands : before.Bystands after
  connection : after.connection = before.connection
  attempt : after.attempt = before.attempt
  socket : after.sockets[number]? = some socket
  reports : after.reports = before.reports ++ reports.map (Prod.mk 0)
  rouses : before.Rouses woken after

variable {simulation before middle after : Simulation} {number : Nat} {limit : UInt32}
  {script : Script} {back waiting : List Wire.Packet} {socket : Socket} {woken : List Task}

namespace Works

/-- The socket is another one, and nothing is reported. -/
theorem onSocket {old : Socket} (there : simulation.sockets[number]? = some old)
    (socket : Socket) :
    simulation.Works number socket [] [] (simulation.onSocket number fun _ => socket) where
  bystands := ⟨rfl, rfl, rfl⟩
  connection := rfl
  attempt := rfl
  socket := by
    change (simulation.sockets.modify number _)[number]? = _
    rw [List.getElem?_modify_eq, there]
    rfl
  reports := (List.append_nil _).symm
  rouses := .of_same rfl

/-- Something is seen that tells nothing of requests. -/
theorem see (works : before.Works number socket [] woken after) {sight : Sight}
    (silent : sight.result? = none) (early : sight.expiry? = none) :
    before.Works number socket [] woken (after.see sight) where
  bystands := works.bystands.trans (.see silent early after)
  connection := works.connection
  attempt := works.attempt
  socket := works.socket
  reports := works.reports
  rouses := ⟨works.rouses.kept, works.rouses.present, works.rouses.only, works.rouses.fewer⟩

/-- A task is woken. -/
theorem wake {reports : List Report} (works : before.Works number socket reports woken after)
    (task : Task) : before.Works number socket reports (woken ++ [task]) (after.wake task) where
  bystands := works.bystands.trans (.wake task after)
  connection := by rw [wake_eq]; exact works.connection
  attempt := by rw [wake_eq]; exact works.attempt
  socket := by rw [wake_eq]; exact works.socket
  reports := by rw [wake_eq]; exact works.reports
  rouses := works.rouses.trans (.wake task after)

/-- Reports are put down for the engine. -/
theorem report (works : before.Works number socket [] woken after) (reports : List Report) :
    before.Works number socket reports woken
      { after with reports := after.reports ++ reports.map (Prod.mk 0) } where
  bystands := works.bystands.trans ⟨rfl, rfl, rfl⟩
  connection := works.connection
  attempt := works.attempt
  socket := works.socket
  reports := by
    change after.reports ++ _ = _
    rw [works.reports, List.map_nil, List.append_nil]
  rouses := List.append_nil woken ▸ works.rouses.trans (.of_same rfl)

end Works

theorem openSocket?_echoing
    (there : simulation.sockets[number]? = some (.echoing number limit script back waiting)) :
    simulation.openSocket? number = some (.echoing number limit script back waiting) := by
  rw [openSocket?, socket?, there]
  rfl

/-- The reader reports the packets that have come back. -/
theorem runReader_echoing (running : simulation.connection.engine.life = .running)
    (there : simulation.sockets[number]? = some (.echoing number limit script back waiting))
    (packed : ∀ packet ∈ back, Field.IsPackedWithin limit packet) :
    simulation.Works number (.echoing number limit script [] waiting) (back.map .frame)
      (if back = [] then [] else [.engine]) (simulation.runReader number) := by
  let read : Socket := .echoing number limit script [] waiting
  let moved := simulation.onSocket number fun _ => read
  have works : simulation.Works number read [] [] moved := .onSocket there read
  have done : simulation.runReader number = (back.map Report.frame).foldl
      (fun simulation report => simulation.report 0 report) moved := by
    rw [runReader, openSocket?_echoing there]
    dsimp only
    rw [Socket.read_echoing packed]
    rfl
  by_cases empty : back = []
  · rw [done, empty, if_pos rfl]
    exact works
  · have some : back.map Report.frame ≠ [] := fun none => empty (List.map_eq_nil_iff.mp none)
    have awake : moved.connection.engine.life = .running := running
    rw [done, if_neg empty, reports_eq some awake 0]
    exact (works.report _).wake .engine

/-- A writer without a buffer does nothing. -/
theorem runWriter_idle
    (there : simulation.sockets[number]? = some (.echoing number limit script back [])) :
    simulation.Works number (.echoing number limit script back []) [] []
      (simulation.runWriter number) := by
  have done : simulation.runWriter number = simulation.onSocket number fun _ =>
      .echoing number limit script back [] := by
    rw [runWriter, openSocket?_echoing there]
    dsimp only
    rw [Socket.write_echoing_idle]
    rfl
  rw [done]
  exact .onSocket there _

/-- The writer takes its buffer to the socket, and the packet comes back. -/
theorem runWriter_echoing (running : simulation.connection.engine.life = .running)
    (gentle : script.IsGentle) {packet : Wire.Packet}
    (there : simulation.sockets[number]? = some (.echoing number limit script back [packet]))
    (packed : Field.IsPackedWithin limit packet) :
    ∃ later : Script, later.IsGentle ∧
      simulation.Works number (.echoing number limit later (back ++ [packet]) []) [.written]
        [.reader number, .engine] (simulation.runWriter number) := by
  obtain ⟨later, still, written⟩ :=
    @Socket.write_echoing number limit script back [] gentle packet packed
  let socket : Socket := .echoing number limit later (back ++ [packet]) []
  let moved := simulation.onSocket number fun _ => socket
  let sent := moved.see (.sent number packet.data)
  let answered := sent.see (.arrived number [.chunk packet.data])
  let waked := answered.wake (.reader number)
  have works : simulation.Works number socket [] [.reader number] waked :=
    ((Works.onSocket there socket).see rfl rfl |>.see rfl rfl).wake (.reader number)
  have awake : waked.connection.engine.life = .running := works.connection ▸ running
  have done : simulation.runWriter number = waked.report 0 .written := by
    rw [runWriter, openSocket?_echoing there]
    dsimp only
    rw [written]
    dsimp only
    rw [Wire.FrameBuffer.isEmpty_of_packed packed]
    rfl
  have reported := reports_eq (List.cons_ne_nil Report.written []) awake 0
  rw [List.foldl_cons, List.foldl_nil] at reported
  rw [done, reported]
  exact ⟨later, still, (works.report _).wake .engine⟩

end Simulation

end RequestMux.Network
