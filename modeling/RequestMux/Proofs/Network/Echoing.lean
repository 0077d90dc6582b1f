import RequestMux.Field.Packer
import RequestMux.Network.Socket
import RequestMux.Proofs.Link.Streaming
import RequestMux.Proofs.Wire.Framing

/-!
# Sockets that send back what they are sent

A gentle socket takes some bytes with every call and holds none back, so that one run of the writer
takes a whole buffer.  When it sends back what it takes, its reader finds whole frames, one in each
piece, and is as fresh behind them as it was in front of them.
-/

namespace RequestMux

/-- Whether a packet was packed, with a payload that the limit admits. -/
def Field.IsPackedWithin (limit : UInt32) (packet : Wire.Packet) : Prop :=
  ∃ packer : Packer, packet = packer.finish ∧ packer.payload.length ≤ limit.toNat

namespace Wire.FrameBuffer

/-- A packet that was packed is one whole frame. -/
theorem next?_packed {limit : UInt32} {packet : Packet}
    (packed : Field.IsPackedWithin limit packet) :
    ((empty limit).append packet.data).next? = .ok (some (packet, empty limit)) := by
  obtain ⟨packer, rfl, fits⟩ := packed
  have announced : packer.header.len.toNat = packer.payload.length :=
    UInt32.toNat_ofNat_of_lt' (Nat.lt_of_le_of_lt fits limit.toNat_lt)
  have given := @Framed.next?_frame limit packer.header packer.payload []
    (UInt32.le_iff_toNat_le.mpr (announced ▸ fits)) announced.symm
  rw [List.append_nil] at given
  exact given

theorem size_le_of_packed {limit : UInt32} {packet : Packet}
    (packed : Field.IsPackedWithin limit packet) : Header.size ≤ packet.data.length := by
  obtain ⟨packer, rfl, -⟩ := packed
  change _ ≤ (packer.header.encode ++ packer.payload).length
  rw [List.length_append, Header.length_encode]
  exact Nat.le_add_right _ _

theorem isEmpty_of_packed {limit : UInt32} {packet : Packet}
    (packed : Field.IsPackedWithin limit packet) : packet.data.isEmpty = false :=
  List.isEmpty_eq_false_iff.mpr
    (List.ne_nil_of_length_pos (Nat.lt_of_lt_of_le (by decide) (size_le_of_packed packed)))

end Wire.FrameBuffer

namespace Link

open Wire (FrameBuffer Intake Packet Piece)

namespace Reader

/-- A reader that meets whole frames, one in each piece, gives them out and is fresh again. -/
theorem run_packed {limit : UInt32} (packets : List Packet)
    (packed : ∀ packet ∈ packets, Field.IsPackedWithin limit packet) :
    (start limit).run false (packets.map fun packet => .chunk packet.data) =
      ⟨packets, none, start limit, []⟩ := by
  have going (pieces : List Piece) : (start limit).run false pieces =
      advance false (.empty limit) (FrameBuffer.empty limit).wanted pieces := rfl
  rw [going]
  induction packets with
  | nil =>
      have dry : (Intake.gather (FrameBuffer.empty limit).wanted []).stop =
        .dry (FrameBuffer.empty limit).wanted := rfl
      rw [List.map_nil, advance_dry dry]
      rfl
  | cons packet rest ih =>
      have whole := packed packet List.mem_cons_self
      have long : (FrameBuffer.empty limit).wanted ≤ packet.data.length :=
        FrameBuffer.size_le_of_packed whole
      have filled := FrameBuffer.isEmpty_of_packed whole
      have taken : Intake.gather (FrameBuffer.empty limit).wanted
          (.chunk packet.data :: rest.map fun packet => .chunk packet.data) =
            ⟨[packet.data], .enough, rest.map fun packet => .chunk packet.data⟩ := by
        rw [Intake.gather, filled, if_neg Bool.false_ne_true, if_pos long]
      have drained : ((FrameBuffer.empty limit).append [packet.data].flatten).drain =
          ⟨[packet], none, .empty limit⟩ := by
        rw [List.flatten_cons, List.flatten_nil, List.append_nil,
          FrameBuffer.drain_of_next? (FrameBuffer.next?_packed whole), FrameBuffer.drain_empty]
      rw [List.map_cons, advance_enough (congrArg Intake.stop taken)]
      simp only [taken, Intake.octets, drained,
        ih fun packet later => packed packet (List.mem_cons_of_mem _ later), List.singleton_append]

end Reader

/-- Whether a call is answered by accepting something. -/
def Act.accepts : Act → Bool
  | .accept most => 0 < most
  | .acceptAll => true
  | _ => false

/-- Whether a call is neither refused nor held back. -/
def Act.passes : Act → Bool
  | .fail _ => false
  | .block => false
  | _ => true

/-- Whether every call takes some bytes, and none fails or is held back. -/
structure Script.IsGentle (script : Script) : Prop where
  writes : ∀ act ∈ script.writes, act.accepts = true
  flushes : ∀ act ∈ script.flushes, act.passes = true

instance (script : Script) : Decidable script.IsGentle :=
  decidable_of_iff ((∀ act ∈ script.writes, act.accepts = true) ∧
      ∀ act ∈ script.flushes, act.passes = true)
    ⟨fun gentle => ⟨gentle.1, gentle.2⟩, fun gentle => ⟨gentle.writes, gentle.flushes⟩⟩

/-- What is offered to a socket that accepts something every time is accepted in the end. -/
theorem offer_of_accepts {size accepted : Nat} {writes : List Act} (fits : accepted ≤ size)
    (accepts : ∀ act ∈ writes, act.accepts = true) :
    ∃ rest, offer size accepted writes = (size, .complete, rest) ∧
      ∀ act ∈ rest, act.accepts = true := by
  induction writes generalizing accepted with
  | nil =>
      unfold offer
      split
      · next full => exact ⟨[], by rw [Nat.le_antisymm fits full], List.forall_mem_nil _⟩
      · exact ⟨[], rfl, List.forall_mem_nil _⟩
  | cons act rest ih =>
      obtain ⟨first, others⟩ := List.forall_mem_cons.mp accepts
      unfold offer
      split
      · next full => exact ⟨act :: rest, by rw [Nat.le_antisymm fits full], accepts⟩
      · cases act with
        | acceptAll => exact ⟨rest, rfl, others⟩
        | accept most =>
            have some : 0 < most := of_decide_eq_true first
            dsimp only
            rw [if_neg (Nat.ne_of_gt some)]
            exact ih (Nat.min_le_left _ _) others
        | fail failure => cases first
        | block => cases first

theorem flush_of_passes {flushes : List Act} (passes : ∀ act ∈ flushes, act.passes = true) :
    ∃ rest, flush flushes = (.complete, rest) ∧ ∀ act ∈ rest, act.passes = true := by
  cases flushes with
  | nil => exact ⟨[], rfl, List.forall_mem_nil _⟩
  | cons act rest =>
      obtain ⟨first, others⟩ := List.forall_mem_cons.mp passes
      cases act with
      | accept most => exact ⟨rest, rfl, others⟩
      | acceptAll => exact ⟨rest, rfl, others⟩
      | fail failure => cases first
      | block => cases first

namespace Writer

/-- One run of a writer takes a whole buffer to a gentle socket. -/
theorem run_of_gentle {script : Script} (gentle : script.IsGentle) (octets : Bytes)
    (waiting : List Bytes) :
    ∃ later, (Writer.mk none (octets :: waiting) false).run script =
      ⟨octets, some .written, ⟨none, waiting, false⟩, later⟩ ∧ later.IsGentle := by
  obtain ⟨writes, offered, accepts⟩ := offer_of_accepts (Nat.zero_le octets.length) gentle.writes
  obtain ⟨flushes, flushed, passes⟩ := flush_of_passes gentle.flushes
  refine ⟨⟨writes, flushes⟩, ?_, accepts, passes⟩
  change goOn octets 0 waiting script = _
  simp only [goOn, writeBuffer, offered, flushed, List.take_length, List.drop_zero]

end Writer

end Link

namespace Network.Socket

open Wire (Packet)
open Link (Script Writer)

/-- A gentle socket that is the client's and sends back what it is sent: these packets have come
back to it, and these wait to be written to it. -/
def echoing (number : Nat) (limit : UInt32) (script : Script) (back waiting : List Packet) :
    Socket :=
  { Socket.fresh number 0 limit true script with
    pieces := back.map fun packet => .chunk packet.data
    writer := ⟨none, waiting.map Packet.data, false⟩ }

variable {number : Nat} {limit : UInt32} {script : Script} {back waiting : List Packet}

theorem read_echoing (packed : ∀ packet ∈ back, Field.IsPackedWithin limit packet) :
    (echoing number limit script back waiting).read =
      (echoing number limit script [] waiting, back.map .frame) := by
  have reading : (echoing number limit script back waiting).reader.run
      (echoing number limit script back waiting).ended
        (echoing number limit script back waiting).pieces =
          ⟨back, none, .start limit, []⟩ := Link.Reader.run_packed back packed
  simp only [Socket.read, reading, Link.Reading.reports, Option.toList_none, List.map_nil,
    List.append_nil]
  rfl

theorem write_echoing_idle : (echoing number limit script back []).write =
    ⟨echoing number limit script back [], [], none, []⟩ := by
  have idle : (echoing number limit script back []).writer.run script =
      ⟨[], none, ⟨none, [], false⟩, script⟩ := rfl
  simp only [Socket.write]
  rw [show (echoing number limit script back []).script = script from rfl, idle]
  simp [Socket.arrive, echoing, Socket.fresh]

theorem write_echoing (gentle : script.IsGentle) {packet : Packet}
    (packed : Field.IsPackedWithin limit packet) :
    ∃ later : Script, later.IsGentle ∧
      (echoing number limit script back (packet :: waiting)).write =
      ⟨echoing number limit later (back ++ [packet]) waiting, packet.data, some .written,
        [.chunk packet.data]⟩ := by
  obtain ⟨later, writing, still⟩ :=
    Writer.run_of_gentle gentle packet.data (waiting.map Packet.data)
  refine ⟨later, still, ?_⟩
  have filled := Wire.FrameBuffer.isEmpty_of_packed packed
  have run : (echoing number limit script back (packet :: waiting)).writer.run
      (echoing number limit script back (packet :: waiting)).script =
        ⟨packet.data, some .written, ⟨none, waiting.map Packet.data, false⟩, later⟩ := writing
  simp only [Socket.write, run, filled]
  simp [Socket.arrive, echoing, Socket.fresh]

end Network.Socket

end RequestMux
