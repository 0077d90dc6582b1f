import Mathlib.Data.List.Induction
import RequestMux.Network.Socket
import RequestMux.Proofs.Link.Streaming
import RequestMux.Proofs.Wire.Framing

/-!
# What a reader reports

A socket lives through arrivals, the end of its stream and runs of its reader, in any
order.  Whenever its reader has run, it has reported just the frames of the bytes that
have arrived, and how the stream stopped if it did.
-/

namespace RequestMux.Network

open Client (Report)
open Link (Reader Reading closing)
open Wire (FrameBuffer Framed Packet Piece faultIn octetsIn)

/-- What happens to a socket as its reader sees it. -/
inductive Moment where
  /-- The peer sends some pieces. -/
  | arrival (pieces : List Piece)
  /-- The peer closes its side. -/
  | ending
  /-- The reader runs. -/
  | reading
  deriving DecidableEq, Repr

/-- The pieces that arrive before the end. -/
def delivered : List Moment → List Piece
  | [] => []
  | .arrival pieces :: later => pieces ++ delivered later
  | .ending :: _ => []
  | .reading :: later => delivered later

theorem delivered_append (moments : List Moment) (moment : Moment) :
    delivered (moments ++ [moment]) =
      delivered moments ++ if .ending ∈ moments then [] else delivered [moment] := by
  induction moments with
  | nil => rfl
  | cons first later ih =>
      cases first with
      | arrival pieces =>
          have same : (.ending ∈ .arrival pieces :: later) = (.ending ∈ later) := by
            simp only [List.mem_cons, reduceCtorEq, false_or]
          change pieces ++ delivered (later ++ [moment]) = pieces ++ delivered later ++ _
          simp only [same, ih, List.append_assoc]
      | ending => simp only [delivered, List.cons_append, List.mem_cons, true_or, if_true,
          List.append_nil]
      | reading =>
          have same : (.ending ∈ .reading :: later) = (.ending ∈ later) := by
            simp only [List.mem_cons, reduceCtorEq, false_or]
          simp only [same]
          exact ih

namespace Socket

/-- A socket goes through a moment; what its reader reports is gathered. -/
def meet (state : Socket × List Report) : Moment → Socket × List Report
  | .arrival pieces => (state.1.arrive pieces, state.2)
  | .ending => (state.1.finish, state.2)
  | .reading => (state.1.read.1, state.2 ++ state.1.read.2)

/-- The socket after some moments, and all that its reader has reported. -/
def through (socket : Socket) (moments : List Moment) : Socket × List Report :=
  moments.foldl meet (socket, [])

end Socket

/-- Why reading a stream stops, if it does: a header is refused, or else the stream fails or
ends. -/
def stopOf (limit : UInt32) (ended : Bool) (pieces : List Piece) : Option ClientError :=
  (FrameBuffer.mk (octetsIn pieces) limit).drain.fault.or (closing ended pieces)

/-- The reports that a stream calls for. -/
def reportsOf (limit : UInt32) (ended : Bool) (pieces : List Piece) : List Report :=
  (FrameBuffer.mk (octetsIn pieces) limit).drain.frames.map .frame ++
    (stopOf limit ended pieces).toList.map .readFailed

section

variable {limit : UInt32} {ended : Bool} {pieces : List Piece} {stop : ClientError}

/-- Once reading has stopped, arrivals change nothing. -/
theorem reportsOf_arrival (settled : stopOf limit false pieces = some stop) (more : List Piece) :
    stopOf limit false (pieces ++ more) = some stop ∧
      reportsOf limit false (pieces ++ more) = reportsOf limit false pieces := by
  suffices same : (FrameBuffer.mk (octetsIn (pieces ++ more)) limit).drain.frames =
      (FrameBuffer.mk (octetsIn pieces) limit).drain.frames ∧
      stopOf limit false (pieces ++ more) = some stop by
    refine ⟨same.2, ?_⟩
    rw [reportsOf, same.1, same.2, reportsOf, settled]
  unfold stopOf closing at *
  rw [Wire.faultIn_append]
  cases failing : faultIn pieces with
  | some failure =>
      rw [Wire.octetsIn_append_of_some failing]
      rw [failing] at settled
      exact ⟨rfl, settled⟩
  | none =>
      rw [Wire.octetsIn_append_of_none failing]
      rw [failing] at settled
      have refused : (FrameBuffer.mk (octetsIn pieces) limit).drain.fault = some stop := by
        simpa using settled
      obtain ⟨frames, fault⟩ :=
        FrameBuffer.drain_append_of_fault refused (octetsIn more)
      exact ⟨frames, by
        change Option.or ((FrameBuffer.mk _ limit).append (octetsIn more)).drain.fault _ = _
        rw [fault]
        rfl⟩

/-- Once reading has stopped, the end of the stream changes nothing. -/
theorem stopOf_ending (settled : stopOf limit ended pieces = some stop) :
    stopOf limit true pieces = some stop := by
  unfold stopOf closing at *
  cases ended with
  | true => exact settled
  | false =>
      cases refused : (FrameBuffer.mk (octetsIn pieces) limit).drain.fault with
      | some fault =>
          rw [refused] at settled
          exact settled
      | none =>
          rw [refused] at settled
          cases failing : faultIn pieces with
          | some failure =>
              rw [failing] at settled
              exact settled
          | none =>
              rw [failing] at settled
              cases settled

end

theorem Socket.read_of_halted {socket : Socket} (halted : socket.reader.halted = true) :
    socket.read = (socket, []) := by
  unfold Socket.read Reader.run
  rw [halted]
  rfl

/-- A socket whose stream has brought these pieces, with all that its reader has reported. -/
structure Socket.Follows (limit : UInt32) (pieces : List Piece) (socket : Socket)
    (reports : List Report) : Prop where
  /-- A reader that goes on has given out the frames of the bytes it has taken. -/
  reading : socket.reader.halted = false → ∃ taken,
    octetsIn pieces = taken ++ octetsIn socket.pieces ∧
    faultIn pieces = faultIn socket.pieces ∧
    Reader.HasTaken limit taken socket.reader ∧
    reports = (FrameBuffer.mk taken limit).drain.frames.map .frame
  /-- A reader that has stopped has reported everything. -/
  stopped : socket.reader.halted = true →
    (stopOf limit socket.ended pieces).isSome ∧ reports = reportsOf limit socket.ended pieces

namespace Socket.Follows

variable {limit : UInt32} {pieces : List Piece} {socket : Socket} {reports : List Report}

theorem fresh (number generation : Nat) (limit : UInt32) (echo : Bool) (script : Link.Script) :
    Follows limit [] (.fresh number generation limit echo script) [] := by
  have nothing : (FrameBuffer.mk [] limit).drain = ⟨[], none, .empty limit⟩ :=
    FrameBuffer.drain_empty limit
  refine ⟨fun _ => ⟨[], rfl, rfl, .start limit, ?_⟩, nofun⟩
  rw [nothing]
  rfl

theorem arrive (follows : Follows limit pieces socket reports) (ongoing : socket.ended = false)
    (more : List Piece) : Follows limit (pieces ++ more) (socket.arrive more) reports := by
  have grown : socket.arrive more = { socket with pieces := socket.pieces ++ more } := by
    rw [Socket.arrive, ongoing]
    rfl
  rw [grown]
  refine ⟨fun going => ?_, fun halted => ?_⟩
  · obtain ⟨taken, octets, faults, kept⟩ := follows.reading going
    refine ⟨taken, ?_, ?_, kept⟩
    · cases failing : faultIn pieces with
      | some failure =>
          rw [Wire.octetsIn_append_of_some failing,
            Wire.octetsIn_append_of_some (faults ▸ failing), octets]
      | none =>
          rw [Wire.octetsIn_append_of_none failing,
            Wire.octetsIn_append_of_none (faults ▸ failing), octets, List.append_assoc]
    · rw [Wire.faultIn_append, Wire.faultIn_append, faults]
  · obtain ⟨settled, told⟩ := follows.stopped halted
    rw [ongoing] at settled told
    obtain ⟨stop, settled⟩ := Option.isSome_iff_exists.mp settled
    obtain ⟨still, same⟩ := reportsOf_arrival settled more
    change (stopOf limit socket.ended _).isSome ∧ _ = reportsOf limit socket.ended _
    rw [ongoing, still, same]
    exact ⟨rfl, told⟩

theorem finish (follows : Follows limit pieces socket reports) :
    Follows limit pieces socket.finish reports := by
  refine ⟨follows.reading, fun halted => ?_⟩
  obtain ⟨settled, told⟩ := follows.stopped halted
  obtain ⟨stop, settled⟩ := Option.isSome_iff_exists.mp settled
  have still := stopOf_ending settled
  change (stopOf limit true _).isSome ∧ _ = reportsOf limit true _
  rw [reportsOf, still]
  rw [reportsOf, settled] at told
  exact ⟨rfl, told⟩

/-- When its reader has run, a socket has reported what its stream calls for. -/
theorem read (follows : Follows limit pieces socket reports) :
    Follows limit pieces socket.read.1 (reports ++ socket.read.2) ∧
      reports ++ socket.read.2 = reportsOf limit socket.ended pieces := by
  cases halted : socket.reader.halted with
  | true =>
      rw [read_of_halted halted, List.append_nil]
      exact ⟨follows, (follows.stopped halted).2⟩
  | false =>
      obtain ⟨taken, octets, faults, begun, told⟩ := follows.reading halted
      obtain ⟨later, whole, gives⟩ := begun.run socket.ended socket.pieces
      have stops : closing socket.ended socket.pieces = closing socket.ended pieces := by
        rw [closing, ← faults]
        rfl
      rw [stops, ← octets] at gives
      rw [← octets] at whole
      change Follows limit pieces
        { socket with
          reader := (socket.reader.run socket.ended socket.pieces).reader
          pieces := (socket.reader.run socket.ended socket.pieces).rest }
        (reports ++ (socket.reader.run socket.ended socket.pieces).reports) ∧
        reports ++ (socket.reader.run socket.ended socket.pieces).reports = _
      generalize socket.reader.run socket.ended socket.pieces = reading at gives
      obtain ⟨frames, fault, halted, going⟩ := gives
      have all : reports ++ reading.reports = reportsOf limit socket.ended pieces := by
        rw [Reading.reports, frames, fault, told, reportsOf, whole, List.map_append,
          List.append_assoc]
        rfl
      refine ⟨⟨fun more => ?_, fun settled => ⟨halted ▸ settled, all⟩⟩, all⟩
      -- a reader that goes on has met neither a refusal nor the end of the stream
      have none : stopOf limit socket.ended pieces = none :=
        Option.isNone_iff_eq_none.mp (Option.isSome_eq_false_iff.mp (halted.symm.trans more))
      obtain ⟨sound, unclosed⟩ := Option.or_eq_none_iff.mp none
      obtain ⟨faultless, -⟩ := Option.or_eq_none_iff.mp unclosed
      obtain ⟨kept, left⟩ := going none
      refine ⟨octetsIn pieces, ?_, ?_, ⟨sound, congrArg Reader.frames kept,
        congrArg Reader.missing kept, more⟩, ?_⟩
      · rw [left]
        exact (List.append_nil _).symm
      · rw [left]
        exact Option.map_eq_none_iff.mp faultless
      · rw [all, reportsOf, none]
        exact List.append_nil _

/-- Each moment keeps a socket with its stream. -/
theorem meet (moments : List Moment) (moment : Moment) {state : Socket × List Report}
    (ended : state.1.ended = decide (.ending ∈ moments))
    (follows : Follows limit (delivered moments) state.1 state.2) :
    (Socket.meet state moment).1.ended = decide (.ending ∈ moments ++ [moment]) ∧
      Follows limit (delivered (moments ++ [moment])) (Socket.meet state moment).1
        (Socket.meet state moment).2 := by
  rw [delivered_append]
  cases moment with
  | arrival pieces =>
      have still : decide (Moment.ending ∈ moments ++ [.arrival pieces]) = state.1.ended := by
        simp [ended]
      rw [still]
      cases settled : state.1.ended with
      | true =>
          have idle : Socket.meet state (.arrival pieces) = state := by
            rw [Socket.meet, Socket.arrive, settled]
            rfl
          have past : Moment.ending ∈ moments := of_decide_eq_true (ended.symm.trans settled)
          rw [idle, if_pos past, List.append_nil]
          exact ⟨settled, follows⟩
      | false =>
          have ahead : Moment.ending ∉ moments := of_decide_eq_false (ended.symm.trans settled)
          have grown := follows.arrive settled pieces
          rw [if_neg ahead, delivered, delivered, List.append_nil]
          refine ⟨?_, grown⟩
          rw [Socket.meet, Socket.arrive, settled]
          rfl
  | ending =>
      have nothing : (if Moment.ending ∈ moments then [] else delivered [.ending]) = [] := by
        split <;> rfl
      have now : Moment.ending ∈ moments ++ [.ending] :=
        List.mem_append_right _ List.mem_cons_self
      rw [nothing, List.append_nil, decide_eq_true now]
      exact ⟨rfl, follows.finish⟩
  | reading =>
      have still : decide (Moment.ending ∈ moments ++ [.reading]) = state.1.ended := by
        simp [ended]
      have nothing : (if Moment.ending ∈ moments then [] else delivered [.reading]) = [] := by
        split <;> rfl
      rw [nothing, List.append_nil, still]
      exact ⟨rfl, follows.read.1⟩

/-- A socket stays with its stream through all moments. -/
theorem through (number generation : Nat) (limit : UInt32) (echo : Bool) (script : Link.Script)
    (moments : List Moment) :
    let state := (Socket.fresh number generation limit echo script).through moments
    state.1.ended = decide (.ending ∈ moments) ∧
      Follows limit (delivered moments) state.1 state.2 := by
  induction moments using List.reverseRecOn with
  | nil => exact ⟨rfl, fresh number generation limit echo script⟩
  | append_singleton moments moment ih =>
      obtain ⟨ended, follows⟩ := ih
      have next := meet moments moment ended follows
      rw [Socket.through, List.foldl_append]
      exact next

end Socket.Follows

/-- Whenever the reader of a socket has run, its reports are the frames of the bytes that have
arrived, in order, and behind them why reading stopped, if it did: the refusal of a header, or
else the failure or the end of the stream. -/
theorem Socket.reports_through (number generation : Nat) (limit : UInt32) (echo : Bool)
    (script : Link.Script) (moments : List Moment) :
    ∃ frames refusal, Framed limit (octetsIn (delivered moments)) frames refusal ∧
      ((Socket.fresh number generation limit echo script).through (moments ++ [.reading])).2 =
        frames.map .frame ++
          ((refusal.map .protocol).or
            (closing (decide (.ending ∈ moments)) (delivered moments))).toList.map
              .readFailed := by
  obtain ⟨frames, refusal, framed⟩ := Framed.exists_framed limit (octetsIn (delivered moments))
  obtain ⟨ended, follows⟩ := Follows.through number generation limit echo script moments
  obtain ⟨given, refused⟩ := framed.drain_eq
  refine ⟨frames, refusal, framed, ?_⟩
  rw [through, List.foldl_append, ← given, ← refused, ← ended]
  exact follows.read.2

end RequestMux.Network
