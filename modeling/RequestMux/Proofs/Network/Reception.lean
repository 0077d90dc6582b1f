import Mathlib.Data.List.TakeWhile
import RequestMux.Proofs.Link.Reading
import RequestMux.Proofs.Network.Scene

/-!
# What sockets receive

The record tells which bytes have arrived on a socket.  Its reader gives out the frames of
these bytes in order, and no frame of it twice.
-/

namespace RequestMux.Network

open Client (Effect Time)
open Link (Reader Reading)
open Wire (Packet Piece framesIn octetsIn octetsIn_chunks)

def Sight.arrivedOn (number : Nat) : Sight → List Piece
  | .arrived socket pieces => if socket = number then pieces else []
  | _ => []

/-- What has arrived on a socket before the peer closed its side. -/
def arrivedOn (number : Nat) (record : List Sight) : List Piece :=
  (record.takeWhile fun sight => sight != .ended number).flatMap (Sight.arrivedOn number)

/-- The bytes that arrived on a socket, up to a failure of its stream. -/
def receivedOn (number : Nat) (record : List Sight) : Bytes := octetsIn (arrivedOn number record)

section Arrivals

variable {number : Nat} {record more : List Sight}

theorem arrivedOn_append (going : .ended number ∉ record) :
    arrivedOn number (record ++ more) = arrivedOn number record ++ arrivedOn number more := by
  have goesOn : ∀ sight ∈ record, (sight != Sight.ended number) = true := by
    intro sight member
    exact bne_iff_ne.mpr fun same => going (same ▸ member)
  unfold arrivedOn
  rw [List.takeWhile_append_of_pos goesOn, List.flatMap_append, List.takeWhile_eq_self_iff.mpr goesOn]

theorem arrivedOn_append_of_ended (ended : .ended number ∈ record) :
    arrivedOn number (record ++ more) = arrivedOn number record := by
  obtain ⟨before, after, rfl⟩ := List.append_of_mem ended
  unfold arrivedOn
  rw [List.append_assoc, List.cons_append]
  induction before with
  | nil => simp
  | cons sight rest ih =>
      by_cases last : sight = .ended number
      · simp [last]
      · have goesOn : (sight != Sight.ended number) = true := bne_iff_ne.mpr last
        simp only [List.cons_append, List.takeWhile_cons, goesOn, if_true, List.flatMap_cons]
        rw [ih (List.mem_append_right rest List.mem_cons_self)]

theorem arrivedOn_append_of_silent (silent : arrivedOn number more = []) :
    arrivedOn number (record ++ more) = arrivedOn number record := by
  by_cases ended : .ended number ∈ record
  · exact arrivedOn_append_of_ended ended
  · rw [arrivedOn_append ended, silent, List.append_nil]

end Arrivals

/-- Sights that tell nothing about what sockets receive. -/
def AreDeaf (sights : List Sight) : Prop :=
  ∀ sight ∈ sights, (∀ number, sight.arrivedOn number = []) ∧ ∀ number, sight ≠ .ended number

theorem AreDeaf.nil : AreDeaf [] := nofun

theorem AreDeaf.cons {sight : Sight} {sights : List Sight}
    (arrived : ∀ number, sight.arrivedOn number = []) (goes : ∀ number, sight ≠ .ended number)
    (deaf : AreDeaf sights) : AreDeaf (sight :: sights) := by
  intro other member
  rcases List.mem_cons.mp member with rfl | later
  · exact ⟨arrived, goes⟩
  · exact deaf other later

theorem AreDeaf.arrivedOn {sights : List Sight} (deaf : AreDeaf sights) (number : Nat) :
    Network.arrivedOn number sights = [] := by
  refine List.flatMap_eq_nil_iff.mpr fun sight member => ?_
  exact (deaf sight ((List.takeWhile_sublist _).subset member)).1 number

/-- What the reader of a socket works on. -/
structure Stream where
  reader : Reader
  pieces : List Piece
  ended : Bool

def Socket.stream (socket : Socket) : Stream := ⟨socket.reader, socket.pieces, socket.ended⟩

namespace Stream

def fresh (limit : UInt32) : Stream := ⟨.start limit, [], false⟩

def arrive (pieces : List Piece) (stream : Stream) : Stream :=
  if stream.ended then stream else { stream with pieces := stream.pieces ++ pieces }

def finish (stream : Stream) : Stream := { stream with ended := true }

theorem arrive_nil (stream : Stream) : stream.arrive [] = stream := by
  unfold arrive
  split
  · rfl
  · exact congrArg (Stream.mk _ · _) (List.append_nil _)

def reading (stream : Stream) : Reading := stream.reader.run stream.ended stream.pieces

def read (stream : Stream) : Stream :=
  { stream with reader := stream.reading.reader, pieces := stream.reading.rest }

/-- Whether packets are frames that the reader gave out, in their order: with those that are
still to come, they are frames of the whole stream. -/
structure Gives (limit : UInt32) (arrived : List Piece) (packets : List Packet) (stream : Stream) :
    Prop where
  same : stream.reader.frames.limit = limit
  cut : ∃ taken : List Bytes, arrived = taken.map .chunk ++ stream.pieces ∧
    ∀ future, (packets ++ framesIn limit (stream.reader.frames.held ++ future)).Sublist
      (framesIn limit (taken.flatten ++ future))

namespace Gives

variable {limit : UInt32} {arrived : List Piece} {packets fewer : List Packet} {stream : Stream}

theorem fresh (limit : UInt32) : (Stream.fresh limit).Gives limit [] [] :=
  ⟨rfl, [], rfl, fun _ => .refl _⟩

theorem mono (gives : stream.Gives limit arrived packets) (less : fewer.Sublist packets) :
    stream.Gives limit arrived fewer := by
  obtain ⟨same, taken, whole, cut⟩ := gives
  exact ⟨same, taken, whole, fun future => (less.append_right _).trans (cut future)⟩

theorem append (gives : stream.Gives limit arrived packets) (pieces : List Piece) :
    ({ stream with pieces := stream.pieces ++ pieces } : Stream).Gives limit (arrived ++ pieces)
      packets := by
  obtain ⟨same, taken, whole, cut⟩ := gives
  refine ⟨same, taken, ?_, cut⟩
  rw [whole, List.append_assoc]

/-- A reader gives out the next frames. -/
theorem read (gives : stream.Gives limit arrived packets) :
    stream.read.Gives limit arrived (packets ++ stream.reading.frames) := by
  obtain ⟨rfl, taken, whole, cut⟩ := gives
  obtain ⟨more, left, same, next⟩ := stream.reader.run_isOf stream.ended stream.pieces
  refine ⟨same, taken ++ more, ?_, fun future => ?_⟩
  · rw [whole, left, List.map_append, List.append_assoc]
    rfl
  · have later := cut (more.flatten ++ future)
    rw [← List.append_assoc, next, ← List.append_assoc, ← List.append_assoc] at later
    rw [List.flatten_append]
    exact later

/-- Packets that a reader gave out are frames of what has arrived. -/
theorem sublist (gives : stream.Gives limit arrived packets) :
    packets.Sublist (framesIn limit (octetsIn arrived)) := by
  obtain ⟨-, taken, whole, cut⟩ := gives
  rw [whole, octetsIn_chunks]
  exact (List.sublist_append_left packets _).trans (cut (octetsIn stream.pieces))

end Gives

end Stream

theorem Socket.stream_arrive (socket : Socket) (pieces : List Piece) :
    (socket.arrive pieces).stream = socket.stream.arrive pieces := by
  unfold Socket.arrive
  split
  · next ended => exact (if_pos ended).symm
  · next going => exact (if_neg going).symm

/-- The streams of all sockets, as the record tells them, with packets that their readers have
given out. -/
structure Reception (limit : UInt32) (packets : Nat → List Packet) (streams : List Stream)
    (record : List Sight) : Prop where
  gives : ∀ (number : Nat) (stream : Stream), streams[number]? = some stream →
    stream.Gives limit (arrivedOn number record) (packets number)
  ended : ∀ (number : Nat) (stream : Stream), streams[number]? = some stream →
    (stream.ended = true ↔ .ended number ∈ record)
  unborn : ∀ number, streams.length ≤ number →
    arrivedOn number record = [] ∧ .ended number ∉ record

namespace Reception

variable {limit : UInt32} {packets fewer : Nat → List Packet} {streams : List Stream}
  {record : List Sight}

theorem mono (reception : Reception limit packets streams record)
    (less : ∀ (number : Nat) (stream : Stream), streams[number]? = some stream →
      (fewer number).Sublist (packets number)) :
    Reception limit fewer streams record :=
  ⟨fun number stream there => (reception.gives number stream there).mono (less number stream there),
    reception.ended, reception.unborn⟩

theorem note (reception : Reception limit packets streams record) {sights : List Sight}
    (deaf : AreDeaf sights) : Reception limit packets streams (record ++ sights) := by
  have arrived (number : Nat) : arrivedOn number (record ++ sights) = arrivedOn number record :=
    arrivedOn_append_of_silent (deaf.arrivedOn number)
  have still (number : Nat) : .ended number ∈ record ++ sights ↔ .ended number ∈ record := by
    refine ⟨fun member => ?_, List.mem_append_left sights⟩
    exact (List.mem_append.mp member).resolve_right fun new => (deaf _ new).2 number rfl
  constructor
  case gives =>
    intro number stream there
    rw [arrived]
    exact reception.gives number stream there
  case ended =>
    intro number stream there
    rw [still]
    exact reception.ended number stream there
  case unborn =>
    intro number beyond
    rw [arrived, still]
    exact reception.unborn number beyond

theorem push (reception : Reception limit packets streams record)
    (none : packets streams.length = []) :
    Reception limit packets (streams ++ [.fresh limit]) record := by
  obtain ⟨nothing, going⟩ := reception.unborn streams.length (Nat.le_refl _)
  constructor
  case gives =>
    intro number stream there
    rcases of_push there with old | ⟨rfl, rfl⟩
    · exact reception.gives number stream old
    · rw [nothing, none]
      exact .fresh limit
  case ended =>
    intro number stream there
    rcases of_push there with old | ⟨rfl, rfl⟩
    · exact reception.ended number stream old
    · exact ⟨nofun, fun member => absurd member going⟩
  case unborn =>
    intro number beyond
    rw [List.length_append] at beyond
    exact reception.unborn number (Nat.le_of_add_right_le beyond)

variable {number : Nat} {stream : Stream}

theorem arrive (reception : Reception limit packets streams record)
    (there : streams[number]? = some stream) (pieces : List Piece) :
    Reception limit packets (streams.modify number (Stream.arrive pieces))
      (record ++ [.arrived number pieces]) := by
  have endless (place : Nat) :
      .ended place ∈ record ++ [.arrived number pieces] ↔ .ended place ∈ record := by
    simp
  have elsewhere {place : Nat} (differs : place ≠ number) :
      arrivedOn place (record ++ [.arrived number pieces]) = arrivedOn place record := by
    refine arrivedOn_append_of_silent ?_
    simp [arrivedOn, Sight.arrivedOn, Ne.symm differs]
  constructor
  case gives =>
    intro place other here
    obtain ⟨prior, old, ⟨rfl, rfl⟩ | ⟨differs, rfl⟩⟩ := of_modify here
    · have given := reception.gives place prior old
      unfold Stream.arrive
      split
      · next ended =>
          rw [arrivedOn_append_of_ended ((reception.ended place prior old).mp ended)]
          exact given
      · next going =>
          rw [arrivedOn_append fun ended => going ((reception.ended place prior old).mpr ended)]
          have new : arrivedOn place [.arrived place pieces] = pieces := by
            simp [arrivedOn, Sight.arrivedOn]
          rw [new]
          exact given.append pieces
    · rw [elsewhere differs]
      exact reception.gives place other old
  case ended =>
    intro place other here
    rw [endless]
    obtain ⟨prior, old, ⟨rfl, rfl⟩ | ⟨-, rfl⟩⟩ := of_modify here
    · rw [← reception.ended place prior old]
      unfold Stream.arrive
      split <;> rfl
    · exact reception.ended place other old
  case unborn =>
    intro place beyond
    rw [List.length_modify] at beyond
    have differs : place ≠ number := by
      rintro rfl
      exact Nat.not_le_of_lt (List.getElem?_eq_some_iff.mp there).1 beyond
    rw [endless, elsewhere differs]
    exact reception.unborn place beyond

theorem finish (reception : Reception limit packets streams record)
    (there : streams[number]? = some stream) :
    Reception limit packets (streams.modify number Stream.finish) (record ++ [.ended number]) := by
  have arrived (place : Nat) : arrivedOn place (record ++ [.ended number]) = arrivedOn place record := by
    refine arrivedOn_append_of_silent ?_
    by_cases here : number = place
    · simp [arrivedOn, here]
    · simp [arrivedOn, here, Sight.arrivedOn]
  constructor
  case gives =>
    intro place other here
    rw [arrived]
    obtain ⟨prior, old, ⟨-, rfl⟩ | ⟨-, rfl⟩⟩ := of_modify here
    · obtain ⟨same, cut⟩ := reception.gives place prior old
      exact ⟨same, cut⟩
    · exact reception.gives place other old
  case ended =>
    intro place other here
    obtain ⟨prior, old, ⟨rfl, rfl⟩ | ⟨differs, rfl⟩⟩ := of_modify here
    · exact ⟨fun _ => List.mem_append_right record List.mem_cons_self, fun _ => rfl⟩
    · rw [reception.ended place other old]
      simp [differs]
  case unborn =>
    intro place beyond
    rw [List.length_modify] at beyond
    have differs : place ≠ number := by
      rintro rfl
      exact Nat.not_le_of_lt (List.getElem?_eq_some_iff.mp there).1 beyond
    rw [arrived]
    obtain ⟨nothing, going⟩ := reception.unborn place beyond
    exact ⟨nothing, by simp [going, differs]⟩

/-- The frames that a reader gives out come behind those it gave before. -/
theorem read (reception : Reception limit packets streams record)
    (there : streams[number]? = some stream) (more : Nat → List Packet)
    (here : more number = stream.reading.frames)
    (elsewhere : ∀ place, place ≠ number → more place = []) :
    Reception limit (fun place => packets place ++ more place) (streams.modify number Stream.read)
      record := by
  constructor
  case gives =>
    intro place other now
    obtain ⟨prior, old, ⟨rfl, rfl⟩ | ⟨differs, rfl⟩⟩ := of_modify now
    · cases there.symm.trans old
      rw [here]
      exact (reception.gives place stream there).read
    · rw [elsewhere place differs, List.append_nil]
      exact reception.gives place other old
  case ended =>
    intro place other now
    obtain ⟨prior, old, ⟨-, rfl⟩ | ⟨-, rfl⟩⟩ := of_modify now
    · exact reception.ended place prior old
    · exact reception.ended place other old
  case unborn =>
    intro place beyond
    rw [List.length_modify] at beyond
    exact reception.unborn place beyond

end Reception

end RequestMux.Network
