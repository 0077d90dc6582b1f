import Mathlib.Data.List.Flatten
import RequestMux.Proofs.Link.Streaming
import RequestMux.Proofs.Wire.Framing

/-!
# What goes into a frame buffer and what comes out

The owner of a frame buffer pushes bytes, reads from streams and asks for frames, in any order;
any of these may fail.  All bytes that went in come out again in frames, in their order, or are
still held, with one exception: a push that is refused for a header takes the complete frames in
front of it out of the buffer and gives them to nobody.
-/

namespace RequestMux.Wire

/-- What the owner of a frame buffer can do. -/
inductive Call where
  | push (octets : Bytes)
  | next
  /-- Read from a stream that has these pieces in store. -/
  | read (pieces : List Piece)
  deriving DecidableEq, Repr

/-- The bytes that are no longer on a stream. -/
def takenOff (pieces rest : List Piece) : Bytes :=
  (octetsIn pieces).take ((octetsIn pieces).length - (octetsIn rest).length)

/-- A frame buffer in use: what has been fed into it, and what its owner was given. -/
structure Usage where
  fed : Bytes
  given : List Packet
  buffer : FrameBuffer
  deriving DecidableEq, Repr

namespace Usage

def start (limit : UInt32) : Usage := ⟨[], [], .empty limit⟩

/-- Whoever pushes in vain is given nothing. -/
def call (usage : Usage) : Call → Usage
  | .push octets =>
    let pushed := usage.buffer.push octets
    ⟨usage.fed ++ octets, usage.given ++ pushed.1.toOption.getD [], pushed.2⟩
  | .next =>
    match usage.buffer.next? with
    | .ok (some (packet, rest)) => { usage with given := usage.given ++ [packet], buffer := rest }
    | _ => usage
  | .read pieces =>
    let read := usage.buffer.readFrom pieces
    { usage with fed := usage.fed ++ takenOff pieces read.2.2, buffer := read.2.1 }

/-- The usage after some calls, one after the other. -/
def after (usage : Usage) (calls : List Call) : Usage := calls.foldl call usage

end Usage

namespace FrameBuffer

variable {buffer : FrameBuffer}

/-- Whether a call takes complete frames out of the buffer and gives them to nobody: a push that
is refused behind them. -/
def Drops (buffer : FrameBuffer) (call : Call) : Prop :=
  ∃ octets fault, call = .push octets ∧ (buffer.push octets).1 = .error fault ∧
    ∃ packet rest, (buffer.append octets).next? = .ok (some (packet, rest))

theorem push_eq (buffer : FrameBuffer) (octets : Bytes) :
    buffer.push octets =
      ((buffer.append octets).drain.fault.elim
        (.ok (buffer.append octets).drain.frames) .error, (buffer.append octets).drain.buffer) := by
  unfold push
  dsimp only
  cases (buffer.append octets).drain.fault <;> rfl

/-- A read puts into the buffer what it took off the stream, whether it succeeds or fails. -/
theorem readFrom_buffer (buffer : FrameBuffer) (pieces : List Piece) :
    (buffer.readFrom pieces).2.1 =
      buffer.append (takenOff pieces (buffer.readFrom pieces).2.2) := by
  obtain ⟨filled, left⟩ : (buffer.readFrom pieces).2.1 =
        buffer.append (Intake.gather buffer.wanted pieces).octets ∧
      (buffer.readFrom pieces).2.2 = (Intake.gather buffer.wanted pieces).rest := by
    unfold readFrom
    dsimp only
    split <;> exact ⟨rfl, rfl⟩
  obtain ⟨whole, -⟩ := Intake.octetsIn_gather buffer.wanted pieces
  rw [filled, left, takenOff, whole, List.length_append, Nat.add_sub_cancel_right,
    List.take_left]

/-- What was drained once has nothing more to give. -/
theorem drain_drain (buffer : FrameBuffer) :
    buffer.drain.buffer.drain = ⟨[], buffer.drain.fault, buffer.drain.buffer⟩ := by
  have front := next?_drain buffer
  cases fault : buffer.drain.fault with
  | none =>
      rw [fault] at front
      exact drain_of_dry front
  | some violation =>
      rw [fault] at front
      exact drain_of_refused front

/-- Complete frames are in front just if draining gives some. -/
theorem drain_frames_eq_nil_iff :
    buffer.drain.frames = [] ↔ ¬∃ packet rest, buffer.next? = .ok (some (packet, rest)) := by
  constructor
  · rintro none ⟨packet, rest, given⟩
    rw [drain_of_next? given] at none
    cases none
  · intro none
    exact (drain_of_not fun packet rest given => none ⟨packet, rest, given⟩).1

/-- A push drops what it is refused behind. -/
theorem drops_push_iff {octets : Bytes} :
    buffer.Drops (.push octets) ↔
      (buffer.append octets).drain.fault.isSome ∧ (buffer.append octets).drain.frames ≠ [] := by
  have refused : (∃ fault, (buffer.push octets).1 = .error fault) ↔
      (buffer.append octets).drain.fault.isSome = true := by
    rw [push_eq]
    cases (buffer.append octets).drain.fault with
    | none => exact ⟨nofun, nofun⟩
    | some fault => exact ⟨fun _ => rfl, fun _ => ⟨fault, rfl⟩⟩
  rw [← refused, ne_eq, drain_frames_eq_nil_iff, not_not]
  constructor
  · rintro ⟨_, fault, ⟨⟩, vain, front⟩
    exact ⟨⟨fault, vain⟩, front⟩
  · rintro ⟨⟨fault, vain⟩, front⟩
    exact ⟨octets, fault, rfl, vain, front⟩

end FrameBuffer

namespace Usage

/-- Whether none of some calls drops frames. -/
def IsThrifty (usage : Usage) : List Call → Prop
  | [] => True
  | call :: later => ¬usage.buffer.Drops call ∧ (usage.call call).IsThrifty later

/-- The frames that have left the buffer are the first of all that has been fed into it, and its
owner was given all of them just if a condition holds. -/
structure HasSplit (limit : UInt32) (usage : Usage) (frames : List Packet) (thrifty : Prop) :
    Prop where
  drained : (FrameBuffer.mk usage.fed limit).drain =
    { usage.buffer.drain with frames := frames ++ usage.buffer.drain.frames }
  given : usage.given.Sublist frames
  all : usage.given = frames ↔ thrifty

variable {limit : UInt32} {usage : Usage} {frames : List Packet} {thrifty : Prop}

theorem HasSplit.start (limit : UInt32) : (start limit).HasSplit limit [] True where
  drained := rfl
  given := .refl _
  all := ⟨fun _ => trivial, fun _ => rfl⟩

/-- Bytes that come later are behind all the others, whether these are still held or not. -/
theorem HasSplit.drain_append (split : usage.HasSplit limit frames thrifty) (octets : Bytes) :
    (FrameBuffer.mk (usage.fed ++ octets) limit).drain =
      { (usage.buffer.append octets).drain with
        frames := frames ++ (usage.buffer.append octets).drain.frames } := by
  have whole := (FrameBuffer.mk usage.fed limit).drain_append_eq octets
  rw [split.drained] at whole
  rw [usage.buffer.drain_append_eq octets]
  refine whole.trans ?_
  dsimp only
  rw [List.append_assoc]

/-- Frames that leave the buffer are given to the owner, or dropped. -/
theorem HasSplit.leave {later : Usage} {more given : List Packet} {gentle : Prop}
    (split : usage.HasSplit limit frames thrifty)
    (drained : (FrameBuffer.mk later.fed limit).drain =
      { later.buffer.drain with frames := frames ++ more ++ later.buffer.drain.frames })
    (handed : later.given = usage.given ++ given) (some : given.Sublist more)
    (kept : given = more ↔ gentle) :
    later.HasSplit limit (frames ++ more) (thrifty ∧ gentle) where
  drained := drained
  given := handed ▸ split.given.append some
  all := by
    rw [handed]
    refine ⟨fun same => ?_, fun ⟨front, back⟩ => ?_⟩
    · have first := split.given.length_le
      have second := some.length_le
      have total := congrArg List.length same
      rw [List.length_append, List.length_append] at total
      obtain ⟨front, back⟩ := List.append_inj same (by omega)
      exact ⟨split.all.mp front, kept.mp back⟩
    · rw [split.all.mpr front, kept.mpr back]

/-- Every call lets some frames leave the buffer, and drops them or gives them to the owner. -/
theorem HasSplit.call (split : usage.HasSplit limit frames thrifty) (call : Call) :
    ∃ more, (usage.call call).HasSplit limit (frames ++ more)
      (thrifty ∧ ¬usage.buffer.Drops call) := by
  cases call with
  | push octets =>
      refine ⟨(usage.buffer.append octets).drain.frames, ?_⟩
      have pushed := usage.buffer.push_eq octets
      have whole := split.drain_append octets
      have drops : usage.buffer.Drops (.push octets) ↔ _ := FrameBuffer.drops_push_iff
      have again := (usage.buffer.append octets).drain_drain
      generalize (usage.buffer.append octets).drain = drained at pushed whole drops again ⊢
      refine split.leave ?_ rfl ?_ ?_
      · change (FrameBuffer.mk (usage.fed ++ octets) limit).drain =
          { (usage.buffer.push octets).2.drain with
            frames := frames ++ drained.frames ++ (usage.buffer.push octets).2.drain.frames }
        rw [whole, pushed, again, List.append_nil]
      · rw [pushed]
        cases drained.fault with
        | none => exact .refl _
        | some fault => exact List.nil_sublist _
      · rw [pushed, drops]
        cases drained.fault with
        | none => simp [Except.toOption]
        | some fault => simp [Except.toOption, eq_comm]
  | next =>
      have kept : ¬usage.buffer.Drops .next := by rintro ⟨_, _, ⟨⟩, -⟩
      by_cases front : ∃ packet rest, usage.buffer.next? = .ok (some (packet, rest))
      · obtain ⟨packet, rest, given⟩ := front
        have next : usage.call .next = ⟨usage.fed, usage.given ++ [packet], rest⟩ := by
          simp only [Usage.call, given]
        have drained := split.drained
        rw [FrameBuffer.drain_of_next? given] at drained
        rw [next]
        refine ⟨[packet], split.leave ?_ rfl (.refl _) (iff_of_true rfl kept)⟩
        rw [List.append_assoc]
        exact drained
      · have next : usage.call .next = usage := by
          simp only [Usage.call]
          split
          · next packet rest given => exact absurd ⟨packet, rest, given⟩ front
          · rfl
        rw [next]
        refine ⟨[], split.leave ?_ (List.append_nil _).symm (.refl _) (iff_of_true rfl kept)⟩
        rw [List.append_nil]
        exact split.drained
  | read pieces =>
      have kept : ¬usage.buffer.Drops (.read pieces) := by rintro ⟨_, _, ⟨⟩, -⟩
      refine ⟨[], split.leave ?_ (List.append_nil _).symm (.refl _) (iff_of_true rfl kept)⟩
      have filled := usage.buffer.readFrom_buffer pieces
      change (FrameBuffer.mk (usage.fed ++ takenOff pieces _) limit).drain =
        { (usage.buffer.readFrom pieces).2.1.drain with
          frames := frames ++ [] ++ (usage.buffer.readFrom pieces).2.1.drain.frames }
      rw [split.drain_append, List.append_nil, filled]

/-- Calls give the owner all frames that leave the buffer just if none of them drops any. -/
theorem HasSplit.after (split : usage.HasSplit limit frames thrifty) (calls : List Call) :
    ∃ more, (usage.after calls).HasSplit limit (frames ++ more)
      (thrifty ∧ usage.IsThrifty calls) := by
  induction calls generalizing usage frames thrifty with
  | nil =>
      refine ⟨[], ?_⟩
      rw [List.append_nil, IsThrifty, and_true]
      exact split
  | cons call later ih =>
      obtain ⟨first, split⟩ := split.call call
      obtain ⟨more, split⟩ := ih split
      refine ⟨first ++ more, ?_⟩
      rw [← List.append_assoc, IsThrifty, ← and_assoc]
      exact split

/-- All that was fed is in the frames that left the buffer, and in what it still holds. -/
theorem HasSplit.whole (split : usage.HasSplit limit frames thrifty) :
    frames.flatMap Packet.data ++ usage.buffer.held = usage.fed ∧
      ∀ packet ∈ frames, Packet.ofFrame packet.data = .ok packet := by
  obtain ⟨fed, -, proper⟩ := (FrameBuffer.mk usage.fed limit).drain_whole
  obtain ⟨held, -, -⟩ := usage.buffer.drain_whole
  rw [split.drained] at fed proper
  refine ⟨?_, fun packet member => proper packet (List.mem_append_left _ member)⟩
  rw [← held, ← List.append_assoc, ← List.flatMap_append]
  exact fed

/-- Frames without some of them have fewer bytes. -/
theorem eq_of_sublist {given frames : List Packet} (some : given.Sublist frames)
    (proper : ∀ packet ∈ frames, Packet.ofFrame packet.data = .ok packet)
    (same : given.flatMap Packet.data = frames.flatMap Packet.data) : given = frames := by
  induction some with
  | slnil => rfl
  | @cons given frames packet some ih =>
      have fewer : (given.flatMap Packet.data).length ≤ (frames.flatMap Packet.data).length :=
        (some.flatMap Packet.data).length_le
      obtain ⟨header, -, sized, -⟩ :=
        Packet.ofFrame_eq_ok_iff.mp (proper packet List.mem_cons_self)
      rw [same, List.flatMap_cons, List.length_append, ← sized, Header.frameSize,
        Header.size] at fewer
      omega
  | @cons_cons given frames packet some ih =>
      have later := List.append_cancel_left same
      rw [ih (fun other member => proper other (List.mem_cons_of_mem _ member)) later]

end Usage

namespace FrameBuffer

/-- A frame that one octet completes is the last thing in the buffer. -/
theorem not_drops_octet (buffer : FrameBuffer) (octet : UInt8) (dry : buffer.drain.frames = []) :
    ¬buffer.Drops (.push [octet]) := by
  rintro ⟨_, fault, ⟨⟩, refused, packet, rest, given⟩
  obtain ⟨header, leads, fits, full, -, rfl⟩ := next?_eq_some given
  have length : (buffer.append [octet]).held.length = buffer.held.length + 1 :=
    List.length_append
  by_cases before : header.frameSize ≤ buffer.held.length
  · -- the frame was complete without the octet
    refine drain_frames_eq_nil_iff.mp dry ?_
    have here : Header.decode? buffer.held = some header := by
      cases found : Header.decode? buffer.held with
      | none =>
          have few := Header.decode?_eq_none_iff.mp found
          have size : Header.size ≤ header.frameSize := Nat.le_add_right _ _
          omega
      | some other => exact (Header.decode?_append found [octet]).symm.trans leads
    have admitted : header.excess? buffer.limit = none := fits
    simp only [next?, here, admitted, List.splitAt_eq, List.length_take_of_le before, if_true]
    exact ⟨_, _, rfl⟩
  · have nothing : { buffer.append [octet] with
        held := (buffer.append [octet]).held.drop header.frameSize } = empty buffer.limit :=
      congrArg (FrameBuffer.mk · buffer.limit) (List.drop_eq_nil_of_le (by omega))
    rw [push_eq, drain_of_next? given, nothing, drain_empty] at refused
    cases refused

end FrameBuffer

/-- Octet by octet, nothing is dropped. -/
theorem Usage.isThrifty_octets {usage : Usage} (dry : usage.buffer.drain.frames = [])
    (octets : Bytes) : usage.IsThrifty (octets.map fun octet => .push [octet]) := by
  induction octets generalizing usage with
  | nil => trivial
  | cons octet later ih =>
      refine ⟨usage.buffer.not_drops_octet octet dry, ih ?_⟩
      have pushed : (usage.call (.push [octet])).buffer =
          (usage.buffer.append [octet]).drain.buffer :=
        congrArg Prod.snd (usage.buffer.push_eq [octet])
      rw [pushed, FrameBuffer.drain_drain]

/-- After any calls, what the owner of a frame buffer was given are whole frames of what was fed,
in their order, and all other bytes are still held, but for the frames that were dropped; so no
byte is lost exactly as long as no push is refused behind a complete frame.  The same bytes pushed
one by one lose nothing. -/
theorem FrameBuffer.bytes_are_kept (limit : UInt32) (calls : List Call) :
    let usage := (Usage.start limit).after calls
    (usage.given.flatMap Packet.data ++ usage.buffer.held = usage.fed ↔
        (Usage.start limit).IsThrifty calls) ∧
      (∃ frames, usage.given.Sublist frames ∧
        frames.flatMap Packet.data ++ usage.buffer.held = usage.fed ∧
        ∀ packet ∈ frames, Packet.ofFrame packet.data = .ok packet) ∧
      (Usage.start limit).IsThrifty (usage.fed.map fun octet => .push [octet]) := by
  intro usage
  obtain ⟨frames, split⟩ := (Usage.HasSplit.start limit).after calls
  rw [List.nil_append, true_and] at split
  obtain ⟨whole, proper⟩ := split.whole
  refine ⟨⟨fun kept => ?_, fun thrifty => ?_⟩, ⟨frames, split.given, whole, proper⟩, ?_⟩
  · refine split.all.mp (Usage.eq_of_sublist split.given proper ?_)
    exact List.append_cancel_right (kept.trans whole.symm)
  · rw [split.all.mpr thrifty]
    exact whole
  · exact Usage.isThrifty_octets (congrArg Drained.frames (drain_empty limit)) usage.fed

/-- A frame that is pushed together with a header that is refused is lost; pushed before it, the
frame is given out. -/
theorem FrameBuffer.frame_is_lost_in_front_of_refused_header :
    let frame := (Header.mk 1 0 7).encode
    let refused := (Header.mk 2 5 8).encode
    let together := (Usage.start 4).after [.push (frame ++ refused)]
    let apart := (Usage.start 4).after [.push frame, .push refused]
    together.fed = frame ++ refused ∧ together.given = [] ∧ together.buffer.held = refused ∧
      together.given.flatMap Packet.data ++ together.buffer.held ≠ together.fed ∧
      apart.fed = frame ++ refused ∧ apart.given.map Packet.data = [frame] ∧
      apart.buffer.held = refused := by
  decide +kernel

end RequestMux.Wire
