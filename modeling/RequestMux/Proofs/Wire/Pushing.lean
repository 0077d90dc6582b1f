import RequestMux.Proofs.Wire.Splitting

/-!
# Chunks pushed through a frame buffer

A frame that is pushed in chunks comes out with the chunk that completes it, and
nothing comes out before.
-/

namespace RequestMux.Wire

namespace FrameBuffer

/-- Push chunks one after another; each push gives its own answer. -/
def pushAll (buffer : FrameBuffer) :
    List Bytes → List (Except ClientError (List Packet)) × FrameBuffer
  | [] => ([], buffer)
  | chunk :: chunks =>
    let pushed := buffer.push chunk
    let later := pushed.2.pushAll chunks
    (pushed.1 :: later.1, later.2)

/-- Pushing the chunks gives this one packet, with the last chunk that is not empty, and leaves
nothing behind. -/
def GivesOnce (buffer : FrameBuffer) (chunks : List Bytes) (packet : Packet) : Prop :=
  ∃ front last back,
    chunks = front ++ last :: back ∧ last ≠ [] ∧ (∀ chunk ∈ back, chunk = []) ∧
    buffer.pushAll chunks =
      (front.map (fun _ => .ok []) ++ .ok [packet] :: back.map (fun _ => .ok []),
        empty buffer.limit)

variable {buffer : FrameBuffer} {limit : UInt32} {header : Header} {frame octets : Bytes}
  {chunks : List Bytes}

theorem push_of_dry {chunk : Bytes} (dry : (buffer.append chunk).next? = .ok none) :
    buffer.push chunk = (.ok [], buffer.append chunk) := by
  simp only [push, drain_of_dry dry]

/-- Pushing nothing into a buffer that holds nothing gives nothing. -/
theorem pushAll_of_empty (empties : ∀ chunk ∈ chunks, chunk = []) :
    (empty limit).pushAll chunks = (chunks.map fun _ => .ok [], empty limit) := by
  induction chunks with
  | nil => rfl
  | cons chunk chunks ih =>
      obtain ⟨rfl, later⟩ := List.forall_mem_cons.mp empties
      have pushed : (empty limit).push [] = (.ok [], empty limit) := push_of_dry rfl
      simp only [pushAll, pushed, ih later, List.map_cons]

/-- A part of a frame is not given out. -/
theorem next?_of_part (leads : Header.decode? frame = some header)
    (sized : header.frameSize = frame.length) (fits : header.excess? limit = none)
    {more : Bytes} (part : octets ++ more = frame) (missing : more ≠ []) :
    (FrameBuffer.mk octets limit).next? = .ok none := by
  have short : octets.length < frame.length := by
    have rest : 0 < more.length := List.length_pos_iff.mpr missing
    rw [← part, List.length_append]
    omega
  cases found : Header.decode? octets with
  | none => simp only [next?, found]
  | some other =>
      have same : other = header :=
        Option.some.inj ((Header.decode?_append found more).symm.trans (part ▸ leads))
      exact (next?_eq_dry_iff found).mpr ⟨same ▸ fits, same ▸ sized ▸ short⟩

/-- A whole frame is given out, and nothing of it stays behind. -/
theorem push_of_whole (leads : Header.decode? frame = some header)
    (sized : header.frameSize = frame.length) (fits : header.excess? limit = none)
    {chunk : Bytes} (whole : octets ++ chunk = frame) :
    (FrameBuffer.mk octets limit).push chunk =
      (.ok [Packet.ofParts header frame], empty limit) := by
  have given : ((FrameBuffer.mk octets limit).append chunk).next? =
      .ok (some (Packet.ofParts header frame, empty limit)) := by
    simp only [next?, append, whole, leads, fits, List.splitAt_eq, sized, List.take_length,
      List.drop_length, if_true]
    rfl
  simp only [push, drain_of_next? given, drain_empty]

/-- A frame cut into chunks comes out with the last of them that is not empty. -/
theorem givesOnce_frame (leads : Header.decode? frame = some header)
    (sized : header.frameSize = frame.length) (fits : header.excess? limit = none)
    (part : octets ++ chunks.flatten = frame) (missing : chunks.flatten ≠ []) :
    (FrameBuffer.mk octets limit).GivesOnce chunks (Packet.ofParts header frame) := by
  induction chunks generalizing octets with
  | nil => exact absurd rfl missing
  | cons chunk chunks ih =>
      rw [List.flatten_cons, ← List.append_assoc] at part
      -- this is the last chunk that is not empty if the others bring nothing
      by_cases later : chunks.flatten = []
      · have whole : octets ++ chunk = frame := by rw [← part, later, List.append_nil]
        have filled : chunk ≠ [] := by
          rintro rfl
          exact missing later
        have empties : ∀ other ∈ chunks, other = [] := List.flatten_eq_nil_iff.mp later
        refine ⟨[], chunk, chunks, rfl, filled, empties, ?_⟩
        simp only [pushAll, push_of_whole leads sized fits whole, pushAll_of_empty empties]
        rfl
      · obtain ⟨front, last, back, cut, filled, empties, pushed⟩ := ih part later
        have dry : (FrameBuffer.mk (octets ++ chunk) limit).next? = .ok none :=
          next?_of_part leads sized fits part later
        have first : (FrameBuffer.mk octets limit).push chunk =
            (.ok [], FrameBuffer.mk (octets ++ chunk) limit) := push_of_dry dry
        refine ⟨chunk :: front, last, back, congrArg (chunk :: ·) cut, filled, empties, ?_⟩
        simp only [pushAll, first, pushed, List.map_cons, List.cons_append]

end FrameBuffer

end RequestMux.Wire
