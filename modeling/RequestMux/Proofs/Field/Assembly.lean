import Mathlib.Data.List.Basic
import RequestMux.Proofs.Field.RoundTrip

/-!
# Packets put together step by step

Each call on a packer adds octets of its own behind those that are there, in a form that depends on
the flags set last before it.  The header is filled in at the end, from the length that has come
about, so that what leaves a packer is always one frame.  A frame is any byte string whose second
word counts what follows its first twelve octets.
-/

namespace RequestMux

namespace Wire

variable {header : Header} {frame : Bytes} {packet : Packet}

theorem Header.length_of_decode? (found : decode? frame = some header) : size ≤ frame.length := by
  by_contra few
  rw [decode?_eq_none_iff.mpr (Nat.lt_of_not_le few)] at found
  cases found

/-- The second word of a header counts the octets of the payload. -/
theorem Header.len_of_decode? (found : decode? frame = some header) :
    header.len.toNat = Bytes.toWord ((frame.drop 4).take 4) := by
  obtain ⟨rest, rfl⟩ := eq_encode_of_decode? found
  have four (value : Nat) : (Bytes.ofWord 4 value).length = 4 := Bytes.length_ofWord 4 value
  have word : ((header.encode ++ rest).drop 4).take 4 = Bytes.ofWord 4 header.len.toNat := by
    rw [encode, List.append_assoc, List.append_assoc, List.drop_left' (four _),
      List.take_left' (four _)]
  have small : header.len.toNat < 256 ^ 4 := header.len.toNat_lt
  rw [word, Bytes.toWord_ofWord, Nat.mod_eq_of_lt small]

/-- The frames that there are. -/
theorem Packet.exists_ofFrame_iff :
    (∃ packet, ofFrame frame = .ok packet) ↔
      Header.size ≤ frame.length ∧
        Bytes.toWord ((frame.drop 4).take 4) = frame.length - Header.size := by
  constructor
  · rintro ⟨packet, built⟩
    obtain ⟨header, found, sized, -⟩ := ofFrame_eq_ok_iff.mp built
    have counted := Header.len_of_decode? found
    refine ⟨Header.length_of_decode? found, ?_⟩
    rw [Header.frameSize] at sized
    omega
  · rintro ⟨enough, counts⟩
    cases found : Header.decode? frame with
    | none => exact absurd (Header.decode?_eq_none_iff.mp found) (Nat.not_lt.mpr enough)
    | some header =>
        have counted := Header.len_of_decode? found
        refine ⟨_, ofFrame_eq_ok_iff.mpr ⟨header, found, ?_, rfl⟩⟩
        rw [Header.frameSize]
        omega

theorem Packet.of_ofFrame (built : ofFrame frame = .ok packet) :
    packet.data = frame ∧ packet.cursor = Header.size ∧
      Header.decode? frame = some packet.header := by
  obtain ⟨header, found, -, rfl⟩ := ofFrame_eq_ok_iff.mp built
  exact ⟨rfl, rfl, found⟩

end Wire

namespace Field

open Wire (Header Packet)

/-- Whether the form of a value depends on the flags. -/
def Value.isPrefixed : Value → Bool
  | .text _ | .blob _ => true
  | _ => false

theorem Value.encode_of_unprefixed {value : Value} (free : value.isPrefixed = false)
    (flags flags' : UInt32) : value.encode flags = value.encode flags' := by
  cases value with
  | text _ => cases free
  | blob _ => cases free
  | _ => rfl

theorem sizesVary_eq (flags : UInt32) : sizesVary flags = decide (flags.toNat % 2 = 1) := by
  have bit : (flags &&& berPack).toNat = flags.toNat % 2 := by
    rw [UInt32.toNat_and]
    exact Nat.and_one_is_mod flags.toNat
  rw [sizesVary, Bool.eq_iff_iff, bne_iff_ne, decide_eq_true_iff, ne_eq, ← UInt32.toNat_inj, bit]
  exact Nat.mod_two_ne_zero

/-- The lowest flag chooses the form of a length. -/
theorem encodePrefixed_eq (flags : UInt32) (octets : Bytes) :
    encodePrefixed flags octets =
      (if flags.toNat % 2 = 1 then BerSize.encode (UInt32.ofNat octets.length)
        else Bytes.ofWord 4 octets.length) ++ octets := by
  rw [encodePrefixed, sizesVary_eq]
  by_cases odd : flags.toNat % 2 = 1
  · simp [odd, encodeSized]
  · simp [odd]

theorem Value.encode_of_lowest (value : Value) {flags flags' : UInt32}
    (same : flags.toNat % 2 = flags'.toNat % 2) : value.encode flags = value.encode flags' := by
  cases value with
  | text text => simp only [encode, encodePrefixed_eq, same]
  | blob octets => simp only [encode, encodePrefixed_eq, same]
  | _ => rfl

namespace Packer

namespace Step

/-- The octets that a step adds under given flags. -/
def octets (flags : UInt32) : Step → Bytes
  | .flags _ => []
  | .put value => value.encode flags
  | .fields values => values.flatMap (Value.encode flags)
  | .raw octets => octets
  | .counted octets => encodePrefixed flags octets
  | .size value => BerSize.encode value

/-- The flags that are in force after a step. -/
def flagsAfter (flags : UInt32) : Step → UInt32
  | .flags value => value
  | _ => flags

/-- Whether the octets of a step depend on the flags. -/
def isPrefixed : Step → Bool
  | .put value => value.isPrefixed
  | .fields values => values.any Value.isPrefixed
  | .counted _ => true
  | _ => false

theorem octets_of_unprefixed {step : Step} (free : step.isPrefixed = false)
    (flags flags' : UInt32) : step.octets flags = step.octets flags' := by
  cases step with
  | put value => exact Value.encode_of_unprefixed free flags flags'
  | fields values =>
      refine List.flatMap_congr fun value member => ?_
      have each := List.any_eq_false.mp free value member
      exact Value.encode_of_unprefixed (Bool.eq_false_iff.mpr each) flags flags'
  | counted _ => cases free
  | _ => rfl

/-- Of the flags only the lowest matters. -/
theorem octets_of_lowest (step : Step) {flags flags' : UInt32}
    (same : flags.toNat % 2 = flags'.toNat % 2) : step.octets flags = step.octets flags' := by
  cases step with
  | put value => exact value.encode_of_lowest same
  | fields values => exact List.flatMap_congr fun value _ => value.encode_of_lowest same
  | counted octets => simp only [Step.octets, encodePrefixed_eq, same]
  | _ => rfl

end Step

/-- The octets that steps add one behind the other, each under the flags in force at it. -/
def contents (flags : UInt32) : List Step → Bytes
  | [] => []
  | step :: steps => step.octets flags ++ contents (step.flagsAfter flags) steps

/-- The flags that are in force after some steps. -/
def flagsBehind (flags : UInt32) (steps : List Step) : UInt32 :=
  steps.foldl Step.flagsAfter flags

theorem apply_eq (packer : Packer) (step : Step) :
    packer.apply step =
      { packer with
        flags := step.flagsAfter packer.flags
        payload := packer.payload ++ step.octets packer.flags } := by
  cases step with
  | flags value => simp [apply, setFlags, Step.flagsAfter, Step.octets]
  | fields values => exact putAll_eq packer values
  | _ => rfl

theorem foldl_apply_eq (packer : Packer) (steps : List Step) :
    steps.foldl apply packer =
      { packer with
        flags := flagsBehind packer.flags steps
        payload := packer.payload ++ contents packer.flags steps } := by
  induction steps generalizing packer with
  | nil => simp [flagsBehind, contents]
  | cons step steps ih =>
      rw [List.foldl_cons, ih, apply_eq]
      simp [flagsBehind, contents, List.append_assoc]

/-- Fields put at once are fields put one by one. -/
theorem apply_fields (packer : Packer) (values : List Value) :
    packer.apply (.fields values) = (values.map Step.put).foldl apply packer := by
  rw [List.foldl_map]
  rfl

/-- Room is kept for the header, which is written into it at the end. -/
theorem encodeInto?_finish (packer : Packer) {room : Bytes} (kept : room.length = Header.size) :
    packer.header.encodeInto? (room ++ packer.payload) = some packer.finish.data := by
  have enough : ¬(room ++ packer.payload).length < Header.size := by
    rw [List.length_append]
    omega
  rw [Header.encodeInto?, if_neg enough, List.drop_left' kept]
  rfl

/-- A finished packet is the packet of its own bytes, as long as its length fits its word. -/
theorem ofFrame_finish (packer : Packer) (short : packer.payload.length < UInt32.size) :
    Packet.ofFrame packer.finish.data = .ok packer.finish := by
  refine Packet.ofFrame_eq_ok_iff.mpr
    ⟨packer.header, Header.decode?_encode_append packer.header packer.payload, ?_, rfl⟩
  have counted : packer.header.len.toNat = packer.payload.length :=
    UInt32.toNat_ofNat_of_lt' short
  change _ = (packer.header.encode ++ packer.payload).length
  rw [Header.frameSize, counted, List.length_append, Header.length_encode]

end Packer

theorem pack_eq_foldl (msg sync flags : UInt32) (values : List Value) :
    pack msg sync flags values =
      ((.flags flags :: values.map .put).foldl Packer.apply (.withSync msg sync)).finish :=
  congrArg Packer.finish
    (((Packer.withSync msg sync).setFlags flags).apply_fields values)

/-- **What leaves a packer is one frame, put together from its steps.**  Behind the header stand
the octets of the steps in their order, each in the form that the flags in force at it ask for; the
header has the length of them all, and is written over the room kept for it.  The form depends on
the lowest flag alone, and only where text or bytes stand behind a length.  Several fields at once
are the same as one by one.  The packet is accepted as a frame and is the packet of that frame.
Accepted are just the byte strings whose second word counts what follows their first twelve octets,
and a packet gives back the bytes it was made of. -/
theorem steps_make_one_frame (msg sync : UInt32) :
    (∀ steps, (Packer.contents 0 steps).length < 2 ^ 32 →
      let packer := steps.foldl Packer.apply (.withSync msg sync)
      packer.finish.data = Bytes.ofWord 4 msg.toNat
        ++ Bytes.ofWord 4 (Packer.contents 0 steps).length ++ Bytes.ofWord 4 sync.toNat
        ++ Packer.contents 0 steps ∧
      (∀ room : Bytes, room.length = Header.size →
        packer.header.encodeInto? (room ++ Packer.contents 0 steps) = some packer.finish.data) ∧
      Packet.ofFrame packer.finish.data = .ok packer.finish) ∧
    (∀ (step : Packer.Step) (flags flags' : UInt32), flags.toNat % 2 = flags'.toNat % 2 →
      step.octets flags = step.octets flags') ∧
    (∀ step : Packer.Step, step.isPrefixed = false → ∀ flags flags' : UInt32,
      step.octets flags = step.octets flags') ∧
    (∀ (flags : UInt32) (octets : Bytes), encodePrefixed flags octets =
      (if flags.toNat % 2 = 1 then BerSize.encode (UInt32.ofNat octets.length)
        else Bytes.ofWord 4 octets.length) ++ octets) ∧
    (∀ (packer : Packer) (values : List Value),
      packer.apply (.fields values) = (values.map Packer.Step.put).foldl Packer.apply packer) ∧
    (∀ (flags : UInt32) (values : List Value), pack msg sync flags values =
      ((.flags flags :: values.map .put).foldl Packer.apply (.withSync msg sync)).finish) ∧
    ∀ frame : Bytes,
      ((∃ packet, Packet.ofFrame frame = .ok packet) ↔
        12 ≤ frame.length ∧ Bytes.toWord ((frame.drop 4).take 4) = frame.length - 12) ∧
      ∀ packet, Packet.ofFrame frame = .ok packet →
        packet.data = frame ∧ packet.cursor = 12 ∧ Header.decode? frame = some packet.header := by
  refine ⟨?built, fun step _ _ same => step.octets_of_lowest same,
    fun _ free => Packer.Step.octets_of_unprefixed free, encodePrefixed_eq, Packer.apply_fields,
    pack_eq_foldl msg sync, fun frame =>
      ⟨Packet.exists_ofFrame_iff, fun packet made => Packet.of_ofFrame made⟩⟩
  case built =>
    intro steps short packer
    have whole := Packer.foldl_apply_eq (Packer.withSync msg sync) steps
    have payload : packer.payload = Packer.contents 0 steps := congrArg Packer.payload whole
    have counted : packer.header.len.toNat = (Packer.contents 0 steps).length := by
      rw [Packer.header, payload]
      exact UInt32.toNat_ofNat_of_lt' short
    refine ⟨?_, fun room kept => payload ▸ packer.encodeInto?_finish kept,
      packer.ofFrame_finish (payload.symm ▸ short)⟩
    have head : packer.header.encode = Bytes.ofWord 4 msg.toNat
        ++ Bytes.ofWord 4 (Packer.contents 0 steps).length ++ Bytes.ofWord 4 sync.toNat := by
      rw [Header.encode, counted]
      simp only [packer, whole, Packer.header, Packer.withSync]
    rw [← head, ← payload]
    rfl

/-- Flags are changed between a text behind a size and the same text behind a word. -/
theorem steps_make_one_frame_under_changing_flags :
    let steps : List Packer.Step :=
      [.flags 3, .put (.text "hi"), .flags 2, .counted [104, 105], .size 300, .fields [.u8 7]]
    let packer := steps.foldl Packer.apply (.withSync 5 9)
    (Packer.contents 0 steps).length < 2 ^ 32 ∧
      packer.finish.data =
        [5, 0, 0, 0, 12, 0, 0, 0, 9, 0, 0, 0, 2, 104, 105, 2, 0, 0, 0, 104, 105, 130, 44, 7] ∧
      Packet.ofFrame packer.finish.data = .ok packer.finish := by
  intro steps packer
  have short : (Packer.contents 0 steps).length < 2 ^ 32 := by decide
  obtain ⟨bytes, -, accepted⟩ := (steps_make_one_frame 5 9).1 steps short
  exact ⟨short, bytes.trans (by decide), accepted⟩

end Field

end RequestMux
