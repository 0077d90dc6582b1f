import RequestMux.Proofs.Field.Usage
import RequestMux.Proofs.Text.Validity

/-!
# Texts behind their lengths

Where a length stands ahead, and all the bytes that it counts, a text is read exactly if they are
UTF-8; then its octets are these bytes.  If they are not, the message tells how much of them is, and
whether more bytes could have mended them.  In every case the cursor ends up behind them, and as a
byte string they can be read all the same.
-/

namespace RequestMux.Field

open Wire (Packet)

/-- The ways to write the length of content in front of it. -/
inductive Mark where
  /-- In four octets. -/
  | counted
  /-- In digits. -/
  | sized
  deriving DecidableEq, Repr

namespace Mark

/-- The octets are the content behind its length. -/
def Announces : Mark → Bytes → Bytes → Prop
  | .counted => IsCounted
  | .sized => IsSized

def textKind : Mark → Kind
  | .counted => .text
  | .sized => .sizedText

def blobKind : Mark → Kind
  | .counted => .blob
  | .sized => .sizedBlob

def text : Mark → String → Value
  | .counted => .text
  | .sized => .sizedText

def blob : Mark → Bytes → Value
  | .counted => .blob
  | .sized => .sizedBlob

end Mark

/-- What the message about content that is not UTF-8 says of it. -/
inductive Explains (content : Bytes) : String → Prop where
  | incomplete {index : Nat} (whole : Utf8.IsLongest Utf8.IsUtf8 content index)
      (continues : Utf8.IsExtendable content) :
      Explains content ("incomplete utf-8 byte sequence from index " ++ toString index)
  | invalid {index good : Nat} (whole : Utf8.IsLongest Utf8.IsUtf8 content index)
      (begun : Utf8.IsLongest Utf8.IsExtendable content (index + good))
      (ends : ¬Utf8.IsExtendable content) :
      Explains content ("invalid utf-8 sequence of " ++ toString (max 1 good) ++
        " bytes from index " ++ toString index)

variable {packet : Packet} {mark : Mark} {content octets : Bytes}

theorem explains_of_describes {defect : Utf8.Defect} (describes : Utf8.Describes content defect) :
    Explains content defect.message := by
  cases describes with
  | incomplete whole continues => exact .incomplete whole continues
  | invalid whole begun ends => exact .invalid whole begun ends

theorem message_notUtf8 (defect : Utf8.Defect) :
    (ClientError.tupleInvalid (.notUtf8 defect)).message =
      "Tuple invalid: String is not valid UTF-8: " ++ defect.message := by
  have whole : (ClientError.tupleInvalid (.notUtf8 defect)).message =
      "Tuple invalid: " ++ ("String is not valid UTF-8: " ++ defect.message) := rfl
  have front : "Tuple invalid: " ++ "String is not valid UTF-8: " =
      "Tuple invalid: String is not valid UTF-8: " := by decide
  rw [whole, ← String.append_assoc, front]

/-- A text field is the content that its length announces, read as a text. -/
theorem takeField_textKind (placed : packet.IsPlaced) (announced : mark.Announces content octets)
    (leads : octets <+: packet.ahead) :
    takeField packet mark.textKind =
      ((toText content).map mark.text, packet.past octets.length) := by
  cases mark with
  | counted =>
      rw [Mark.textKind, takeField, takePrefixed_of_counted announced leads]
      rfl
  | sized =>
      rw [Mark.textKind, takeField, takeSized_of_sized placed announced leads]
      rfl

theorem takeField_blobKind (placed : packet.IsPlaced) (announced : mark.Announces content octets)
    (leads : octets <+: packet.ahead) :
    takeField packet mark.blobKind = (.ok (mark.blob content), packet.past octets.length) := by
  cases mark with
  | counted => exact map_octets_eq (takePrefixed_of_counted announced leads) .blob
  | sized => exact map_octets_eq (takeSized_of_sized placed announced leads) .sizedBlob

/-- **Texts are UTF-8, exactly.**  Where content stands ahead behind its length, a text is read if
and only if the content is UTF-8, and it is the text whose octets the content is.  Otherwise the
packet is malformed: the message gives the length of the longest part in front that is UTF-8, and
calls the content incomplete if and only if more bytes could make it UTF-8.  A byte string is read
from it in any case, and always the cursor stands right behind the content. -/
theorem texts_are_utf8 (arises : Arises packet) (announced : mark.Announces content octets)
    (leads : octets <+: packet.ahead) :
    ((∃ value, (takeField packet mark.textKind).1 = .ok value) ↔ Utf8.IsUtf8 content) ∧
    (Utf8.IsUtf8 content → ∃ text, Utf8.encode text = content ∧
      takeField packet mark.textKind = (.ok (mark.text text), packet.past octets.length)) ∧
    (¬Utf8.IsUtf8 content → ∃ cause wording,
      takeField packet mark.textKind =
        (.error (.tupleInvalid cause), packet.past octets.length) ∧
      (ClientError.tupleInvalid cause).message =
        "Tuple invalid: String is not valid UTF-8: " ++ wording ∧ Explains content wording) ∧
    takeField packet mark.blobKind = (.ok (mark.blob content), packet.past octets.length) := by
  have placed := arises.isPlaced
  have read := takeField_textKind placed announced leads
  have accepted : Utf8.IsUtf8 content → ∃ text, Utf8.encode text = content ∧
      takeField packet mark.textKind = (.ok (mark.text text), packet.past octets.length) := by
    intro spelled
    obtain ⟨text, rfl⟩ := Utf8.isUtf8_iff.mp spelled
    refine ⟨text, rfl, ?_⟩
    rw [read, toText, Utf8.decode_encode]
    rfl
  refine ⟨⟨?_, ?_⟩, accepted, ?_, takeField_blobKind placed announced leads⟩
  · rintro ⟨value, found⟩
    by_contra unspelled
    obtain ⟨defect, refused, -⟩ := Utf8.decode_of_not_isUtf8 unspelled
    rw [read, toText, refused] at found
    cases found
  · intro spelled
    obtain ⟨text, -, found⟩ := accepted spelled
    rw [found]
    exact ⟨_, rfl⟩
  · intro unspelled
    obtain ⟨defect, refused, describes⟩ := Utf8.decode_of_not_isUtf8 unspelled
    refine ⟨.notUtf8 defect, defect.message, ?_, ?_, explains_of_describes describes⟩
    · rw [read, toText, refused]
      rfl
    · exact message_notUtf8 defect

/-- The last octet of a sequence is missing. -/
theorem texts_are_utf8_up_to_a_cut :
    let content : Bytes := [0x41, 0xE2, 0x82]
    let packet := pack 1 9 0 [.blob content, .u8 7]
    let octets := Bytes.ofWord 4 3 ++ content
    Arises packet ∧ Mark.counted.Announces content octets ∧ octets <+: packet.ahead ∧
      ¬Utf8.IsUtf8 content ∧ Utf8.IsExtendable content ∧
      (takeField packet .text).1 = .error (.tupleInvalid (.notUtf8 (.incomplete 1))) ∧
      takeField packet .blob = (.ok (.blob content), packet.past octets.length) := by
  intro content packet octets
  have arises : Arises packet := .packed _
  have announced : Mark.counted.Announces content octets := .intro (by decide)
  have leads : octets <+: packet.ahead := ⟨[7], rfl⟩
  have refused : (takeField packet .text).1 = .error (.tupleInvalid (.notUtf8 (.incomplete 1))) :=
    congrArg Prod.fst (takeField_textKind arises.isPlaced announced leads)
  obtain ⟨accepted, -, -, blob⟩ := texts_are_utf8 arises announced leads
  refine ⟨arises, announced, leads, fun spelled => ?_, ?_, refused, blob⟩
  · obtain ⟨value, found⟩ := accepted.mpr spelled
    exact absurd (found.symm.trans refused) (by simp)
  · exact ⟨[0xAC], Utf8.isUtf8_iff.mpr ⟨"A€", by decide⟩⟩

end RequestMux.Field
