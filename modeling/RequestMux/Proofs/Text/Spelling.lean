import RequestMux.Text.Utf8

/-!
# Text read back

The octets of a text spell this text and no other.  Reading goes character by
character: the lead octet of a character announces as many octets as follow it,
and admits the first of them, so that no sequence is open when the next character
begins.
-/

namespace RequestMux.Utf8

variable {index start length value owed low high : Nat} {done : List Char} {rest : Bytes}
  {octet : UInt8}

theorem decodeFrom_single (leads : lead? octet.toNat = some ⟨value, 0, low, high⟩) :
    decodeFrom index none done (octet :: rest) =
      decodeFrom (index + 1) none (Char.ofNat value :: done) rest := by
  simp only [decodeFrom, leads, if_true]

theorem decodeFrom_lead (leads : lead? octet.toNat = some ⟨value, owed + 1, low, high⟩) :
    decodeFrom index none done (octet :: rest) =
      decodeFrom (index + 1) (some ⟨index, 1, value, owed + 1, low, high⟩) done rest := by
  simp only [decodeFrom, leads, Nat.succ_ne_zero, if_false]

/-- The octets behind a lead carry six bits each. -/
theorem toNat_tail (bits : Nat) : (UInt8.ofNat (bits % 64 + 0x80)).toNat = bits % 64 + 0x80 := by
  rw [UInt8.toNat_ofNat']
  omega

/-- Behind an octet that was admitted any tail octet may follow. -/
theorem decodeFrom_tail (bits : Nat) (admitted : low ≤ bits % 64 + 0x80 ∧ bits % 64 + 0x80 ≤ high) :
    decodeFrom index (some ⟨start, length, value, owed + 2, low, high⟩) done
        (UInt8.ofNat (bits % 64 + 0x80) :: rest) =
      decodeFrom (index + 1)
        (some ⟨start, length + 1, value * 64 + bits % 64, owed + 1, 0x80, 0xBF⟩) done rest := by
  have more : ¬owed + 2 ≤ 1 := by omega
  simp only [decodeFrom, toNat_tail, admitted, and_self, if_true, more, if_false,
    Nat.add_sub_cancel]
  rfl

theorem decodeFrom_last (bits : Nat) :
    decodeFrom index (some ⟨start, length, value, 1, 0x80, 0xBF⟩) done
        (UInt8.ofNat (bits % 64 + 0x80) :: rest) =
      decodeFrom (index + 1) none (Char.ofNat (value * 64 + bits % 64) :: done) rest := by
  have admitted : 0x80 ≤ bits % 64 + 0x80 ∧ bits % 64 + 0x80 ≤ 0xBF := by omega
  simp only [decodeFrom, toNat_tail, admitted, and_self, if_true, Nat.le_refl, Nat.add_sub_cancel]

/-- The lead octet of two announces one more octet. -/
theorem lead?_two {value : Nat} (low : 0x80 ≤ value) (high : value ≤ 0x7FF) :
    lead? (UInt8.ofNat (value / 64 % 32 + 0xC0)).toNat = some ⟨value / 64, 1, 0x80, 0xBF⟩ := by
  have octet : (UInt8.ofNat (value / 64 % 32 + 0xC0)).toNat = value / 64 + 0xC0 := by
    rw [UInt8.toNat_ofNat']
    omega
  rw [octet, lead?, if_neg (by omega), if_neg (by omega), if_pos (by omega),
    Nat.add_sub_cancel]

/-- The lead octet of three announces two more and admits the next. -/
theorem lead?_three {value : Nat} (low : 0x800 ≤ value) (high : value ≤ 0xFFFF)
    (scalar : value < 0xD800 ∨ 0xDFFF < value) :
    ∃ least greatest,
      lead? (UInt8.ofNat (value / 4096 % 16 + 0xE0)).toNat =
        some ⟨value / 4096, 2, least, greatest⟩ ∧
      least ≤ value / 64 % 64 + 0x80 ∧ value / 64 % 64 + 0x80 ≤ greatest := by
  have octet : (UInt8.ofNat (value / 4096 % 16 + 0xE0)).toNat = value / 4096 + 0xE0 := by
    rw [UInt8.toNat_ofNat']
    omega
  rw [octet]
  by_cases first : value / 4096 = 0
  · refine ⟨0xA0, 0xBF, ?_, by omega, by omega⟩
    simp [first, lead?]
  · by_cases surrogates : value / 4096 = 0xD
    · refine ⟨0x80, 0x9F, ?_, by omega, by omega⟩
      simp [surrogates, lead?]
    · refine ⟨0x80, 0xBF, ?_, by omega, by omega⟩
      rw [lead?, if_neg (by omega), if_neg (by omega), if_neg (by omega), if_neg (by omega),
        if_neg (by omega), if_pos (by omega), Nat.add_sub_cancel]

/-- The lead octet of four announces three more and admits the next. -/
theorem lead?_four {value : Nat} (low : 0x10000 ≤ value) (high : value < 0x110000) :
    ∃ least greatest,
      lead? (UInt8.ofNat (value / 262144 % 8 + 0xF0)).toNat =
        some ⟨value / 262144, 3, least, greatest⟩ ∧
      least ≤ value / 4096 % 64 + 0x80 ∧ value / 4096 % 64 + 0x80 ≤ greatest := by
  have octet : (UInt8.ofNat (value / 262144 % 8 + 0xF0)).toNat = value / 262144 + 0xF0 := by
    rw [UInt8.toNat_ofNat']
    omega
  rw [octet]
  by_cases first : value / 262144 = 0
  · refine ⟨0x90, 0xBF, ?_, by omega, by omega⟩
    simp [first, lead?]
  · by_cases last : value / 262144 = 4
    · refine ⟨0x80, 0x8F, ?_, by omega, by omega⟩
      simp [last, lead?]
    · refine ⟨0x80, 0xBF, ?_, by omega, by omega⟩
      rw [lead?, if_neg (by omega), if_neg (by omega), if_neg (by omega), if_neg (by omega),
        if_neg (by omega), if_neg (by omega), if_neg (by omega), if_pos (by omega),
        Nat.add_sub_cancel]

/-- One character is read back from its octets, and nothing stays open behind it. -/
theorem decodeFrom_utf8EncodeChar (char : Char) :
    decodeFrom index none done (String.utf8EncodeChar char ++ rest) =
      decodeFrom (index + (String.utf8EncodeChar char).length) none (char :: done) rest := by
  have scalar : char.toNat < 0xD800 ∨ 0xDFFF < char.toNat ∧ char.toNat < 0x110000 := char.valid
  have same : Char.ofNat char.toNat = char := Char.ofNat_toNat char
  have shape := String.utf8EncodeChar.eq_1 char
  simp only [Char.toNat_val] at shape
  generalize char.toNat = value at scalar same shape
  rw [shape]
  -- one case for each length of a sequence
  split
  · next small =>
      have octet : (UInt8.ofNat value).toNat = value := by
        rw [UInt8.toNat_ofNat']
        omega
      have leads : lead? (UInt8.ofNat value).toNat = some ⟨value, 0, 0, 0⟩ := by
        rw [octet, lead?, if_pos (by omega)]
      rw [List.singleton_append, decodeFrom_single leads, same]
      rfl
  split
  · next low high =>
      have leads := lead?_two (by omega : 0x80 ≤ value) high
      have whole : value / 64 * 64 + value % 64 = value := by omega
      rw [List.cons_append, List.singleton_append, decodeFrom_lead leads, decodeFrom_last, whole,
        same]
      rfl
  split
  · next low high =>
      obtain ⟨least, greatest, leads, admitted⟩ :=
        lead?_three (by omega : 0x800 ≤ value) high (by omega)
      have whole : (value / 4096 * 64 + value / 64 % 64) * 64 + value % 64 = value := by omega
      rw [List.cons_append, decodeFrom_lead leads, List.cons_append, decodeFrom_tail _ admitted,
        List.singleton_append, decodeFrom_last, whole, same]
      rfl
  · next low =>
      obtain ⟨least, greatest, leads, admitted⟩ :=
        lead?_four (by omega : 0x10000 ≤ value) (by omega)
      have whole : ((value / 262144 * 64 + value / 4096 % 64) * 64 + value / 64 % 64) * 64 +
          value % 64 = value := by omega
      rw [List.cons_append, decodeFrom_lead leads, List.cons_append, decodeFrom_tail _ admitted,
        List.cons_append, decodeFrom_tail (value / 64) (by omega), List.singleton_append,
        decodeFrom_last, whole, same]
      rfl

theorem decodeFrom_flatMap (chars : List Char) :
    decodeFrom index none done (chars.flatMap String.utf8EncodeChar) =
      .ok (done.reverse ++ chars) := by
  induction chars generalizing index done with
  | nil => rw [List.flatMap_nil, decodeFrom, List.append_nil]
  | cons char chars ih =>
      rw [List.flatMap_cons, decodeFrom_utf8EncodeChar, ih, List.reverse_cons, List.append_assoc,
        List.singleton_append]

/-- A text is read back from its octets. -/
theorem decode_encode (text : String) : decode (encode text) = .ok text := by
  have read : decodeFrom 0 none [] (encode text) = .ok text.toList := decodeFrom_flatMap _
  rw [decode, read]
  exact congrArg Except.ok String.ofList_toList

end RequestMux.Utf8
