import RequestMux.Proofs.Text.Spelling

/-!
# Octets recovered from their text

A byte string that is read as a text consists of the octets of this text.  A lead octet fixes the
range of the value, and the octets behind it the rest of its bits, so that the character that was
read has these octets and no others.
-/

namespace RequestMux.Utf8

variable {index start length value owed low high : Nat} {done chars : List Char} {octets : Bytes}

/-- What is known of a lead octet, by the number of octets it announces. -/
inductive Announces (octet : Nat) : Lead → Prop where
  | zero (small : octet < 0x80) : Announces octet ⟨octet, 0, 0, 0⟩
  | one (least : 0xC2 ≤ octet) (most : octet < 0xE0) :
      Announces octet ⟨octet - 0xC0, 1, 0x80, 0xBF⟩
  | two {low high : Nat} (least : 0xE0 ≤ octet) (most : octet < 0xF0) (above : 0x80 ≤ low)
      (below : high ≤ 0xBF) (long : octet = 0xE0 → 0xA0 ≤ low)
      (scalar : octet = 0xED → high ≤ 0x9F) : Announces octet ⟨octet - 0xE0, 2, low, high⟩
  | three {low high : Nat} (least : 0xF0 ≤ octet) (most : octet ≤ 0xF4) (above : 0x80 ≤ low)
      (below : high ≤ 0xBF) (long : octet = 0xF0 → 0x90 ≤ low)
      (scalar : octet = 0xF4 → high ≤ 0x8F) : Announces octet ⟨octet - 0xF0, 3, low, high⟩

theorem announces_of_lead? {octet : Nat} {lead : Lead} (leads : lead? octet = some lead) :
    Announces octet lead := by
  unfold lead? at leads
  split at leads
  · obtain rfl := Option.some.inj leads
    exact .zero (by omega)
  split at leads
  · cases leads
  split at leads
  · obtain rfl := Option.some.inj leads
    exact .one (by omega) (by omega)
  split at leads
  · next first =>
      subst first
      obtain rfl := Option.some.inj leads
      exact .two (by omega) (by omega) (by omega) (by omega) (by omega) (by omega)
  split at leads
  · next surrogates =>
      subst surrogates
      obtain rfl := Option.some.inj leads
      exact .two (by omega) (by omega) (by omega) (by omega) (by omega) (by omega)
  split at leads
  · obtain rfl := Option.some.inj leads
    exact .two (by omega) (by omega) (by omega) (by omega) (by omega) (by omega)
  split at leads
  · next first =>
      subst first
      obtain rfl := Option.some.inj leads
      exact .three (by omega) (by omega) (by omega) (by omega) (by omega) (by omega)
  split at leads
  · obtain rfl := Option.some.inj leads
    exact .three (by omega) (by omega) (by omega) (by omega) (by omega) (by omega)
  split at leads
  · next last =>
      subst last
      obtain rfl := Option.some.inj leads
      exact .three (by omega) (by omega) (by omega) (by omega) (by omega) (by omega)
  · cases leads

/-- A sequence that owes more than one octet goes on with one in its range. -/
theorem decodeFrom_open {sequence : Open} (more : 1 < sequence.owed)
    (read : decodeFrom index (some sequence) done octets = .ok chars) :
    ∃ octet rest, octets = octet :: rest ∧ sequence.low ≤ octet.toNat ∧
      octet.toNat ≤ sequence.high ∧
      decodeFrom (index + 1) (some ⟨sequence.start, sequence.length + 1,
        sequence.value * 64 + (octet.toNat - 0x80), sequence.owed - 1, 0x80, 0xBF⟩) done rest =
        .ok chars := by
  cases octets with
  | nil => cases read
  | cons octet rest =>
      rw [decodeFrom] at read
      split at read
      · next admitted =>
          rw [if_neg (Nat.not_le.mpr more)] at read
          exact ⟨octet, rest, rfl, admitted.1, admitted.2, read⟩
      · cases read

/-- A sequence that owes one octet ends with it. -/
theorem decodeFrom_ending {sequence : Open} (one : sequence.owed = 1)
    (read : decodeFrom index (some sequence) done octets = .ok chars) :
    ∃ octet rest, octets = octet :: rest ∧ sequence.low ≤ octet.toNat ∧
      octet.toNat ≤ sequence.high ∧
      decodeFrom (index + 1) none
        (Char.ofNat (sequence.value * 64 + (octet.toNat - 0x80)) :: done) rest = .ok chars := by
  cases octets with
  | nil => cases read
  | cons octet rest =>
      rw [decodeFrom] at read
      split at read
      · next admitted =>
          rw [if_pos (Nat.le_of_eq one)] at read
          exact ⟨octet, rest, rfl, admitted.1, admitted.2, read⟩
      · cases read

/-- The octets of a character, by its value. -/
theorem utf8EncodeChar_ofNat (valid : value.isValidChar) :
    String.utf8EncodeChar (Char.ofNat value) =
      if value ≤ 0x7F then [UInt8.ofNat value]
      else if value ≤ 0x7FF then
        [UInt8.ofNat (value / 64 % 32 + 0xC0), UInt8.ofNat (value % 64 + 0x80)]
      else if value ≤ 0xFFFF then
        [UInt8.ofNat (value / 4096 % 16 + 0xE0), UInt8.ofNat (value / 64 % 64 + 0x80),
          UInt8.ofNat (value % 64 + 0x80)]
      else
        [UInt8.ofNat (value / 262144 % 8 + 0xF0), UInt8.ofNat (value / 4096 % 64 + 0x80),
          UInt8.ofNat (value / 64 % 64 + 0x80), UInt8.ofNat (value % 64 + 0x80)] := by
  have same : (Char.ofNat value).toNat = value := by
    rw [Char.ofNat, dif_pos valid]
    rfl
  have shape := String.utf8EncodeChar.eq_1 (Char.ofNat value)
  simp only [Char.toNat_val, same] at shape
  exact shape

theorem eq_ofNat {octet : UInt8} {number : Nat} (same : number = octet.toNat) :
    UInt8.ofNat number = octet := by
  rw [same, UInt8.ofNat_toNat]

variable {first second third fourth : UInt8}

theorem utf8EncodeChar_one (small : first.toNat < 0x80) :
    String.utf8EncodeChar (Char.ofNat first.toNat) = [first] := by
  rw [utf8EncodeChar_ofNat (.inl (by omega)), if_pos (by omega), eq_ofNat rfl]

theorem utf8EncodeChar_two (least : 0xC2 ≤ first.toNat) (most : first.toNat < 0xE0)
    (above : 0x80 ≤ second.toNat) (below : second.toNat ≤ 0xBF)
    (same : value = (first.toNat - 0xC0) * 64 + (second.toNat - 0x80)) :
    String.utf8EncodeChar (Char.ofNat value) = [first, second] := by
  rw [utf8EncodeChar_ofNat (.inl (by omega)), if_neg (by omega), if_pos (by omega),
    eq_ofNat (by omega : _ = first.toNat), eq_ofNat (by omega : _ = second.toNat)]

theorem utf8EncodeChar_three (least : 0xE0 ≤ first.toNat) (most : first.toNat < 0xF0)
    (above : 0x80 ≤ second.toNat) (below : second.toNat ≤ 0xBF)
    (long : first.toNat = 0xE0 → 0xA0 ≤ second.toNat)
    (scalar : first.toNat = 0xED → second.toNat ≤ 0x9F)
    (above₃ : 0x80 ≤ third.toNat) (below₃ : third.toNat ≤ 0xBF)
    (same : value = ((first.toNat - 0xE0) * 64 + (second.toNat - 0x80)) * 64 +
      (third.toNat - 0x80)) :
    String.utf8EncodeChar (Char.ofNat value) = [first, second, third] := by
  have valid : value.isValidChar := by
    by_cases early : first.toNat < 0xEE
    · exact .inl (by omega)
    · exact .inr ⟨by omega, by omega⟩
  rw [utf8EncodeChar_ofNat valid, if_neg (by omega), if_neg (by omega), if_pos (by omega),
    eq_ofNat (by omega : _ = first.toNat), eq_ofNat (by omega : _ = second.toNat),
    eq_ofNat (by omega : _ = third.toNat)]

theorem utf8EncodeChar_four (least : 0xF0 ≤ first.toNat) (most : first.toNat ≤ 0xF4)
    (above : 0x80 ≤ second.toNat) (below : second.toNat ≤ 0xBF)
    (long : first.toNat = 0xF0 → 0x90 ≤ second.toNat)
    (scalar : first.toNat = 0xF4 → second.toNat ≤ 0x8F)
    (above₃ : 0x80 ≤ third.toNat) (below₃ : third.toNat ≤ 0xBF)
    (above₄ : 0x80 ≤ fourth.toNat) (below₄ : fourth.toNat ≤ 0xBF)
    (same : value = (((first.toNat - 0xF0) * 64 + (second.toNat - 0x80)) * 64 +
      (third.toNat - 0x80)) * 64 + (fourth.toNat - 0x80)) :
    String.utf8EncodeChar (Char.ofNat value) = [first, second, third, fourth] := by
  have least : 0xFFFF < value := by omega
  have most : value < 0x110000 := by omega
  rw [utf8EncodeChar_ofNat (.inr ⟨by omega, most⟩), if_neg (by omega), if_neg (by omega),
    if_neg (by omega), eq_ofNat (by omega : _ = first.toNat),
    eq_ofNat (by omega : _ = second.toNat), eq_ofNat (by omega : _ = third.toNat),
    eq_ofNat (by omega : _ = fourth.toNat)]

/-- The first character that is read has the octets in front. -/
theorem first_of_decodeFrom {octet : UInt8} {rest : Bytes}
    (read : decodeFrom index none done (octet :: rest) = .ok chars) :
    ∃ char front behind, String.utf8EncodeChar char = front ∧ octet :: rest = front ++ behind ∧
      decodeFrom (index + front.length) none (char :: done) behind = .ok chars := by
  cases leads : lead? octet.toNat with
  | none => simp only [decodeFrom, leads, reduceCtorEq] at read
  | some lead =>
      cases announces_of_lead? leads with
      | zero small =>
          rw [decodeFrom_single leads] at read
          exact ⟨_, _, rest, utf8EncodeChar_one small, rfl, read⟩
      | one least most =>
          rw [decodeFrom_lead leads] at read
          obtain ⟨second, behind, rfl, above, below, read⟩ := decodeFrom_ending rfl read
          exact ⟨_, _, behind, utf8EncodeChar_two least most above below rfl, rfl, read⟩
      | two least most above below long scalar =>
          rw [decodeFrom_lead leads] at read
          obtain ⟨second, behind, rfl, above₂, below₂, read⟩ :=
            decodeFrom_open (Nat.lt_succ_self 1) read
          obtain ⟨third, behind, rfl, above₃, below₃, read⟩ := decodeFrom_ending rfl read
          refine ⟨_, _, behind, utf8EncodeChar_three least most (Nat.le_trans above above₂)
            (Nat.le_trans below₂ below) (fun first => Nat.le_trans (long first) above₂)
            (fun surrogates => Nat.le_trans below₂ (scalar surrogates)) above₃ below₃ rfl, rfl, read⟩
      | three least most above below long scalar =>
          rw [decodeFrom_lead leads] at read
          obtain ⟨second, behind, rfl, above₂, below₂, read⟩ :=
            decodeFrom_open (Nat.lt_add_of_pos_right (Nat.succ_pos 1)) read
          obtain ⟨third, behind, rfl, above₃, below₃, read⟩ :=
            decodeFrom_open (Nat.lt_succ_self 1) read
          obtain ⟨fourth, behind, rfl, above₄, below₄, read⟩ := decodeFrom_ending rfl read
          refine ⟨_, _, behind, utf8EncodeChar_four least most (Nat.le_trans above above₂)
            (Nat.le_trans below₂ below) (fun first => Nat.le_trans (long first) above₂)
            (fun last => Nat.le_trans below₂ (scalar last)) above₃ below₃ above₄ below₄ rfl, rfl, read⟩

/-- All the octets that are read are those of the characters read. -/
theorem octets_of_decodeFrom (read : decodeFrom index none done octets = .ok chars) :
    ∃ more, chars = done.reverse ++ more ∧ octets = more.flatMap String.utf8EncodeChar := by
  induction size : octets.length using Nat.strongRecOn generalizing index done octets with
  | ind size ih =>
      subst size
      cases octets with
      | nil =>
          cases read
          exact ⟨[], (List.append_nil _).symm, rfl⟩
      | cons octet rest =>
          obtain ⟨char, front, behind, rfl, split, read⟩ := first_of_decodeFrom read
          have shorter : behind.length < (octet :: rest).length := by
            rw [split, List.length_append, String.length_utf8EncodeChar]
            exact Nat.lt_add_of_pos_left char.utf8Size_pos
          obtain ⟨more, same, rfl⟩ := ih _ shorter read rfl
          refine ⟨char :: more, ?_, split⟩
          rw [same, List.reverse_cons, List.append_assoc, List.singleton_append]

/-- Octets spell a text exactly when they are its encoding. -/
theorem decode_eq_ok_iff {text : String} : decode octets = .ok text ↔ encode text = octets := by
  constructor
  · intro read
    unfold decode at read
    cases found : decodeFrom 0 none [] octets with
    | error defect =>
        rw [found] at read
        cases read
    | ok chars =>
        rw [found] at read
        cases read
        obtain ⟨more, same, rfl⟩ := octets_of_decodeFrom found
        rw [encode, String.toList_ofList, same]
        rfl
  · rintro rfl
    exact decode_encode text

/-- Octets that are refused are the octets of no text. -/
theorem encode_ne_of_defect {defect : Defect} (refused : decode octets = .error defect)
    (text : String) : encode text ≠ octets := by
  intro same
  rw [decode_eq_ok_iff.mpr same] at refused
  cases refused

end RequestMux.Utf8
