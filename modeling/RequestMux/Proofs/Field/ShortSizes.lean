import RequestMux.Field.Unpack
import RequestMux.Proofs.Field.Digits

/-!
# Sizes and their shortest spellings

A byte string shows its size in its first octets: the first octet below 128 among them is the last
digit, and the digits up to it spell the number.  Leading zeros are the only freedom that a
spelling has, so that of all the spellings of a size its encoding is the one without them.  A field
reader sees the same size through a window of the longest encoding as in all that is left.
-/

namespace RequestMux.Field

namespace BerSize

variable {digits other octets : Bytes} {value number : Nat} {size : UInt32}

/-- Whether an octet is the last digit of a size. -/
def isFinal (octet : UInt8) : Bool := octet.toNat < 128

/-- The place of the last digit, among as many octets as the longest encoding has. -/
def lastDigit? (octets : Bytes) : Option Nat := (octets.take maxLength).findIdx? isFinal

theorem isFinal_eq_false {octet : UInt8} (high : 128 ≤ octet.toNat) : isFinal octet = false :=
  decide_eq_false (Nat.not_lt.mpr high)

/-! ### What the first octets say -/

theorem IsRun.findIdx? (ends : IsRun digits) (rest : Bytes) :
    (digits ++ rest).findIdx? isFinal = some (digits.length - 1) := by
  induction ends with
  | @last octet low =>
      have final : isFinal octet = true := decide_eq_true low
      simp [List.findIdx?_cons, final]
  | @more octet behind high run ih =>
      have positive := run.length_pos
      rw [List.cons_append, List.findIdx?_cons, isFinal_eq_false high, ih]
      simp only [Bool.false_eq_true, if_false, Option.map_some, List.length_cons]
      congr 1
      omega

theorem lastDigit?_of_run (ends : IsRun digits) (short : digits.length ≤ maxLength)
    (leads : digits <+: octets) : lastDigit? octets = some (digits.length - 1) := by
  obtain ⟨rest, rfl⟩ := leads
  rw [lastDigit?, List.take_append, List.take_of_length_le short, ends.findIdx?]

theorem lastDigit?_of_high (high : ∀ octet ∈ octets.take maxLength, 128 ≤ octet.toNat) :
    lastDigit? octets = none :=
  List.findIdx?_eq_none_iff.mpr fun octet member => isFinal_eq_false (high octet member)

/-- What is read where the last digit is in sight. -/
theorem decode_of_lastDigit? {last : Nat} (found : lastDigit? octets = some last) :
    decode octets =
      if numberFrom 0 (octets.take (last + 1)) < UInt32.size then
        .ok (UInt32.ofNat (numberFrom 0 (octets.take (last + 1))), last + 1)
      else .error (.tupleInvalid (.sizeTooLarge (numberFrom 0 (octets.take (last + 1))))) := by
  cases front maxLength octets with
  | @run digits ends short leads =>
      have same := Option.some.inj ((lastDigit?_of_run ends short leads).symm.trans found)
      have positive := ends.length_pos
      have length : last + 1 = digits.length := by omega
      obtain ⟨rest, rfl⟩ := leads
      rw [length, List.take_left, decode, decodeFrom_run ends short, Nat.zero_add]
  | @endless digits high full leads =>
      obtain ⟨rest, rfl⟩ := leads
      have none : lastDigit? (digits ++ rest) = none :=
        lastDigit?_of_high (by rwa [← full, List.take_left])
      cases none.symm.trans found
  | cut high short =>
      have none : lastDigit? octets = none :=
        lastDigit?_of_high (by rwa [List.take_of_length_le (Nat.le_of_lt short)])
      cases none.symm.trans found

/-- What is read where the last digit is not in sight. -/
theorem decode_of_no_lastDigit? (missing : lastDigit? octets = none) :
    decode octets =
      if maxLength ≤ octets.length then .error (.tupleInvalid .sizeTooLong)
      else .error (.tupleMismatch (.sizeCutOff octets.length)) := by
  cases front maxLength octets with
  | run ends short leads => cases missing.symm.trans (lastDigit?_of_run ends short leads)
  | @endless digits high full leads =>
      rw [if_pos (full ▸ leads.length_le)]
      exact decode_overruns (.long high full) leads
  | cut high short =>
      rw [if_neg (Nat.not_le.mpr short), decode, decodeFrom_cut high short, Nat.zero_add]

/-! ### Leading zeros -/

/-- A leading zero that is not the only digit. -/
def padding : UInt8 := 0x80

theorem pow_mul_le_numberFrom (value : Nat) (digits : Bytes) :
    value * 128 ^ digits.length ≤ numberFrom value digits := by
  induction digits generalizing value with
  | nil => simp [numberFrom]
  | cons octet digits ih =>
      calc value * 128 ^ (digits.length + 1)
          = value * 128 * 128 ^ digits.length := by
            rw [Nat.pow_succ, Nat.mul_comm (128 ^ digits.length), Nat.mul_assoc]
        _ ≤ (value * 128 + octet.toNat % 128) * 128 ^ digits.length :=
            Nat.mul_le_mul_right _ (Nat.le_add_right _ _)
        _ ≤ numberFrom value (octet :: digits) := ih _

/-- Without a leading zero, a number has no fewer digits than it needs. -/
theorem IsRun.pow_le_number (ends : IsRun digits) (lean : digits.head? ≠ some padding)
    (several : 1 < digits.length) : 128 ^ (digits.length - 1) ≤ numberFrom 0 digits := by
  cases ends with
  | last low => exact absurd several (Nat.lt_irrefl 1)
  | @more octet rest high behind =>
      have nonzero : octet.toNat ≠ 128 := by
        intro zero
        exact lean (congrArg some (UInt8.toNat_inj.mp zero))
      have bound : octet.toNat < 256 := octet.toNat_lt
      have digit : 1 ≤ 0 * 128 + octet.toNat % 128 := by omega
      calc 128 ^ rest.length
          ≤ (0 * 128 + octet.toNat % 128) * 128 ^ rest.length := Nat.le_mul_of_pos_left _ digit
        _ ≤ numberFrom 0 (octet :: rest) := pow_mul_le_numberFrom _ rest

theorem number_lt_pow (digits : Bytes) : numberFrom 0 digits < 128 ^ digits.length := by
  have bound : numberFrom 0 digits < 128 ^ (0 + digits.length) :=
    numberFrom_lt (Nat.pow_pos (by omega))
  rwa [Nat.zero_add] at bound

/-- As many digits of the same number are the same digits. -/
theorem IsRun.eq_of_numberFrom (ends : IsRun digits) (ends' : IsRun other)
    (length : digits.length = other.length) {value' : Nat}
    (same : numberFrom value digits = numberFrom value' other) :
    value = value' ∧ digits = other := by
  induction ends generalizing other value value' with
  | @last octet low =>
      cases ends' with
      | @last octet' low' =>
          change value * 128 + octet.toNat % 128 = value' * 128 + octet'.toNat % 128 at same
          have octets : octet = octet' := UInt8.toNat_inj.mp (by omega)
          exact ⟨by omega, by rw [octets]⟩
      | more high' behind' =>
          have := behind'.length_pos
          simp only [List.length_cons, List.length_nil] at length
          omega
  | @more octet rest high behind ih =>
      cases ends' with
      | last low' =>
          have := behind.length_pos
          simp only [List.length_cons, List.length_nil] at length
          omega
      | @more octet' rest' high' behind' =>
          obtain ⟨values, rests⟩ := ih behind' (Nat.succ.inj length) same
          change value * 128 + octet.toNat % 128 = value' * 128 + octet'.toNat % 128 at values
          have bound : octet.toNat < 256 := octet.toNat_lt
          have bound' : octet'.toNat < 256 := octet'.toNat_lt
          have octets : octet = octet' := UInt8.toNat_inj.mp (by omega)
          exact ⟨by omega, by rw [octets, rests]⟩

/-- A spelling without a leading zero is no longer than any other. -/
theorem Spells.length_le (spelled : Spells digits number) (lean : digits.head? ≠ some padding)
    (spelled' : Spells other number) : digits.length ≤ other.length := by
  by_contra longer
  have positive := spelled'.ends.length_pos
  have least := spelled.ends.pow_le_number lean (by omega)
  have most := number_lt_pow other
  have fewer : 128 ^ other.length ≤ 128 ^ (digits.length - 1) :=
    Nat.pow_le_pow_right (by omega) (by omega)
  rw [spelled.number] at least
  rw [spelled'.number] at most
  omega

/-- A number has one spelling without a leading zero. -/
theorem Spells.unique (spelled : Spells digits number) (lean : digits.head? ≠ some padding)
    (spelled' : Spells other number) (lean' : other.head? ≠ some padding) : digits = other := by
  have length := Nat.le_antisymm (spelled.length_le lean spelled') (spelled'.length_le lean' spelled)
  have same := spelled.number.trans spelled'.number.symm
  exact (spelled.ends.eq_of_numberFrom spelled'.ends length same).2

/-- Behind a leading zero the other digits spell the same number. -/
theorem Spells.of_padded {rest : Bytes} (spelled : Spells (padding :: rest) number) :
    Spells rest number := by
  cases spelled.ends with
  | last low => exact absurd low (by decide)
  | more high behind =>
      exact ⟨behind, Nat.le_of_succ_le spelled.short, spelled.number, spelled.small⟩

theorem head?_encode_ne_padding (size : UInt32) : (encode size).head? ≠ some padding := by
  intro padded
  obtain ⟨rest, whole⟩ := List.head?_eq_some_iff.mp padded
  have shortest := encode_isShortest size
  rw [whole] at shortest
  exact Nat.not_succ_le_self _ (shortest.least rest shortest.spells.of_padded)

/-- Of the spellings of a size, its encoding is the one without a leading zero. -/
theorem Spells.eq_encode_iff (spelled : Spells digits size.toNat) :
    digits = encode size ↔ digits.head? ≠ some padding := by
  constructor
  · rintro rfl
    exact head?_encode_ne_padding size
  · intro lean
    exact spelled.unique lean (encode_spells size) (head?_encode_ne_padding size)

theorem IsRun.high_dropLast (ends : IsRun digits) : ∀ octet ∈ digits.dropLast, 128 ≤ octet.toNat := by
  induction ends with
  | last low => exact nofun
  | @more octet rest high behind ih =>
      have filled : rest ≠ [] := List.ne_nil_of_length_pos behind.length_pos
      rw [List.dropLast_cons_of_ne_nil filled]
      exact List.forall_mem_cons.mpr ⟨high, ih⟩

theorem IsRun.low_getLast (ends : IsRun digits) : ∀ octet ∈ digits.getLast?, octet.toNat < 128 := by
  induction ends with
  | last low => simpa using low
  | @more octet rest high behind ih =>
      obtain ⟨head, tail, rfl⟩ := List.exists_cons_of_length_pos behind.length_pos
      rwa [List.getLast?_cons_cons]

end BerSize

open Wire (Packet)

/-- Bytes behind a variable-length size that is looked for in all that is left of the payload. -/
def takeSizedOfRest (packet : Packet) : Read Bytes :=
  match BerSize.decode (packet.payload.drop packet.offset) with
  | .error fault => (.error fault, packet)
  | .ok (size, used) =>
    match packet.take used with
    | .error fault => (.error fault, packet)
    | .ok (_, packet) =>
      takeAnnounced packet size.toNat (.sizedStringPastEnd packet.offset size.toNat)

/-- Wherever the cursor stands, the window shows what all that is left shows. -/
theorem decode_window (packet : Packet) :
    BerSize.decode ((packet.payload.drop packet.offset).take
        (min packet.bytesLeft BerSize.maxLength)) =
      BerSize.decode (packet.payload.drop packet.offset) := by
  let rest := packet.payload.drop packet.offset
  have within : rest.length ≤ packet.bytesLeft := by
    simp only [rest, Packet.payload, Packet.offset, Packet.bytesLeft, List.length_drop]
    omega
  have window : rest.take (min packet.bytesLeft BerSize.maxLength) =
      rest.take (min rest.length BerSize.maxLength) := by
    have full : rest.take packet.bytesLeft = rest.take rest.length := by
      rw [List.take_of_length_le within, List.take_length]
    rw [Nat.min_comm, ← List.take_take, full, List.take_take, Nat.min_comm]
  exact (congrArg BerSize.decode window).trans (BerSize.decode_take rest)

theorem takeSized_eq_takeSizedOfRest (packet : Packet) :
    takeSized packet = takeSizedOfRest packet := by
  rw [takeSized, decode_window]
  rfl

/-- **Sizes are written in their shortest spelling and read in any.**  The encoding of a size has
the length announced for it, shows its end by the high bits, and is read back whatever follows it.
Of any octets, the first one below 128 among the first five ends the size: it is the number of the
digits up to there, unless that exceeds 32 bits.  Without such an octet, five octets are too long
and fewer are cut off.  What is accepted is no shorter than the encoding, and is the encoding unless
it begins with a zero that is not its last digit.  In a packet, the window that is looked at shows
what all that is left would show. -/
theorem sizes_are_exact (size : UInt32) (octets rest : Bytes) (packet : Packet) :
    (BerSize.encode size).length = BerSize.encodedLength size ∧
    (∀ octet ∈ (BerSize.encode size).dropLast, 128 ≤ octet.toNat) ∧
    (∀ octet ∈ (BerSize.encode size).getLast?, octet.toNat < 128) ∧
    BerSize.decode (BerSize.encode size ++ rest) = .ok (size, BerSize.encodedLength size) ∧
    (∀ last, BerSize.lastDigit? octets = some last →
      BerSize.decode octets =
        let number := BerSize.numberFrom 0 (octets.take (last + 1))
        if number < 2 ^ 32 then .ok (UInt32.ofNat number, last + 1)
        else .error (.tupleInvalid (.sizeTooLarge number))) ∧
    (BerSize.lastDigit? octets = none →
      BerSize.decode octets =
        if 5 ≤ octets.length then .error (.tupleInvalid .sizeTooLong)
        else .error (.tupleMismatch (.sizeCutOff octets.length))) ∧
    (∀ used, BerSize.decode octets = .ok (size, used) →
      BerSize.encodedLength size ≤ used ∧
      (octets.take used = BerSize.encode size ↔ octets.head? ≠ some 0x80)) ∧
    BerSize.decode ((packet.payload.drop packet.offset).take
        (min packet.bytesLeft BerSize.maxLength)) =
      BerSize.decode (packet.payload.drop packet.offset) ∧
    takeSized packet = takeSizedOfRest packet := by
  have spelled := BerSize.encode_spells size
  refine ⟨BerSize.length_encode size, spelled.ends.high_dropLast, spelled.ends.low_getLast,
    BerSize.decode_encode_append size rest, fun last found => BerSize.decode_of_lastDigit? found,
    fun missing => BerSize.decode_of_no_lastDigit? missing, ?accepted, decode_window packet,
    takeSized_eq_takeSizedOfRest packet⟩
  case accepted =>
    intro used read
    obtain ⟨digits, leads, spelled, rfl⟩ := BerSize.decode_eq_ok_iff.mp read
    have least := (BerSize.encode_isShortest size).least digits spelled
    rw [BerSize.length_encode] at least
    have front : octets.take digits.length = digits := (List.prefix_iff_eq_take.mp leads).symm
    have first : octets.head? = digits.head? := by
      obtain ⟨rest, rfl⟩ := leads
      obtain ⟨head, tail, rfl⟩ := List.exists_cons_of_length_pos spelled.ends.length_pos
      rfl
    rw [front, first]
    exact ⟨least, spelled.eq_encode_iff⟩

end RequestMux.Field
