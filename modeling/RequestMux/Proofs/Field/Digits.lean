import RequestMux.Proofs.Field.Sizes

/-!
# Sizes as strings of digits

A size ends at the first octet whose high bit is clear.  A byte string shows its reader one of
three fronts: a run of digits that ends in time, a run that does not, or the beginning of one that
is cut off.  What is read depends on the front alone, so that a size stays the same whatever follows
it, and a size that is refused stays refused.
-/

namespace RequestMux.Field.BerSize

/-- Octets of one size: only the last has its high bit clear. -/
inductive IsRun : Bytes → Prop where
  | last {octet : UInt8} (low : octet.toNat < 128) : IsRun [octet]
  | more {octet : UInt8} {rest : Bytes} (high : 128 ≤ octet.toNat) (behind : IsRun rest) :
      IsRun (octet :: rest)

/-- The number that octets spell behind a value, seven bits each, most significant first. -/
def numberFrom (value : Nat) (octets : Bytes) : Nat :=
  octets.foldl (fun number octet => number * 128 + octet.toNat % 128) value

/-- Octets that spell a 32-bit size.  Leading zeros are no harm, as long as there is room. -/
structure Spells (digits : Bytes) (size : Nat) : Prop where
  ends : IsRun digits
  short : digits.length ≤ maxLength
  number : numberFrom 0 digits = size
  small : size < UInt32.size

/-- A spelling that no other spelling of the same size is shorter than. -/
structure IsShortest (digits : Bytes) (size : Nat) : Prop where
  spells : Spells digits size
  least : ∀ other, Spells other size → digits.length ≤ other.length

/-- Octets that spell no 32-bit size, however they go on. -/
inductive Overruns : Bytes → Malformed → Prop where
  | long {digits : Bytes} (high : ∀ octet ∈ digits, 128 ≤ octet.toNat)
      (full : digits.length = maxLength) : Overruns digits .sizeTooLong
  | large {digits : Bytes} (ends : IsRun digits) (short : digits.length ≤ maxLength)
      (excess : UInt32.size ≤ numberFrom 0 digits) :
      Overruns digits (.sizeTooLarge (numberFrom 0 digits))

/-- What stands in front of a reader that looks at no more than `room` octets. -/
inductive Front (room : Nat) (octets : Bytes) : Prop where
  | run {digits : Bytes} (ends : IsRun digits) (short : digits.length ≤ room)
      (leads : digits <+: octets)
  | endless {digits : Bytes} (high : ∀ octet ∈ digits, 128 ≤ octet.toNat)
      (full : digits.length = room) (leads : digits <+: octets)
  | cut (high : ∀ octet ∈ octets, 128 ≤ octet.toNat) (short : octets.length < room)

variable {room used value : Nat} {digits octets rest : Bytes} {size : UInt32} {cause : Malformed}

theorem Front.cons {octet : UInt8} (high : 128 ≤ octet.toNat) (front : Front room octets) :
    Front (room + 1) (octet :: octets) := by
  cases front with
  | run ends short leads =>
      exact .run (.more high ends) (Nat.succ_le_succ short)
        ((List.cons_prefix_cons).mpr ⟨rfl, leads⟩)
  | endless all full leads =>
      exact .endless (List.forall_mem_cons.mpr ⟨high, all⟩) (congrArg (· + 1) full)
        ((List.cons_prefix_cons).mpr ⟨rfl, leads⟩)
  | cut all short =>
      exact .cut (List.forall_mem_cons.mpr ⟨high, all⟩) (Nat.succ_lt_succ short)

/-- There are no other fronts. -/
theorem front (room : Nat) (octets : Bytes) : Front room octets := by
  induction room generalizing octets with
  | zero => exact .endless (by simp) rfl (List.nil_prefix)
  | succ room ih =>
      cases octets with
      | nil => exact .cut (by simp) (Nat.succ_pos room)
      | cons octet octets =>
          by_cases low : octet.toNat < 128
          · exact .run (.last low) (Nat.succ_le_succ (Nat.zero_le _)) ⟨octets, rfl⟩
          · exact (ih octets).cons (Nat.le_of_not_lt low)

/-- A digit with its high bit set is taken into the value. -/
theorem decodeFrom_high {octet : UInt8} (high : 128 ≤ octet.toNat) :
    decodeFrom (room + 1) used value (octet :: octets) =
      decodeFrom room (used + 1) (value * 128 + octet.toNat % 128) octets := by
  have bound : octet.toNat < 256 := octet.toNat_lt
  have digit : octet.toNat % 128 = octet.toNat - 128 := by omega
  rw [decodeFrom, if_neg (Nat.not_lt.mpr high), digit]

theorem decodeFrom_run (ends : IsRun digits) (short : digits.length ≤ room) :
    decodeFrom room used value (digits ++ rest) =
      if numberFrom value digits < UInt32.size then
        .ok (UInt32.ofNat (numberFrom value digits), used + digits.length)
      else .error (.tupleInvalid (.sizeTooLarge (numberFrom value digits))) := by
  induction ends generalizing room used value with
  | @last octet low =>
      obtain ⟨room, rfl⟩ := Nat.exists_eq_add_of_le' short
      have digit : octet.toNat % 128 = octet.toNat := Nat.mod_eq_of_lt low
      simp only [List.length_singleton, List.singleton_append, decodeFrom, low, if_true,
        numberFrom, List.foldl_cons, List.foldl_nil, digit]
  | @more octet behind high _ ih =>
      obtain ⟨room, rfl⟩ := Nat.exists_eq_add_of_le' (Nat.le_trans (Nat.le_add_left 1 _) short)
      have total : used + 1 + behind.length = used + (octet :: behind).length := by
        rw [List.length_cons]
        omega
      rw [List.cons_append, decodeFrom_high high, ih (Nat.le_of_succ_le_succ short), total]
      rfl

theorem decodeFrom_endless (high : ∀ octet ∈ digits, 128 ≤ octet.toNat)
    (full : digits.length = room) :
    decodeFrom room used value (digits ++ rest) = .error (.tupleInvalid .sizeTooLong) := by
  induction digits generalizing room used value with
  | nil =>
      subst full
      rw [List.length_nil, decodeFrom]
  | cons octet digits ih =>
      subst full
      obtain ⟨first, others⟩ := List.forall_mem_cons.mp high
      rw [List.length_cons, List.cons_append, decodeFrom_high first, ih others rfl]

theorem decodeFrom_cut (high : ∀ octet ∈ octets, 128 ≤ octet.toNat)
    (short : octets.length < room) :
    decodeFrom room used value octets =
      .error (.tupleMismatch (.sizeCutOff (used + octets.length))) := by
  induction octets generalizing room used value with
  | nil =>
      obtain ⟨room, rfl⟩ := Nat.exists_eq_add_of_le' short
      rfl
  | cons octet octets ih =>
      obtain ⟨room, rfl⟩ := Nat.exists_eq_add_of_le' (Nat.le_trans (Nat.le_add_left 1 _) short)
      obtain ⟨first, others⟩ := List.forall_mem_cons.mp high
      have total : used + 1 + octets.length = used + (octet :: octets).length := by
        rw [List.length_cons]
        omega
      rw [decodeFrom_high first, ih others (Nat.lt_of_succ_lt_succ short), total]

/-- A size is read from its spelling, whatever follows. -/
theorem decode_spells (spelled : Spells digits size.toNat) (leads : digits <+: octets) :
    decode octets = .ok (size, digits.length) := by
  obtain ⟨rest, rfl⟩ := leads
  rw [decode, decodeFrom_run spelled.ends spelled.short, spelled.number, if_pos spelled.small,
    UInt32.ofNat_toNat, Nat.zero_add]

/-- Octets that spell no size are refused, whatever follows. -/
theorem decode_overruns (overrun : Overruns digits cause) (leads : digits <+: octets) :
    decode octets = .error (.tupleInvalid cause) := by
  obtain ⟨rest, rfl⟩ := leads
  cases overrun with
  | long high full => exact decodeFrom_endless high full
  | large ends short excess =>
      rw [decode, decodeFrom_run ends short, if_neg (Nat.not_lt.mpr excess)]

/-- Reading gives a size, refuses the octets, or finds the size cut off. -/
theorem decode_cases (octets : Bytes) :
    (∃ digits size, digits <+: octets ∧ Spells digits (UInt32.toNat size) ∧
      decode octets = .ok (size, digits.length)) ∨
    (∃ digits cause, digits <+: octets ∧ Overruns digits cause ∧
      decode octets = .error (.tupleInvalid cause)) ∨
    ((∀ octet ∈ octets, 128 ≤ octet.toNat) ∧ octets.length < maxLength ∧
      decode octets = .error (.tupleMismatch (.sizeCutOff octets.length))) := by
  cases front maxLength octets with
  | @run digits ends short leads =>
      by_cases small : numberFrom 0 digits < UInt32.size
      · have size : (UInt32.ofNat (numberFrom 0 digits)).toNat = numberFrom 0 digits :=
          UInt32.toNat_ofNat_of_lt' small
        have spelled : Spells digits (UInt32.ofNat (numberFrom 0 digits)).toNat :=
          ⟨ends, short, size.symm, size.symm ▸ small⟩
        exact .inl ⟨digits, _, leads, spelled, decode_spells spelled leads⟩
      · have overrun := Overruns.large ends short (Nat.le_of_not_lt small)
        exact .inr (.inl ⟨digits, _, leads, overrun, decode_overruns overrun leads⟩)
  | @endless digits high full leads =>
      have overrun := Overruns.long high full
      exact .inr (.inl ⟨digits, _, leads, overrun, decode_overruns overrun leads⟩)
  | cut high short =>
      have cutOff : decode octets =
          .error (.tupleMismatch (.sizeCutOff (0 + octets.length))) := decodeFrom_cut high short
      rw [Nat.zero_add] at cutOff
      exact .inr (.inr ⟨high, short, cutOff⟩)

theorem decode_eq_ok_iff :
    decode octets = .ok (size, used) ↔
      ∃ digits, digits <+: octets ∧ Spells digits size.toNat ∧ digits.length = used := by
  constructor
  · intro read
    obtain ⟨digits, other, leads, spelled, found⟩ | ⟨digits, cause, -, -, found⟩ | ⟨-, -, found⟩ :=
      decode_cases octets
    all_goals
      rw [found] at read
      cases read
    exact ⟨digits, leads, spelled, rfl⟩
  · rintro ⟨digits, leads, spelled, rfl⟩
    exact decode_spells spelled leads

theorem decode_eq_invalid_iff :
    decode octets = .error (.tupleInvalid cause) ↔
      ∃ digits, digits <+: octets ∧ Overruns digits cause := by
  constructor
  · intro read
    obtain ⟨digits, other, -, -, found⟩ | ⟨digits, cause, leads, overrun, found⟩ | ⟨-, -, found⟩ :=
      decode_cases octets
    all_goals
      rw [found] at read
      cases read
    exact ⟨digits, leads, overrun⟩
  · rintro ⟨digits, leads, overrun⟩
    exact decode_overruns overrun leads

/-- A reader need not look further than the longest encoding. -/
theorem decode_take (octets : Bytes) :
    decode (octets.take (min octets.length maxLength)) = decode octets := by
  have window {digits : Bytes} (leads : digits <+: octets) (short : digits.length ≤ maxLength) :
      digits <+: octets.take (min octets.length maxLength) :=
    List.prefix_take_iff.mpr ⟨leads, Nat.le_min.mpr ⟨leads.length_le, short⟩⟩
  obtain ⟨digits, size, leads, spelled, found⟩ | ⟨digits, cause, leads, overrun, found⟩ |
    ⟨-, short, -⟩ := decode_cases octets
  · rw [found, decode_spells spelled (window leads spelled.short)]
  · have short : digits.length ≤ maxLength := by
      cases overrun with
      | long high full => exact Nat.le_of_eq full
      | large ends short excess => exact short
    rw [found, decode_overruns overrun (window leads short)]
  · rw [Nat.min_eq_left (Nat.le_of_lt short), List.take_length]

theorem encode_spells (size : UInt32) : Spells (encode size) size.toNat := by
  have read := decode_encode_append size []
  rw [List.append_nil] at read
  obtain ⟨digits, leads, spelled, length⟩ := decode_eq_ok_iff.mp read
  rwa [← leads.eq_of_length (length.trans (length_encode size).symm)]

theorem IsRun.length_pos (ends : IsRun digits) : 0 < digits.length := by
  cases ends <;> exact Nat.succ_pos _

theorem numberFrom_lt (bound : value < 128 ^ used) :
    numberFrom value digits < 128 ^ (used + digits.length) := by
  induction digits generalizing value used with
  | nil => exact bound
  | cons octet digits ih =>
      have grown : value * 128 + octet.toNat % 128 < 128 ^ (used + 1) := by
        rw [Nat.pow_succ]
        omega
      have total : used + (octet :: digits).length = used + 1 + digits.length := by
        rw [List.length_cons]
        omega
      rw [total]
      exact ih grown

/-- A size has at least as many digits as its encoding. -/
theorem encodedLength_le_of_lt (positive : 0 < used) (small : size.toNat < 128 ^ used) :
    encodedLength size ≤ used := by
  have grows {count : Nat} (few : used ≤ count) : 128 ^ used ≤ 128 ^ count :=
    Nat.pow_le_pow_right (by omega) few
  by_contra more
  have few := Nat.lt_of_not_le more
  unfold encodedLength at few
  repeat' split at few
  · omega
  · have := grows (Nat.le_of_lt_succ few)
    omega
  · have := grows (Nat.le_of_lt_succ few)
    omega
  · have := grows (Nat.le_of_lt_succ few)
    omega
  · have := grows (Nat.le_of_lt_succ few)
    omega

/-- The encoding of a size is its shortest spelling. -/
theorem encode_isShortest (size : UInt32) : IsShortest (encode size) size.toNat := by
  refine ⟨encode_spells size, fun other spelled => ?_⟩
  have small : size.toNat < 128 ^ other.length := by
    have bound : numberFrom 0 other < 128 ^ (0 + other.length) :=
      numberFrom_lt (Nat.pow_pos (by omega))
    rwa [spelled.number, Nat.zero_add] at bound
  rw [length_encode]
  exact encodedLength_le_of_lt spelled.ends.length_pos small

end RequestMux.Field.BerSize
