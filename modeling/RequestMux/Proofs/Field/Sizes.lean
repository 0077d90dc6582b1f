import Mathlib.Algebra.Group.Nat.Even
import RequestMux.Field.BerSize

/-!
# Sizes read back

A size is read back from its digits, whatever follows them, and with it how many
octets it took.  Since no size takes more than the longest encoding, a window of
that length in front of a byte string shows the same.
-/

namespace RequestMux.Field.BerSize

variable {room used value : Nat} {rest : Bytes} {size : UInt32}

theorem decodeFrom_inner (digit : Nat) (small : digit < 128) :
    decodeFrom (room + 1) used value (UInt8.ofNat (digit + 128) :: rest) =
      decodeFrom room (used + 1) (value * 128 + digit) rest := by
  have octet : (UInt8.ofNat (digit + 128)).toNat = digit + 128 := by
    rw [UInt8.toNat_ofNat']
    omega
  have more : ¬digit + 128 < 128 := by omega
  simp only [decodeFrom, octet, more, if_false, Nat.add_sub_cancel]

theorem decodeFrom_last {digit : Nat} (small : digit < 128)
    (fits : value * 128 + digit < UInt32.size) :
    decodeFrom (room + 1) used value (UInt8.ofNat digit :: rest) =
      .ok (UInt32.ofNat (value * 128 + digit), used + 1) := by
  have octet : (UInt8.ofNat digit).toNat = digit := by
    rw [UInt8.toNat_ofNat']
    omega
  simp only [decodeFrom, octet, small, if_true, fits]

/-- Leading digits are taken into the value, the most significant first. -/
theorem decodeFrom_leading (count number : Nat) (digits : number < 128 ^ count) :
    decodeFrom (room + count) used value (leading count number rest) =
      decodeFrom room (used + count) (value * 128 ^ count + number) rest := by
  induction count generalizing number room rest with
  | zero =>
      have nothing : number = 0 := by simpa using digits
      rw [nothing]
      simp [leading]
  | succ count ih =>
      have higher : number / 128 < 128 ^ count := by
        rw [Nat.div_lt_iff_lt_mul (by omega), ← Nat.pow_succ]
        exact digits
      have whole : (value * 128 ^ count + number / 128) * 128 + number % 128 =
          value * 128 ^ (count + 1) + number := by
        rw [Nat.add_mul, Nat.mul_assoc, ← Nat.pow_succ, Nat.add_assoc, Nat.div_add_mod']
      rw [leading, ← Nat.add_assoc, Nat.add_right_comm, ih _ higher,
        decodeFrom_inner _ (Nat.mod_lt _ (by omega)), whole]
      rfl

theorem leading_append (count number : Nat) (front back : Bytes) :
    leading count number front ++ back = leading count number (front ++ back) := by
  induction count generalizing number front with
  | zero => rfl
  | succ count ih => simp only [leading, ih, List.cons_append]

theorem encodedLength_pos (size : UInt32) : 0 < encodedLength size := by
  unfold encodedLength
  repeat' split
  all_goals omega

theorem encodedLength_le (size : UInt32) : encodedLength size ≤ maxLength := by
  unfold encodedLength maxLength
  repeat' split
  all_goals omega

@[simp]
theorem length_encode (size : UInt32) : (encode size).length = encodedLength size := by
  have := encodedLength_pos size
  rw [encode, length_leading, List.length_singleton]
  omega

/-- As many octets are written as the size has digits. -/
theorem div_lt_pow (size : UInt32) : size.toNat / 128 < 128 ^ (encodedLength size - 1) := by
  have word : size.toNat < 4294967296 := size.toNat_lt
  unfold encodedLength
  repeat' split
  all_goals omega

/-- A size is read back from its encoding, whatever follows. -/
theorem decode_encode_append (size : UInt32) (rest : Bytes) :
    decode (encode size ++ rest) = .ok (size, encodedLength size) := by
  have positive := encodedLength_pos size
  have short := encodedLength_le size
  -- all digits but the last leave room for it
  have room : maxLength = maxLength - (encodedLength size - 1) - 1 + 1 +
      (encodedLength size - 1) := by
    omega
  have whole : 0 * 128 ^ (encodedLength size - 1) + size.toNat / 128 = size.toNat / 128 := by
    omega
  have number : size.toNat / 128 * 128 + size.toNat % 128 = size.toNat := by omega
  rw [decode, encode, leading_append, room, decodeFrom_leading _ _ (div_lt_pow size), whole,
    List.singleton_append, decodeFrom_last (Nat.mod_lt _ (by omega)), number, UInt32.ofNat_toNat]
  · have total : 0 + (encodedLength size - 1) + 1 = encodedLength size := by omega
    rw [total]
  · rw [number]
    exact size.toNat_lt

end RequestMux.Field.BerSize
