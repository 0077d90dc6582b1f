import Mathlib.Algebra.Group.Nat.Even
import RequestMux.Wire.Header

/-!
# Words and headers read back

Writing and reading are inverse to each other on words that fit their width, and so on
headers.
-/

namespace RequestMux

namespace Bytes

/-- Reading a written word gives its value modulo the range of the width. -/
theorem toWord_ofWord (width value : Nat) :
    toWord (ofWord width value) = value % 256 ^ width := by
  induction width generalizing value with
  | zero => simp [ofWord, toWord, Nat.mod_one]
  | succ width ih =>
    simp only [ofWord, toWord, ih]
    have octet : (UInt8.ofNat (value % 256)).toNat = value % 256 := by
      simp
    rw [octet, Nat.pow_succ, Nat.mul_comm (256 ^ width) 256, Nat.mod_mul]

/-- A word read from `n` octets is below `256 ^ n`. -/
theorem toWord_lt (octets : Bytes) : toWord octets < 256 ^ octets.length := by
  induction octets with
  | nil => simp [toWord]
  | cons octet rest ih =>
    have small : octet.toNat < 256 := octet.toNat_lt
    simp only [toWord, List.length_cons, Nat.pow_succ]
    omega

/-- Writing a word that was read gives the octets back. -/
theorem ofWord_toWord (octets : Bytes) : ofWord octets.length (toWord octets) = octets := by
  induction octets with
  | nil => rfl
  | cons octet rest ih =>
    have small : octet.toNat < 256 := octet.toNat_lt
    have low : (octet.toNat + 256 * toWord rest) % 256 = octet.toNat := by omega
    have high : (octet.toNat + 256 * toWord rest) / 256 = toWord rest := by omega
    simp only [toWord, List.length_cons, ofWord, low, high, ih]
    simp

end Bytes

namespace Wire.Header

/-- A header is read back from its encoding, whatever follows. -/
theorem decode?_encode_append (header : Header) (rest : Bytes) :
    decode? (header.encode ++ rest) = some header := by
  have front : (header.encode ++ rest).take size = header.encode := by
    rw [List.take_append_of_le_length (by simp)]
    exact List.take_of_length_le (by simp)
  have word (value : UInt32) :
      UInt32.ofNat (Bytes.toWord (Bytes.ofWord 4 value.toNat)) = value := by
    have small : value.toNat < 256 ^ 4 := value.toNat_lt
    rw [Bytes.toWord_ofWord, Nat.mod_eq_of_lt small]
    simp
  have spent (value : Nat) : (Bytes.ofWord 4 value).drop 8 = [] :=
    List.drop_eq_nil_of_le (by simp)
  unfold decode?
  rw [front]
  simp [encode, size, List.drop_append, word, spent]

/-- The bytes of a header are those it was read from. -/
theorem eq_encode_of_decode? {octets : Bytes} {header : Header}
    (found : decode? octets = some header) : ∃ rest, octets = header.encode ++ rest := by
  refine ⟨octets.drop size, ?_⟩
  have word (part : Bytes) (four : part.length = 4) :
      Bytes.ofWord 4 (UInt32.ofNat (Bytes.toWord part)).toNat = part := by
    have small := Bytes.toWord_lt part
    rw [four] at small
    rw [UInt32.toNat_ofNat_of_lt' small, ← four, Bytes.ofWord_toWord]
  unfold decode? at found
  dsimp only at found
  split at found
  · next full =>
      have twelve : (octets.take size).length = 12 := full
      have back : (octets.take size).drop 8 = ((octets.take size).drop 4).drop 4 := by
        rw [List.drop_drop]
      cases found
      rw [encode, word _ (by rw [List.length_take]; omega),
        word _ (by rw [List.length_take, List.length_drop]; omega),
        word _ (by rw [List.length_drop]; omega), back, List.append_assoc (List.take 4 _),
        List.take_append_drop, List.take_append_drop, List.take_append_drop]
  · cases found

end Wire.Header

end RequestMux
