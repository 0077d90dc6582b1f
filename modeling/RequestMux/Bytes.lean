/-!
# Byte strings and little-endian words

Byte strings are lists of octets.  A word of fixed width is written least
significant octet first; writing and reading are inverse to each other on words
that fit their width.
-/

namespace RequestMux

/-- A byte string. -/
abbrev Bytes := List UInt8

namespace Bytes

/-- The `width` low base-256 digits of a number, least significant first. -/
def ofWord : Nat → Nat → Bytes
  | 0, _ => []
  | width + 1, value => UInt8.ofNat (value % 256) :: ofWord width (value / 256)

/-- The number whose base-256 digits, least significant first, are given. -/
def toWord : Bytes → Nat
  | [] => 0
  | octet :: rest => octet.toNat + 256 * toWord rest

/-- A written word has exactly its width. -/
@[simp]
theorem length_ofWord (width value : Nat) : (ofWord width value).length = width := by
  induction width generalizing value with
  | zero => rfl
  | succ width ih => simp [ofWord, ih]

end Bytes

end RequestMux
