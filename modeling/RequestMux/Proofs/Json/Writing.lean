import Mathlib.Data.Nat.Digits.Defs
import RequestMux.Proofs.Json.Grammar

/-!
# Plain texts

A natural number is written by its decimal digits, and a string without quotes, escapes and control
characters by its own characters.
-/

namespace RequestMux.Json

/-! ### Natural numbers -/

/-- The numeral of a natural number. -/
def Numeral.ofNat (value : Nat) : Numeral := ⟨false, Nat.toDigits 10 value, none, false⟩

namespace Numeral

theorem ofDigits_toDigits (value : Nat) : ofDigits (Nat.toDigits 10 value) = value := by
  have same : ofDigits (Nat.toDigits 10 value) = Nat.ofDigitChars 10 (Nat.toDigits 10 value) 0 := by
    simp only [ofDigits, Nat.ofDigitChars_eq_foldl, Nat.mul_comm]
  rw [same, Nat.ofDigitChars_ten_toDigits]

theorem natural?_ofNat (value : Nat) : (ofNat value).natural? = some value :=
  congrArg some (ofDigits_toDigits value)

/-- Only the number zero begins with a zero. -/
theorem toDigits_alone (value : Nat) (zero : (Nat.toDigits 10 value).head? = some '0') :
    Nat.toDigits 10 value = ['0'] := by
  induction value using Nat.strongRecOn with
  | ind value ih =>
      rcases Nat.lt_or_ge value 10 with small | large
      · rw [Nat.toDigits_of_lt_base small] at zero ⊢
        exact congrArg (fun digit => [digit]) (Option.some.inj zero)
      · rw [Nat.toDigits_of_base_le (by decide) large,
          List.head?_append_of_ne_nil _ Nat.toDigits_ne_nil] at zero
        have lone := ih (value / 10) (Nat.div_lt_self (by omega) (by decide)) zero
        have nothing : value / 10 = 0 := by
          rw [← ofDigits_toDigits (value / 10), lone]
          rfl
        omega

theorem spells_ofNat (value : Nat) : (ofNat value).Spells (Nat.toDigits 10 value) where
  whole := ⟨Nat.toDigits_ne_nil, fun _ inside =>
    Nat.isDigit_of_mem_toDigits (by decide) (by decide) inside⟩
  alone := toDigits_alone value
  fraction := nofun
  exponent := ⟨[], .absent, by simp [front, ofNat, pointed]⟩

end Numeral

/-! ### Values without blanks -/

theorem Spells.unpadded {document : Json} {text : List Char} (value : Spells (.value document) text) :
    Spells (.padded document) text := by
  have none : AreBlanks [] := nofun
  simpa using Spells.padded none value none

/-! ### Strings -/

/-- Whether a character stands for itself in a string. -/
def IsPlain (c : Char) : Prop := 0x20 ≤ c.toNat ∧ c ≠ '"' ∧ c ≠ '\\'

instance : DecidablePred IsPlain := fun _ => inferInstanceAs (Decidable (_ ∧ _ ∧ _))

theorem letters_plain {text : List Char} (plain : ∀ c ∈ text, IsPlain c) :
    Letters (text.map .char) text := by
  induction text with
  | nil => exact .nil
  | cons c text ih =>
      obtain ⟨first, later⟩ := List.forall_mem_cons.mp plain
      exact .cons (.plain first.1 first.2.1 first.2.2) (ih later)

theorem spellFrom_plain (done text : List Char) :
    spellFrom done (text.map .char) = some (done.reverse ++ text) := by
  induction text generalizing done with
  | nil => simp [spellFrom]
  | cons c text ih => simp [spellFrom, ih]

theorem spell?_plain (text : String) : spell? (text.toList.map .char) = some text := by
  rw [spell?, spellFrom_plain, Option.map_some, List.reverse_nil, List.nil_append,
    String.ofList_toList]

end RequestMux.Json
