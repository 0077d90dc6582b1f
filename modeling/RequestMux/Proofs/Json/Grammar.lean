import Mathlib.Data.List.DropRight
import RequestMux.Json.Parser

/-!
# The grammar of JSON texts

A value is written in one of a few forms; blanks may stand around values, around names and inside
empty brackets, and nowhere else.  Elements of strings have several forms each, numbers one: what a
numeral keeps is all that its text says but for the exponent.  The readers of strings and numbers
find just what the grammar has.
-/

namespace RequestMux.Json

/-! ### Forms -/

/-- Nothing but blanks. -/
def AreBlanks (text : List Char) : Prop := ∀ c ∈ text, isBlank c = true

/-- Digits, at least one. -/
structure AreDigits (text : List Char) : Prop where
  filled : text ≠ []
  digits : ∀ c ∈ text, c.isDigit = true

/-- An element of a string, as it is written. -/
inductive Letter : Symbol → List Char → Prop where
  | plain {c : Char} (printable : 0x20 ≤ c.toNat) (noQuote : c ≠ '"') (noEscape : c ≠ '\\') :
      Letter (.char c) [c]
  | short {escape value : Char} (means : shortEscape? escape = some value) :
      Letter (.char value) ['\\', escape]
  | code {a b c d : Char} {unit : Nat} (means : codeUnit? a b c d = some unit) :
      Letter (.code unit) ['\\', 'u', a, b, c, d]

/-- What stands between the quotes of a string. -/
inductive Letters : List Symbol → List Char → Prop where
  | nil : Letters [] []
  | cons {symbol : Symbol} {symbols : List Symbol} {front text : List Char}
      (first : Letter symbol front) (later : Letters symbols text) :
      Letters (symbol :: symbols) (front ++ text)

/-- An exponent, or none. -/
inductive Exponent : Bool → List Char → Prop where
  | absent : Exponent false []
  | given {mark : Char} {sign digits : List Char} (marks : mark = 'e' ∨ mark = 'E')
      (signs : sign = [] ∨ sign = ['+'] ∨ sign = ['-']) (power : AreDigits digits) :
      Exponent true (mark :: (sign ++ digits))

namespace Numeral

/-- The digits behind a point, with the point. -/
def pointed : Option (List Char) → List Char
  | none => []
  | some digits => '.' :: digits

/-- The text of a numeral up to its exponent. -/
def front (numeral : Numeral) : List Char :=
  (if numeral.negative then ['-'] else []) ++ (numeral.whole ++ pointed numeral.fraction)

/-- The text of a number.  Before the point a zero stands alone. -/
structure Spells (numeral : Numeral) (text : List Char) : Prop where
  whole : AreDigits numeral.whole
  alone : numeral.whole.head? = some '0' → numeral.whole = ['0']
  fraction : ∀ digits ∈ numeral.fraction, AreDigits digits
  exponent : ∃ power, Exponent numeral.scaled power ∧ text = numeral.front ++ power

end Numeral

/-- What a text may be a text of. -/
inductive Phrase where
  | value (document : Json)
  /-- A value with blanks around it, which is what a whole document is. -/
  | padded (document : Json)
  /-- What stands between the brackets of an array that is not empty. -/
  | items (items : List Json)
  /-- What stands between the braces of an object that is not empty. -/
  | members (members : List (List Symbol × Json))

/-- The text of a member of an object: a name in quotes and, behind a colon, a value. -/
def memberText (before letters gap text : List Char) : List Char :=
  before ++ '"' :: (letters ++ '"' :: (gap ++ ':' :: text))

/-- The texts of JSON. -/
inductive Spells : Phrase → List Char → Prop where
  | null : Spells (.value .null) ['n', 'u', 'l', 'l']
  | yes : Spells (.value (.bool true)) ['t', 'r', 'u', 'e']
  | no : Spells (.value (.bool false)) ['f', 'a', 'l', 's', 'e']
  | number {numeral : Numeral} {text : List Char} (written : numeral.Spells text) :
      Spells (.value (.number numeral)) text
  | string {symbols : List Symbol} {letters : List Char} (written : Letters symbols letters) :
      Spells (.value (.string symbols)) ('"' :: (letters ++ ['"']))
  | emptyArray {gap : List Char} (blank : AreBlanks gap) :
      Spells (.value (.array [])) ('[' :: (gap ++ [']']))
  | array {items : List Json} {text : List Char} (inside : Spells (.items items) text) :
      Spells (.value (.array items)) ('[' :: (text ++ [']']))
  | emptyObject {gap : List Char} (blank : AreBlanks gap) :
      Spells (.value (.object [])) ('\x7b' :: (gap ++ ['\x7d']))
  | object {members : List (List Symbol × Json)} {text : List Char}
      (inside : Spells (.members members) text) :
      Spells (.value (.object members)) ('\x7b' :: (text ++ ['\x7d']))
  | padded {document : Json} {before text after : List Char} (leading : AreBlanks before)
      (value : Spells (.value document) text) (trailing : AreBlanks after) :
      Spells (.padded document) (before ++ (text ++ after))
  | lastItem {item : Json} {text : List Char} (last : Spells (.padded item) text) :
      Spells (.items [item]) text
  | item {item : Json} {items : List Json} {text others : List Char}
      (first : Spells (.padded item) text) (later : Spells (.items items) others) :
      Spells (.items (item :: items)) (text ++ ',' :: others)
  | lastMember {symbols : List Symbol} {document : Json} {before letters gap text : List Char}
      (leading : AreBlanks before) (name : Letters symbols letters) (blank : AreBlanks gap)
      (last : Spells (.padded document) text) :
      Spells (.members [(symbols, document)]) (memberText before letters gap text)
  | member {symbols : List Symbol} {document : Json} {members : List (List Symbol × Json)}
      {before letters gap text others : List Char}
      (leading : AreBlanks before) (name : Letters symbols letters) (blank : AreBlanks gap)
      (first : Spells (.padded document) text) (later : Spells (.members members) others) :
      Spells (.members ((symbols, document) :: members))
        (memberText before letters gap text ++ ',' :: others)

/-! ### Blanks -/

variable {text before after rest : List Char}

theorem skipBlanks_append (blank : AreBlanks before) (rest : List Char) :
    skipBlanks (before ++ rest) = skipBlanks rest :=
  List.dropWhile_append_of_pos blank

@[simp]
theorem skipBlanks_cons {c : Char} (solid : isBlank c = false) (rest : List Char) :
    skipBlanks (c :: rest) = c :: rest :=
  List.dropWhile_cons_of_neg (Bool.eq_false_iff.mp solid)

theorem skipBlanks_to {c : Char} (blank : AreBlanks before) (solid : isBlank c = false)
    (rest : List Char) : skipBlanks (before ++ c :: rest) = c :: rest := by
  rw [skipBlanks_append blank, skipBlanks_cons solid]

@[simp]
theorem skipBlanks_skipBlanks (text : List Char) : skipBlanks (skipBlanks text) = skipBlanks text :=
  List.dropWhile_idempotent isBlank text

theorem exists_blanks (text : List Char) :
    ∃ before, AreBlanks before ∧ text = before ++ skipBlanks text :=
  ⟨text.takeWhile isBlank, fun _ member => List.mem_takeWhile_imp member,
    List.takeWhile_append_dropWhile.symm⟩

theorem skipBlanks_eq_nil_iff : skipBlanks text = [] ↔ AreBlanks text :=
  List.dropWhile_eq_nil_iff

/-! ### Strings -/

theorem Letter.readString {symbol : Symbol} {front : List Char} (letter : Letter symbol front)
    (done : List Symbol) (rest : List Char) :
    readString done (front ++ rest) = Json.readString (symbol :: done) rest := by
  cases letter with
  | plain printable noQuote noEscape =>
      have solid := Nat.not_lt.mpr printable
      simp [Json.readString, noEscape, solid]
  | @short escape value means =>
      have other : escape ≠ 'u' := by
        rintro rfl
        cases means
      simp [Json.readString, other, means]
  | code means =>
      simp [Json.readString, means]

theorem Letters.readString {symbols : List Symbol} {letters : List Char}
    (written : Letters symbols letters) (done : List Symbol) (rest : List Char) :
    readString done (letters ++ '"' :: rest) = some (done.reverse ++ symbols, rest) := by
  induction written generalizing done with
  | nil => simp [Json.readString]
  | cons first later ih => 
      rw [List.append_assoc, first.readString, ih]
      simp

/-- Whether a text is the rest of a string, of which some elements are read, and what follows it. -/
def Completes (done symbols : List Symbol) (text rest : List Char) : Prop :=
  ∃ later letters, symbols = done.reverse ++ later ∧ Letters later letters ∧
    text = letters ++ '"' :: rest

theorem Completes.cons {symbol : Symbol} {done symbols : List Symbol} {front : List Char}
    (first : Letter symbol front) (completes : Completes (symbol :: done) symbols text rest) :
    Completes done symbols (front ++ text) rest := by
  obtain ⟨later, letters, rfl, written, rfl⟩ := completes
  refine ⟨symbol :: later, front ++ letters, ?_, .cons first written, ?_⟩
  · rw [List.reverse_cons, List.append_assoc, List.singleton_append]
  · rw [List.append_assoc]

theorem completes_of_readString {done symbols : List Symbol}
    (read : readString done text = some (symbols, rest)) : Completes done symbols text rest := by
  fun_induction Json.readString done text with
  | case1 => cases read
  | case2 done rest' =>
      cases read
      exact ⟨[], [], (List.append_nil _).symm, .nil, rfl⟩
  | case3 done a b c d rest' ih =>
      obtain ⟨value, means, read⟩ := Option.bind_eq_some_iff.mp read
      exact (ih value read).cons (.code means)
  | case4 done escape rest' _ ih =>
      obtain ⟨value, means, read⟩ := Option.bind_eq_some_iff.mp read
      exact (ih value read).cons (.short means)
  | case5 => cases read
  | case6 done c rest' noQuote _ _ plain ih =>
      obtain ⟨printable, noEscape⟩ := not_or.mp plain
      exact (ih read).cons (.plain (Nat.le_of_not_lt printable) noQuote noEscape)

/-! ### Numbers -/

/-- Whether a text goes on with something that no number goes on with. -/
def EndsNumber (rest : List Char) : Prop :=
  ∀ c ∈ rest.head?, c.isDigit = false ∧ c ≠ '.' ∧ c ≠ 'e' ∧ c ≠ 'E'

/-- Whether a text does not go on with a digit. -/
def EndsDigits (rest : List Char) : Prop := ∀ c ∈ rest.head?, c.isDigit = false

variable {digits : List Char} {numeral : Numeral}

theorem EndsNumber.endsDigits (ends : EndsNumber rest) : EndsDigits rest :=
  fun c first => (ends c first).1

theorem AreDigits.readDigits (written : AreDigits digits) (ends : EndsDigits rest) :
    readDigits (digits ++ rest) = some (digits, rest) := by
  have stops : rest.takeWhile Char.isDigit = [] ∧ rest.dropWhile Char.isDigit = rest := by
    cases rest with
    | nil => exact ⟨rfl, rfl⟩
    | cons c rest =>
        have other := Bool.eq_false_iff.mp (ends c rfl)
        exact ⟨List.takeWhile_cons_of_neg other, List.dropWhile_cons_of_neg other⟩
  have filled : digits.isEmpty = false := List.isEmpty_eq_false_iff.mpr written.filled
  rw [Json.readDigits, List.takeWhile_append_of_pos written.digits,
    List.dropWhile_append_of_pos written.digits, stops.1, stops.2, List.append_nil]
  simp [filled]

theorem readDigits_eq_some (read : readDigits text = some (digits, rest)) :
    AreDigits digits ∧ text = digits ++ rest := by
  unfold readDigits at read
  dsimp only at read
  split at read
  · cases read
  · next filled =>
      cases read
      exact ⟨⟨fun empty => filled (List.isEmpty_iff.mpr empty), fun c member =>
        List.mem_takeWhile_imp member⟩, List.takeWhile_append_dropWhile.symm⟩

theorem AreDigits.readWhole (written : AreDigits digits)
    (alone : digits.head? = some '0' → digits = ['0']) (ends : EndsDigits rest) :
    readWhole (digits ++ rest) = some (digits, rest) := by
  have fits : ¬(digits.length > 1 ∧ digits.head? = some '0') := by
    rintro ⟨long, zero⟩
    rw [alone zero] at long
    exact Nat.lt_irrefl 1 long
  simp [Json.readWhole, written.readDigits ends, if_neg fits]

theorem readWhole_eq_some (read : readWhole text = some (digits, rest)) :
    AreDigits digits ∧ (digits.head? = some '0' → digits = ['0']) ∧ text = digits ++ rest := by
  obtain ⟨⟨whole, behind⟩, first, read⟩ := Option.bind_eq_some_iff.mp read
  obtain ⟨written, spelled⟩ := readDigits_eq_some first
  dsimp only at read
  split at read
  · cases read
  · next fits =>
      cases read
      refine ⟨written, fun zero => ?_, spelled⟩
      have short : ¬digits.length > 1 := fun long => fits ⟨long, zero⟩
      cases digits with
      | nil => cases zero
      | cons c later =>
          cases zero
          cases later with
          | nil => rfl
          | cons => simp at short

theorem readFraction_append {fraction : Option (List Char)}
    (written : ∀ digits ∈ fraction, AreDigits digits) (ends : EndsDigits rest)
    (noPoint : '.' ∉ rest.head?) :
    readFraction (Numeral.pointed fraction ++ rest) = some (fraction, rest) := by
  cases fraction with
  | none =>
      have other : ∀ later, rest ≠ '.' :: later := by
        rintro later rfl
        exact noPoint rfl
      exact readFraction.eq_2 rest other
  | some digits => simp [Numeral.pointed, readFraction, (written digits rfl).readDigits ends]

theorem readFraction_eq_some {fraction : Option (List Char)}
    (read : readFraction text = some (fraction, rest)) :
    (∀ digits ∈ fraction, AreDigits digits) ∧ text = Numeral.pointed fraction ++ rest := by
  unfold readFraction at read
  split at read
  · obtain ⟨⟨digits, behind⟩, first, read⟩ := Option.bind_eq_some_iff.mp read
    cases read
    obtain ⟨written, rfl⟩ := readDigits_eq_some first
    refine ⟨fun other same => ?_, rfl⟩
    cases same
    exact written
  · cases read
    exact ⟨nofun, rfl⟩

/-- A sign is passed over, and so is none. -/
theorem AreDigits.readPower {sign : List Char} (written : AreDigits digits)
    (signs : sign = [] ∨ sign = ['+'] ∨ sign = ['-']) (ends : EndsDigits rest) :
    Json.readDigits (skipSign (sign ++ (digits ++ rest))) = some (digits, rest) := by
  have skipped : skipSign (sign ++ (digits ++ rest)) = digits ++ rest := by
    rcases signs with rfl | rfl | rfl
    · obtain ⟨c, later, rfl⟩ := List.exists_cons_of_ne_nil written.filled
      have digit := written.digits c List.mem_cons_self
      refine skipSign.eq_3 _ ?_ ?_
      all_goals
        rintro rest same
        cases same
        exact absurd digit (by decide)
    · rfl
    · rfl
  rw [skipped, written.readDigits ends]

theorem exists_sign (text : List Char) :
    ∃ sign, (sign = [] ∨ sign = ['+'] ∨ sign = ['-']) ∧ text = sign ++ skipSign text := by
  unfold skipSign
  split
  · exact ⟨['+'], .inr (.inl rfl), rfl⟩
  · exact ⟨['-'], .inr (.inr rfl), rfl⟩
  · exact ⟨[], .inl rfl, rfl⟩

variable {scaled : Bool} {power : List Char}

theorem Exponent.readExponent (written : Exponent scaled power) (ends : EndsNumber rest) :
    readExponent (power ++ rest) = some (scaled, rest) := by
  cases written with
  | absent =>
      refine readExponent.eq_3 rest ?_ ?_
      all_goals
        rintro later rfl
        have other := ends _ rfl
        simp at other
  | given marks signs power =>
      have read := power.readPower signs ends.endsDigits
      rcases marks with rfl | rfl
      all_goals simp [Json.readExponent, read]

theorem exists_power {mark : Char} (marks : mark = 'e' ∨ mark = 'E')
    (read : readDigits (skipSign text) = some (digits, rest)) :
    ∃ power, Exponent true power ∧ mark :: text = power ++ rest := by
  obtain ⟨sign, signs, signed⟩ := exists_sign text
  obtain ⟨written, spelled⟩ := readDigits_eq_some read
  refine ⟨mark :: (sign ++ digits), .given marks signs written, ?_⟩
  rw [signed, spelled, List.cons_append, List.append_assoc]

theorem readExponent_eq_some (read : readExponent text = some (scaled, rest)) :
    ∃ power, Exponent scaled power ∧ text = power ++ rest := by
  unfold readExponent at read
  split at read
  · obtain ⟨⟨digits, behind⟩, first, read⟩ := Option.bind_eq_some_iff.mp read
    cases read
    exact exists_power (.inl rfl) first
  · obtain ⟨⟨digits, behind⟩, first, read⟩ := Option.bind_eq_some_iff.mp read
    cases read
    exact exists_power (.inr rfl) first
  · cases read
    exact ⟨[], .absent, rfl⟩

/-- Neither digits nor a point may follow what is in front of an exponent. -/
theorem Exponent.follows (written : Exponent scaled power) (ends : EndsNumber rest) :
    EndsDigits (power ++ rest) ∧ '.' ∉ (power ++ rest).head? := by
  cases written with
  | absent => exact ⟨ends.endsDigits, fun point => (ends '.' point).2.1 rfl⟩
  | given marks signs power =>
      rcases marks with rfl | rfl
      all_goals simp [EndsDigits]

namespace Numeral

theorem endsDigits_pointed {fraction : Option (List Char)} (ends : EndsDigits rest) :
    EndsDigits (pointed fraction ++ rest) := by
  cases fraction with
  | none => exact ends
  | some digits => simp [EndsDigits, pointed]

theorem Spells.readNumber (written : numeral.Spells text) (ends : EndsNumber rest) :
    readNumber (text ++ rest) = some (numeral, rest) := by
  obtain ⟨power, exponent, rfl⟩ := written.exponent
  obtain ⟨negative, whole, fraction, scaled⟩ := numeral
  obtain ⟨ended, noPoint⟩ := exponent.follows ends
  have unsigned : readUnsigned negative (whole ++ (pointed fraction ++ (power ++ rest))) =
      some (⟨negative, whole, fraction, scaled⟩, rest) := by
    rw [readUnsigned, written.whole.readWhole written.alone (endsDigits_pointed ended)]
    simp [readFraction_append written.fraction ended noPoint, exponent.readExponent ends]
  cases negative with
  | false =>
      obtain ⟨c, later, rfl⟩ := List.exists_cons_of_ne_nil written.whole.filled
      have digit := written.whole.digits c List.mem_cons_self
      have noSign : c ≠ '-' := by
        rintro rfl
        exact absurd digit (by decide)
      simpa [front, Json.readNumber, noSign] using unsigned
  | true => simpa [front, Json.readNumber] using unsigned

theorem spells_of_readUnsigned {negative : Bool}
    (read : readUnsigned negative text = some (numeral, rest)) :
    ∃ used, numeral.Spells ((if negative then ['-'] else []) ++ used) ∧ text = used ++ rest := by
  obtain ⟨⟨whole, behind⟩, first, read⟩ := Option.bind_eq_some_iff.mp read
  obtain ⟨⟨fraction, behind⟩, second, read⟩ := Option.bind_eq_some_iff.mp read
  obtain ⟨⟨scaled, behind⟩, third, read⟩ := Option.bind_eq_some_iff.mp read
  cases read
  obtain ⟨filled, alone, rfl⟩ := readWhole_eq_some first
  obtain ⟨pointed, rfl⟩ := readFraction_eq_some second
  obtain ⟨power, exponent, rfl⟩ := readExponent_eq_some third
  refine ⟨whole ++ (Numeral.pointed fraction ++ power), ⟨filled, alone, pointed, power, exponent,
    ?_⟩, ?_⟩
  all_goals simp [front]

theorem spells_of_readNumber (read : Json.readNumber text = some (numeral, rest)) :
    ∃ used, numeral.Spells used ∧ text = used ++ rest := by
  unfold Json.readNumber at read
  split at read
  · obtain ⟨used, written, rfl⟩ := spells_of_readUnsigned read
    exact ⟨'-' :: used, written, rfl⟩
  · obtain ⟨used, written, rfl⟩ := spells_of_readUnsigned read
    exact ⟨used, written, rfl⟩

end Numeral

end RequestMux.Json
