import RequestMux.Proofs.Json.Grammar

/-!
# What the reader of documents accepts

The reader accepts the texts of the grammar and nothing else, and finds the document that the text
is a text of.  Twice the length of a value is fuel enough for it; what stands in brackets takes one
more, which the brackets themselves provide.
-/

namespace RequestMux.Json

variable {text before after gap rest : List Char} {fuel : Nat}

section Unfolding

-- Here the readers are followed step by step; what comes after the section goes by the results.
attribute [local simp] isBlank readValue readItems readMembers

/-! ### Equations of the readers -/

theorem readValue_skipBlanks (fuel : Nat) (text : List Char) :
    readValue fuel (skipBlanks text) = readValue fuel text := by
  cases fuel with
  | zero => rfl
  | succ fuel => simp

theorem readItems_skipBlanks (fuel : Nat) (text : List Char) :
    readItems fuel (skipBlanks text) = readItems fuel text := by
  cases fuel with
  | zero => rfl
  | succ fuel => simp [readValue_skipBlanks]

theorem readMembers_skipBlanks (fuel : Nat) (text : List Char) :
    readMembers fuel (skipBlanks text) = readMembers fuel text := by
  cases fuel with
  | zero => rfl
  | succ fuel => simp

theorem readValue_blanks (blank : AreBlanks before) (fuel : Nat) (text : List Char) :
    readValue fuel (before ++ text) = readValue fuel text := by
  rw [← readValue_skipBlanks, skipBlanks_append blank, readValue_skipBlanks]

/-! ### Where a text begins -/

/-- Whether a text goes on with something that closes no brackets, behind blanks or not. -/
def Opens (text : List Char) : Prop :=
  ∃ c later, skipBlanks text = c :: later ∧ c ≠ ']' ∧ c ≠ '\x7d'

theorem Opens.blanks (opens : Opens text) (blank : AreBlanks before) : Opens (before ++ text) := by
  obtain ⟨c, later, first, noBracket, noBrace⟩ := opens
  exact ⟨c, later, by rw [skipBlanks_append blank, first], noBracket, noBrace⟩

theorem opens_cons {c : Char} (solid : isBlank c = false) (noBracket : c ≠ ']')
    (noBrace : c ≠ '\x7d') (later : List Char) : Opens (c :: later) :=
  ⟨c, later, skipBlanks_cons solid later, noBracket, noBrace⟩

/-- The first character of a number. -/
def StartsNumber (c : Char) : Prop := c = '-' ∨ c.isDigit = true

theorem StartsNumber.other {c d : Char} (starts : StartsNumber c) (noSign : d ≠ '-')
    (noDigit : d.isDigit = false) : c ≠ d := by
  rintro rfl
  rcases starts with sign | digit
  · exact noSign sign
  · rw [noDigit] at digit
    cases digit

theorem Numeral.Spells.starts {numeral : Numeral} (written : numeral.Spells text) :
    ∃ c later, text = c :: later ∧ StartsNumber c := by
  obtain ⟨power, exponent, rfl⟩ := written.exponent
  obtain ⟨negative, whole, fraction, scaled⟩ := numeral
  cases negative with
  | true => exact ⟨'-', _, rfl, .inl rfl⟩
  | false =>
      obtain ⟨c, later, rfl⟩ := List.exists_cons_of_ne_nil written.whole.filled
      exact ⟨c, _, rfl, .inr (written.whole.digits c List.mem_cons_self)⟩

theorem StartsNumber.solid {c : Char} (starts : StartsNumber c) : isBlank c = false := by
  have space := starts.other (d := ' ') (by decide) (by decide)
  have tab := starts.other (d := '\t') (by decide) (by decide)
  have feed := starts.other (d := '\n') (by decide) (by decide)
  have carriage := starts.other (d := '\r') (by decide) (by decide)
  simp [space, tab, feed, carriage]

theorem opens_of_spells {phrase : Phrase} (spells : Spells phrase text) (rest : List Char) :
    Opens (text ++ rest) := by
  induction spells generalizing rest with
  | null | yes | no | string | emptyArray | array | emptyObject | object =>
      exact opens_cons (by decide) (by decide) (by decide) _
  | number written =>
      obtain ⟨c, later, rfl, starts⟩ := written.starts
      exact opens_cons starts.solid (starts.other (by decide) (by decide))
        (starts.other (by decide) (by decide)) _
  | padded leading value trailing opens =>
      rw [List.append_assoc, List.append_assoc]
      exact (opens _).blanks leading
  | lastItem last opens => exact opens rest
  | item first later opens =>
      rw [List.append_assoc]
      exact opens _
  | lastMember leading | member leading =>
      simp only [memberText, List.append_assoc, List.cons_append]
      exact (opens_cons (by decide) (by decide) (by decide) _).blanks leading

/-! ### Every text of the grammar is read -/

/-- Whether a text that follows a document does not go on with it. -/
def Ends : Json → List Char → Prop
  | .number _, rest => EndsNumber rest
  | _, _ => True

theorem EndsNumber.ends (ends : EndsNumber rest) (document : Json) : Ends document rest := by
  cases document with
  | number => exact ends
  | _ => trivial

theorem endsNumber_cons {c : Char} (closes : c = ',' ∨ c = ']' ∨ c = '\x7d')
    (rest : List Char) : EndsNumber (c :: rest) := by
  intro d first
  obtain rfl : c = d := Option.some.inj first
  rcases closes with rfl | rfl | rfl
  all_goals decide

theorem Ends.blanks {document : Json} (ends : Ends document rest) (blank : AreBlanks after) :
    Ends document (after ++ rest) := by
  cases document with
  | number numeral =>
      cases after with
      | nil => exact ends
      | cons c later =>
          intro d first
          obtain rfl : c = d := Option.some.inj first
          have among : c = ' ' ∨ c = '\t' ∨ c = '\n' ∨ c = '\r' := by
            simpa [or_assoc] using blank c List.mem_cons_self
          rcases among with rfl | rfl | rfl | rfl
          all_goals decide
  | _ => trivial

theorem readValue_number {c : Char} (starts : StartsNumber c) (later : List Char) (fuel : Nat) :
    readValue (fuel + 1) (c :: later) =
      (readNumber (c :: later)).map fun (numeral, rest) => (.number numeral, rest) := by
  have null := starts.other (d := 'n') (by decide) (by decide)
  have yes := starts.other (d := 't') (by decide) (by decide)
  have no := starts.other (d := 'f') (by decide) (by decide)
  have quote := starts.other (d := '"') (by decide) (by decide)
  have bracket := starts.other (d := '[') (by decide) (by decide)
  have brace := starts.other (d := '\x7b') (by decide) (by decide)
  cases read : readNumber (c :: later) with
  | none | some =>
      simp [skipBlanks_cons starts.solid, null, yes, no, quote, bracket, brace, read]

theorem readValue_array (opens : Opens text) (fuel : Nat) :
    readValue (fuel + 1) ('[' :: text) =
      (readItems fuel text).map fun (items, rest) => (.array items, rest) := by
  obtain ⟨c, later, first, noBracket, -⟩ := opens
  rw [← readItems_skipBlanks fuel text, first]
  cases read : readItems fuel (c :: later) with
  | none | some => simp [first, noBracket, read]

theorem readValue_object (opens : Opens text) (fuel : Nat) :
    readValue (fuel + 1) ('\x7b' :: text) =
      (readMembers fuel text).map fun (members, rest) => (.object members, rest) := by
  obtain ⟨c, later, first, -, noBrace⟩ := opens
  rw [← readMembers_skipBlanks fuel text, first]
  cases read : readMembers fuel (c :: later) with
  | none | some => simp [first, noBrace, read]

/-- Whether a text is read as what it is a text of, whatever follows it, with fuel enough. -/
def Phrase.ReadAs (text : List Char) : Phrase → Prop
  | .value document => ∀ fuel rest, 2 * text.length ≤ fuel → Ends document rest →
      readValue fuel (text ++ rest) = some (document, rest)
  | .padded document => ∃ after, AreBlanks after ∧
      ∀ fuel rest, 2 * text.length ≤ fuel → Ends document rest →
        readValue fuel (text ++ rest) = some (document, after ++ rest)
  | .items list => ∀ fuel rest, 2 * text.length < fuel →
      readItems fuel (text ++ ']' :: rest) = some (list, rest)
  | .members entries => ∀ fuel rest, 2 * text.length < fuel →
      readMembers fuel (text ++ '\x7d' :: rest) = some (entries, rest)

namespace Phrase.ReadAs

/-- The fuel of what begins with a given character is not spent yet. -/
theorem exists_fuel {c : Char} (enough : 2 * (c :: text).length ≤ fuel) :
    ∃ left, fuel = left + 1 ∧ 2 * text.length < left := by
  obtain ⟨left, rfl⟩ : ∃ left, fuel = left + 1 := ⟨fuel - 1, by grind⟩
  exact ⟨left, rfl, by grind⟩

theorem number {numeral : Numeral} (written : numeral.Spells text) :
    (Phrase.value (.number numeral)).ReadAs text := by
  intro fuel rest enough ends
  have read := written.readNumber ends
  obtain ⟨c, later, rfl, starts⟩ := written.starts
  obtain ⟨left, rfl, -⟩ := exists_fuel enough
  rw [List.cons_append] at read ⊢
  rw [readValue_number starts, read]
  rfl

theorem string {symbols : List Symbol} {letters : List Char} (written : Letters symbols letters) :
    (Phrase.value (.string symbols)).ReadAs ('"' :: (letters ++ ['"'])) := by
  intro fuel rest enough ends
  obtain ⟨left, rfl, -⟩ := exists_fuel enough
  have read := written.readString [] rest
  simp [read]

theorem array {items : List Json} (inside : Spells (.items items) text)
    (read : (Phrase.items items).ReadAs text) :
    (Phrase.value (.array items)).ReadAs ('[' :: (text ++ [']'])) := by
  intro fuel rest enough ends
  obtain ⟨left, rfl, enough⟩ := exists_fuel enough
  have fits : 2 * text.length < left := by grind
  rw [List.cons_append, List.append_assoc, List.singleton_append,
    readValue_array (opens_of_spells inside _), read left rest fits]
  rfl

theorem emptyArray (blank : AreBlanks gap) :
    (Phrase.value (.array [])).ReadAs ('[' :: (gap ++ [']'])) := by
  intro fuel rest enough ends
  obtain ⟨left, rfl, -⟩ := exists_fuel enough
  have closed : skipBlanks (gap ++ ']' :: rest) = ']' :: rest :=
    skipBlanks_to blank (by decide) rest
  simp [closed]

theorem object {members : List (List Symbol × Json)} (inside : Spells (.members members) text)
    (read : (Phrase.members members).ReadAs text) :
    (Phrase.value (.object members)).ReadAs ('\x7b' :: (text ++ ['\x7d'])) := by
  intro fuel rest enough ends
  obtain ⟨left, rfl, enough⟩ := exists_fuel enough
  have fits : 2 * text.length < left := by grind
  rw [List.cons_append, List.append_assoc, List.singleton_append,
    readValue_object (opens_of_spells inside _), read left rest fits]
  rfl

theorem emptyObject (blank : AreBlanks gap) :
    (Phrase.value (.object [])).ReadAs ('\x7b' :: (gap ++ ['\x7d'])) := by
  intro fuel rest enough ends
  obtain ⟨left, rfl, -⟩ := exists_fuel enough
  have closed : skipBlanks (gap ++ '\x7d' :: rest) = '\x7d' :: rest :=
    skipBlanks_to blank (by decide) rest
  simp [closed]

theorem padded {document : Json} (leading : AreBlanks before)
    (read : (Phrase.value document).ReadAs text) (trailing : AreBlanks after) :
    (Phrase.padded document).ReadAs (before ++ (text ++ after)) := by
  refine ⟨after, trailing, fun fuel rest enough ends => ?_⟩
  have fits : 2 * text.length ≤ fuel := by grind
  rw [List.append_assoc, List.append_assoc, readValue_blanks leading,
    read fuel (after ++ rest) fits (ends.blanks trailing)]

theorem lastItem {item : Json} (read : (Phrase.padded item).ReadAs text) :
    (Phrase.items [item]).ReadAs text := by
  intro fuel rest enough
  obtain ⟨left, rfl⟩ := Nat.exists_eq_add_one_of_ne_zero (Nat.ne_zero_of_lt enough)
  obtain ⟨after, blank, read⟩ := read
  have first := read left (']' :: rest) (by grind) ((endsNumber_cons (by decide) rest).ends item)
  simp [first, skipBlanks_to blank]

theorem item {item : Json} {items : List Json} {others : List Char}
    (read : (Phrase.padded item).ReadAs text) (later : (Phrase.items items).ReadAs others) :
    (Phrase.items (item :: items)).ReadAs (text ++ ',' :: others) := by
  intro fuel rest enough
  obtain ⟨left, rfl⟩ := Nat.exists_eq_add_one_of_ne_zero (Nat.ne_zero_of_lt enough)
  obtain ⟨after, blank, read⟩ := read
  have first := read left (',' :: (others ++ ']' :: rest)) (by grind)
    ((endsNumber_cons (by decide) _).ends item)
  have behind := later left rest (by grind)
  simp [first, skipBlanks_to blank, behind]

theorem lastMember {symbols : List Symbol} {document : Json} {letters : List Char}
    (leading : AreBlanks before) (name : Letters symbols letters) (blank : AreBlanks gap)
    (read : (Phrase.padded document).ReadAs text) :
    (Phrase.members [(symbols, document)]).ReadAs (memberText before letters gap text) := by
  intro fuel rest enough
  obtain ⟨left, rfl⟩ := Nat.exists_eq_add_one_of_ne_zero (Nat.ne_zero_of_lt enough)
  obtain ⟨after, trailing, read⟩ := read
  have fits : 2 * text.length ≤ left := by grind [memberText]
  have value := read left ('\x7d' :: rest) fits ((endsNumber_cons (by decide) rest).ends document)
  simp [memberText, skipBlanks_to, leading, blank, trailing, name.readString, value]

theorem member {symbols : List Symbol} {document : Json} {members : List (List Symbol × Json)}
    {letters others : List Char} (leading : AreBlanks before) (name : Letters symbols letters)
    (blank : AreBlanks gap) (read : (Phrase.padded document).ReadAs text)
    (later : (Phrase.members members).ReadAs others) :
    (Phrase.members ((symbols, document) :: members)).ReadAs
      (memberText before letters gap text ++ ',' :: others) := by
  intro fuel rest enough
  obtain ⟨left, rfl⟩ := Nat.exists_eq_add_one_of_ne_zero (Nat.ne_zero_of_lt enough)
  obtain ⟨after, trailing, read⟩ := read
  have fits : 2 * text.length ≤ left := by grind [memberText]
  have value := read left (',' :: (others ++ '\x7d' :: rest)) fits
    ((endsNumber_cons (by decide) _).ends document)
  have behind := later left rest (by grind)
  simp [memberText, skipBlanks_to, leading, blank, trailing, name.readString, value, behind]

end Phrase.ReadAs

theorem Spells.readAs {phrase : Phrase} (spells : Spells phrase text) : phrase.ReadAs text := by
  induction spells with
  | null | yes | no =>
      intro fuel rest enough ends
      obtain ⟨left, rfl, -⟩ := Phrase.ReadAs.exists_fuel enough
      simp
  | number written => exact .number written
  | string written => exact .string written
  | emptyArray blank => exact .emptyArray blank
  | array inside read => exact .array inside read
  | emptyObject blank => exact .emptyObject blank
  | object inside read => exact .object inside read
  | padded leading _ trailing read => exact .padded leading read trailing
  | lastItem _ read => exact .lastItem read
  | item _ _ read later => exact .item read later
  | lastMember leading name blank _ read => exact .lastMember leading name blank read
  | member leading name blank _ _ read later => exact .member leading name blank read later

end Unfolding

/-! ### Nothing else is read -/

/-- What is read as a value with so much fuel is one, but for blanks before it. -/
def ValuesSpelled (fuel : Nat) : Prop :=
  ∀ text document rest, readValue fuel text = some (document, rest) →
    ∃ before used, AreBlanks before ∧ Spells (.value document) used ∧
      text = before ++ (used ++ rest)

/-- What is read as items with so much fuel are items, up to the bracket. -/
def ItemsSpelled (fuel : Nat) : Prop :=
  ∀ text items rest, readItems fuel text = some (items, rest) →
    ∃ used, Spells (.items items) used ∧ text = used ++ ']' :: rest

/-- What is read as members with so much fuel are members, up to the brace. -/
def MembersSpelled (fuel : Nat) : Prop :=
  ∀ text members rest, readMembers fuel text = some (members, rest) →
    ∃ used, Spells (.members members) used ∧ text = used ++ '\x7d' :: rest

theorem ValuesSpelled.succ (itemsSpelled : ItemsSpelled fuel)
    (membersSpelled : MembersSpelled fuel) : ValuesSpelled (fuel + 1) := by
  intro text document rest read
  obtain ⟨before, blank, spelled⟩ := exists_blanks text
  suffices found : ∃ used, Spells (.value document) used ∧ skipBlanks text = used ++ rest by
    obtain ⟨used, written, same⟩ := found
    exact ⟨before, used, blank, written, by rw [← same, ← spelled]⟩
  unfold readValue at read
  split at read
  · next first =>
      cases read
      exact ⟨_, .null, first⟩
  · next first =>
      cases read
      exact ⟨_, .yes, first⟩
  · next first =>
      cases read
      exact ⟨_, .no, first⟩
  · next first =>
      obtain ⟨⟨symbols, behind⟩, string, read⟩ := Option.bind_eq_some_iff.mp read
      cases read
      obtain ⟨later, letters, rfl, written, rfl⟩ := completes_of_readString string
      exact ⟨_, .string written, by simp [first]⟩
  · next inside first =>
      obtain ⟨gap, empty, gapped⟩ := exists_blanks inside
      split at read
      · next closed =>
          cases read
          refine ⟨_, .emptyArray empty, ?_⟩
          rw [first, gapped, closed]
          simp
      · obtain ⟨⟨items, behind⟩, itemsRead, read⟩ := Option.bind_eq_some_iff.mp read
        cases read
        rw [readItems_skipBlanks] at itemsRead
        obtain ⟨used, written, rfl⟩ := itemsSpelled _ _ _ itemsRead
        exact ⟨_, .array written, by simp [first]⟩
  · next inside first =>
      obtain ⟨gap, empty, gapped⟩ := exists_blanks inside
      split at read
      · next closed =>
          cases read
          refine ⟨_, .emptyObject empty, ?_⟩
          rw [first, gapped, closed]
          simp
      · obtain ⟨⟨members, behind⟩, membersRead, read⟩ := Option.bind_eq_some_iff.mp read
        cases read
        rw [readMembers_skipBlanks] at membersRead
        obtain ⟨used, written, rfl⟩ := membersSpelled _ _ _ membersRead
        exact ⟨_, .object written, by simp [first]⟩
  · obtain ⟨⟨numeral, behind⟩, number, read⟩ := Option.bind_eq_some_iff.mp read
    cases read
    obtain ⟨used, written, same⟩ := Numeral.spells_of_readNumber number
    exact ⟨used, .number written, same⟩

/-- A value that is read goes, with the blanks around it, up to where the text goes on. -/
theorem ValuesSpelled.padded (spelled : ValuesSpelled fuel) {document : Json}
    (read : readValue fuel text = some (document, rest)) :
    ∃ used, Spells (.padded document) used ∧ text = used ++ skipBlanks rest := by
  obtain ⟨before, used, leading, written, rfl⟩ := spelled _ _ _ read
  obtain ⟨after, trailing, same⟩ := exists_blanks rest
  refine ⟨before ++ (used ++ after), .padded leading written trailing, ?_⟩
  rw [List.append_assoc, List.append_assoc, ← same]

theorem ItemsSpelled.succ (valuesSpelled : ValuesSpelled fuel)
    (itemsSpelled : ItemsSpelled fuel) : ItemsSpelled (fuel + 1) := by
  intro text items rest read
  obtain ⟨⟨item, behind⟩, value, afterValue⟩ := Option.bind_eq_some_iff.mp read
  obtain ⟨used, written, same⟩ := valuesSpelled.padded value
  dsimp only at afterValue
  split at afterValue
  · next closed =>
      cases afterValue
      exact ⟨used, .lastItem written, by rw [same, closed]⟩
  · next comma =>
      obtain ⟨⟨later, behind⟩, itemsRead, done⟩ := Option.bind_eq_some_iff.mp afterValue
      cases done
      obtain ⟨others, othersWritten, rfl⟩ := itemsSpelled _ _ _ itemsRead
      exact ⟨_, .item written othersWritten, by simp [same, comma]⟩
  · cases afterValue

theorem MembersSpelled.succ (valuesSpelled : ValuesSpelled fuel)
    (membersSpelled : MembersSpelled fuel) : MembersSpelled (fuel + 1) := by
  intro text members rest read
  obtain ⟨before, leading, spelled⟩ := exists_blanks text
  unfold readMembers at read
  split at read
  · next quote =>
      obtain ⟨⟨symbols, behindName⟩, string, afterName⟩ := Option.bind_eq_some_iff.mp read
      obtain ⟨later, letters, rfl, name, named⟩ := completes_of_readString string
      obtain ⟨gap, blank, gapped⟩ := exists_blanks behindName
      dsimp only at afterName
      split at afterName
      · next colon =>
          obtain ⟨⟨document, behind⟩, value, afterValue⟩ := Option.bind_eq_some_iff.mp afterName
          obtain ⟨used, written, same⟩ := valuesSpelled.padded value
          rw [spelled, quote, named, gapped, colon, same]
          dsimp only at afterValue
          split at afterValue
          · next closed =>
              cases afterValue
              exact ⟨_, .lastMember leading name blank written, by simp [memberText, closed]⟩
          · next comma =>
              obtain ⟨⟨later, behind⟩, membersRead, done⟩ := Option.bind_eq_some_iff.mp afterValue
              cases done
              obtain ⟨others, othersWritten, rfl⟩ := membersSpelled _ _ _ membersRead
              exact ⟨_, .member leading name blank written othersWritten,
                by simp [memberText, comma]⟩
          · cases afterValue
      · cases afterName
  · cases read

theorem readers_spelled (fuel : Nat) :
    ValuesSpelled fuel ∧ ItemsSpelled fuel ∧ MembersSpelled fuel := by
  induction fuel with
  | zero => exact ⟨nofun, nofun, nofun⟩
  | succ fuel ih =>
      obtain ⟨values, items, members⟩ := ih
      exact ⟨.succ items members, .succ values items, .succ values members⟩

/-! ### Whole documents -/

/-- A whole text is read as a document exactly if it is a text of the document. -/
theorem parse?_eq_some_iff {document : Json} :
    parse? text = some document ↔ Spells (.padded document) text := by
  constructor
  · intro parsed
    unfold parse? at parsed
    split at parsed
    · next value rest read =>
        split at parsed
        · next ended =>
            cases parsed
            obtain ⟨used, written, rfl⟩ := (readers_spelled _).1.padded read
            rwa [List.isEmpty_iff.mp ended, List.append_nil]
        · cases parsed
    · cases parsed
  · intro spells
    obtain ⟨after, blank, read⟩ := spells.readAs
    have ends : EndsNumber [] := nofun
    have value := read (2 * text.length + 1) [] (Nat.le_succ _) (ends.ends document)
    rw [List.append_nil, List.append_nil] at value
    simp [parse?, value, skipBlanks_eq_nil_iff.mpr blank]

/-- A document that is not a number ends where it ends, whatever follows. -/
theorem Spells.parse?_append {document : Json} (spells : Spells (.padded document) text)
    (ends : Ends document rest) :
    parse? (text ++ rest) = if (skipBlanks rest).isEmpty then some document else none := by
  obtain ⟨after, blank, read⟩ := spells.readAs
  have value := read (2 * (text ++ rest).length + 1) rest (by grind) ends
  rw [parse?, value]
  simp only [skipBlanks_append blank]

end RequestMux.Json
