import RequestMux.Proofs.Json.Reading
import RequestMux.Proofs.Json.Writing
import RequestMux.Proofs.Settings.Entries

/-!
# Settings survive their text

The text of settings is one of the texts that are read as these settings.  Which texts these are
is said by the grammar of the texts and by what documents denote settings; so the reader takes just
these texts, and what it takes does not depend on anything else.
-/

namespace RequestMux.Settings

/-! ### The text that is written -/

/-- The document that writes an entry down. -/
def Entry.document : Entry → Json
  | .number value => .number (.ofNat value)
  | .off => .null
  | .flag value => .bool value

/-- The text of that document. -/
def Entry.text : Entry → List Char
  | .number value => Nat.toDigits 10 value
  | .off => ['n', 'u', 'l', 'l']
  | .flag true => ['t', 'r', 'u', 'e']
  | .flag false => ['f', 'a', 'l', 's', 'e']

theorem Entry.writtenAs_document (entry : Entry) : entry.WrittenAs entry.document := by
  cases entry with
  | number value => exact ⟨_, rfl, Json.Numeral.natural?_ofNat value⟩
  | off | flag => rfl

theorem Entry.spells (entry : Entry) : Json.Spells (.value entry.document) entry.text := by
  cases entry with
  | number value => exact .number (Json.Numeral.spells_ofNat value)
  | off => exact .null
  | flag value =>
      cases value with
      | true => exact .yes
      | false => exact .no

theorem toList_valueText (settings : Settings) (key : Key) :
    (settings.valueText key).toList = (settings.entry key).text := by
  cases key with
  | connectTimeout | readTimeout | maxPayload =>
      simp [valueText, entry, Entry.text]
  | pingInterval =>
      cases ping : settings.pingInterval with
      | none => simp [valueText, entry, Entry.text, ping]
      | some interval =>
          simp [valueText, entry, Entry.text, ping]
  | nodelay =>
      cases nodelay : settings.nodelay with
      | true | false => simp [valueText, entry, Entry.text, nodelay]

/-- The name of a key as elements of a string. -/
def Key.symbols (key : Key) : List Json.Symbol := key.name.toList.map .char

theorem Key.letters (key : Key) : Json.Letters key.symbols key.name.toList := by
  have plain : key.name.toList.all (fun c => decide (Json.IsPlain c)) = true := by
    cases key <;> decide
  exact Json.letters_plain fun c inside => of_decide_eq_true (List.all_eq_true.mp plain c inside)

theorem keyOf?_symbols (key : Key) : keyOf? key.symbols = some key := by
  rw [keyOf?, Key.symbols, Json.spell?_plain]
  cases key <;> decide

/-- The member of a key. -/
def member (settings : Settings) (key : Key) : List Json.Symbol × Json :=
  (key.symbols, (settings.entry key).document)

/-- The text of the member. -/
def memberText (settings : Settings) (key : Key) : List Char :=
  Json.memberText [] key.name.toList [] (settings.entry key).text

theorem spells_members (settings : Settings) (key : Key) (keys : List Key) :
    Json.Spells (.members ((key :: keys).map settings.member))
      (List.intercalate [','] ((key :: keys).map settings.memberText)) := by
  have none : Json.AreBlanks [] := nofun
  have value (key : Key) := (settings.entry key).spells.unpadded
  induction keys generalizing key with
  | nil =>
      rw [List.map_singleton, List.map_singleton, List.intercalate_singleton]
      exact .lastMember none key.letters none (value key)
  | cons next keys ih =>
      simp only [List.map_cons, List.intercalate_cons_cons, List.append_assoc,
        List.singleton_append] at ih ⊢
      exact .member none key.letters none (value key) (ih next)

theorem toList_toText (settings : Settings) :
    settings.toText.toList =
      '\x7b' :: (List.intercalate [','] (Key.all.map settings.memberText) ++ ['\x7d']) := by
  have members : Key.all.map settings.memberText = Key.all.map fun key =>
      ("\"" ++ key.name ++ "\":" ++ settings.valueText key).toList := by
    simp [memberText, Json.memberText, toList_valueText]
  simp [toText, String.toList_intercalate, members, Function.comp_def]

theorem spells_toText (settings : Settings) :
    Json.Spells (.padded (.object (Key.all.map settings.member))) settings.toText.toList := by
  rw [toList_toText]
  exact (Json.Spells.object (spells_members settings .connectTimeout _)).unpadded

theorem keysOf_members (settings : Settings) (keys : List Key) :
    keysOf (keys.map settings.member) = keys := by
  induction keys with
  | nil => rfl
  | cons key keys ih =>
      rw [List.map_cons, member, keysOf_cons_of_some (keyOf?_symbols key), ih]

theorem lists_members (settings : Settings) :
    settings.Lists standard (Key.all.map settings.member) where
  named := by
    rintro member inside
    obtain ⟨key, -, rfl⟩ := List.mem_map.mp inside
    exact ⟨key.name, Json.spell?_plain key.name⟩
  written := by
    rintro member inside other known
    obtain ⟨key, -, rfl⟩ := List.mem_map.mp inside
    cases (keyOf?_symbols key).symm.trans known
    exact Entry.writtenAs_document _
  once := by
    rw [keysOf_members]
    decide
  omitted := by
    rintro key missing
    rw [keysOf_members] at missing
    refine absurd ?_ missing
    cases key <;> decide

/-! ### The texts that are read -/

variable {settings : Settings} {document : Json} {text : String}

theorem ofText?_eq_some_iff :
    ofText? text = some settings ↔
      ∃ document, Json.Spells (.padded document) text.toList ∧ settings.Denotes document := by
  simp only [ofText?, Option.bind_eq_bind, Option.bind_eq_some_iff, Json.parse?_eq_some_iff,
    ofJson?_eq_some_iff]

example :
    ofText? (" \x7b\"nodelay\" : false, \"x\":[\x7b\"nodelay\":null\x7d,-2.5e9],"
      ++ "\"\\u0072ead_timeout_ms\":15\x7d\n") =
      some { standard with nodelay := false, readTimeout := 15 } := by
  decide +kernel

/-- Settings end where they end. -/
theorem ofText?_append (read : ofText? text = some settings) (more : String) :
    ofText? (text ++ more) =
      if (Json.skipBlanks more.toList).isEmpty then some settings else none := by
  obtain ⟨document, spells, denotes⟩ := ofText?_eq_some_iff.mp read
  have ends : document.Ends more.toList := by
    cases denotes <;> trivial
  rw [ofText?, String.toList_append, spells.parse?_append ends]
  split
  · exact ofJson?_eq_some_iff.mpr denotes
  · rfl

/-- The settings are read from their text, and from every text that lists their values in any order
or writes them down in the order of the keys, leaving out what is standard.  A text that repeats a
key or goes beyond the range of a key is not read, and nothing but blanks may follow. -/
theorem settings_survive_json (settings : Settings) :
    ofText? settings.toText = some settings ∧
    (∀ text, ofText? text = some settings ↔
      ∃ document, Json.Spells (.padded document) text.toList ∧ settings.Denotes document) ∧
    (∀ (text : String) document, Json.Spells (.padded document) text.toList → Faulty document →
      ofText? text = none) ∧
    ∀ text more, ofText? text = some settings → ¬Json.AreBlanks more.toList →
      ofText? (text ++ more) = none := by
  refine ⟨?_, fun text => ofText?_eq_some_iff, ?_, ?_⟩
  · exact ofText?_eq_some_iff.mpr ⟨_, spells_toText settings, .object (lists_members settings)⟩
  · intro text document spells faulty
    rw [ofText?, Json.parse?_eq_some_iff.mpr spells]
    exact faulty.ofJson?_eq_none
  · intro text more read solid
    have goesOn : (Json.skipBlanks more.toList).isEmpty = false :=
      List.isEmpty_eq_false_iff.mpr fun ended => solid (Json.skipBlanks_eq_nil_iff.mp ended)
    rw [ofText?_append read, goesOn]
    rfl

end RequestMux.Settings
