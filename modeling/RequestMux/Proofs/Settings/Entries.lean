import Mathlib.Data.List.Basic
import RequestMux.Settings.Document

/-!
# The documents of settings

Settings have an entry for each key, and a document may write an entry down.  An object lists
settings by their keys in whatever order, an array by the order of the keys; what they leave out is
as in the standard settings.  These documents, and no others, are read as the settings.
-/

namespace RequestMux.Settings

/-! ### Entries -/

/-- What settings have for a key. -/
inductive Entry where
  | number (value : Nat)
  /-- There is nothing of the kind. -/
  | off
  | flag (value : Bool)
  deriving DecidableEq, Repr

/-- Whether a document is an entry written down.  A number has neither sign nor point nor
exponent. -/
def Entry.WrittenAs (document : Json) : Entry → Prop
  | .number value => ∃ numeral, document = .number numeral ∧ numeral.natural? = some value
  | .off => document = .null
  | .flag value => document = .bool value

/-- What the settings have for a key. -/
def entry (settings : Settings) : Key → Entry
  | .connectTimeout => .number settings.connectTimeout.toNat
  | .readTimeout => .number settings.readTimeout.toNat
  | .pingInterval => settings.pingInterval.elim .off fun interval => .number interval.toNat
  | .maxPayload => .number settings.maxPayload.toNat
  | .nodelay => .flag settings.nodelay

/-- Whether an entry is in the range of a key. -/
def Key.Admits : Key → Entry → Prop
  | .connectTimeout, .number value => value < UInt64.size
  | .readTimeout, .number value => value < UInt64.size
  | .pingInterval, .number value => value < UInt64.size
  | .pingInterval, .off => True
  | .maxPayload, .number value => value < UInt32.size
  | .nodelay, .flag _ => True
  | _, _ => False

variable {settings base changed : Settings} {key : Key} {document : Json}

theorem Entry.unique {entry other : Entry} (first : entry.WrittenAs document)
    (second : other.WrittenAs document) : entry = other := by
  cases entry <;> cases other <;> grind [Entry.WrittenAs]

theorem admits_entry (settings : Settings) (key : Key) : key.Admits (settings.entry key) := by
  cases key with
  | connectTimeout => exact settings.connectTimeout.toNat_lt
  | readTimeout => exact settings.readTimeout.toNat_lt
  | pingInterval =>
      unfold entry
      cases settings.pingInterval with
      | none => trivial
      | some interval => exact interval.toNat_lt
  | maxPayload => exact settings.maxPayload.toNat_lt
  | nodelay => trivial

theorem ext_entry (same : ∀ key, settings.entry key = base.entry key) : settings = base := by
  have connect := same .connectTimeout
  have read := same .readTimeout
  have ping := same .pingInterval
  have payload := same .maxPayload
  have nodelay := same .nodelay
  obtain ⟨_, _, interval, _, _⟩ := settings
  obtain ⟨_, _, other, _, _⟩ := base
  cases interval <;> cases other <;>
    simp_all [entry, UInt64.toNat_inj, UInt32.toNat_inj]

/-! ### Putting one entry -/

theorem natural?_eq_some_iff {bound value : Nat} :
    natural? bound document = some value ↔
      value < bound ∧ (Entry.number value).WrittenAs document := by
  cases document with
  | number numeral =>
      simp only [natural?, Entry.WrittenAs, Option.bind_eq_bind, Option.bind_eq_some_iff]
      grind
  | _ => simp [natural?, Entry.WrittenAs]

theorem time?_eq_some_iff {time : UInt64} :
    time? document = some time ↔ (Entry.number time.toNat).WrittenAs document := by
  simp only [time?, Option.map_eq_some_iff, natural?_eq_some_iff]
  constructor
  · rintro ⟨value, ⟨fits, shown⟩, rfl⟩
    rwa [UInt64.toNat_ofNat_of_lt' fits]
  · intro shown
    exact ⟨time.toNat, ⟨time.toNat_lt, shown⟩, UInt64.ofNat_toNat⟩

theorem size_eq_some_iff {size : UInt32} :
    (natural? UInt32.size document).map UInt32.ofNat = some size ↔
      (Entry.number size.toNat).WrittenAs document := by
  simp only [Option.map_eq_some_iff, natural?_eq_some_iff]
  constructor
  · rintro ⟨value, ⟨fits, shown⟩, rfl⟩
    rwa [UInt32.toNat_ofNat_of_lt' fits]
  · intro shown
    exact ⟨size.toNat, ⟨size.toNat_lt, shown⟩, UInt32.ofNat_toNat⟩

/-- An entry written down is put, and the other entries stay. -/
theorem entry_of_put? (put : settings.put? key document = some changed) :
    (changed.entry key).WrittenAs document ∧
      ∀ other ≠ key, changed.entry other = settings.entry other := by
  cases key with
  | connectTimeout =>
      obtain ⟨time, read, rfl⟩ := Option.map_eq_some_iff.mp put
      refine ⟨time?_eq_some_iff.mp read, fun other distinct => ?_⟩
      cases other <;> trivial
  | readTimeout =>
      obtain ⟨time, read, rfl⟩ := Option.map_eq_some_iff.mp put
      refine ⟨time?_eq_some_iff.mp read, fun other distinct => ?_⟩
      cases other <;> trivial
  | pingInterval =>
      have written : (changed.entry .pingInterval).WrittenAs document ∧
          ∃ interval, changed = { settings with pingInterval := interval } := by
        simp only [put?] at put
        split at put
        · cases put
          exact ⟨rfl, none, rfl⟩
        · obtain ⟨time, read, rfl⟩ := Option.map_eq_some_iff.mp put
          exact ⟨time?_eq_some_iff.mp read, some time, rfl⟩
      obtain ⟨written, interval, rfl⟩ := written
      refine ⟨written, fun other distinct => ?_⟩
      cases other <;> trivial
  | maxPayload =>
      obtain ⟨size, read, rfl⟩ := Option.map_eq_some_iff.mp put
      have size_eq := size_eq_some_iff.mp (Option.map_eq_some_iff.mpr ⟨size, read, rfl⟩)
      refine ⟨size_eq, fun other distinct => ?_⟩
      cases other <;> trivial
  | nodelay =>
      cases document with
      | bool flag =>
          cases put
          refine ⟨rfl, fun other distinct => ?_⟩
          cases other <;> trivial
      | _ => cases put

theorem exists_put? (written : (changed.entry key).WrittenAs document) (settings : Settings) :
    ∃ next, settings.put? key document = some next := by
  cases key with
  | connectTimeout | readTimeout =>
      exact ⟨_, Option.map_eq_some_iff.mpr ⟨_, time?_eq_some_iff.mpr written, rfl⟩⟩
  | pingInterval =>
      cases ping : changed.pingInterval with
      | none =>
          simp only [entry, ping] at written
          cases written
          exact ⟨_, rfl⟩
      | some interval =>
          simp only [entry, ping] at written
          have read := time?_eq_some_iff.mpr written
          obtain ⟨numeral, rfl, -⟩ := written
          exact ⟨_, Option.map_eq_some_iff.mpr ⟨_, read, rfl⟩⟩
  | maxPayload =>
      have read := size_eq_some_iff.mpr written
      obtain ⟨size, read, -⟩ := Option.map_eq_some_iff.mp read
      exact ⟨_, Option.map_eq_some_iff.mpr ⟨size, read, rfl⟩⟩
  | nodelay =>
      cases written
      exact ⟨_, rfl⟩

/-! ### Objects -/

/-- The key that a name of a member names. -/
def keyOf? (name : List Json.Symbol) : Option Key := (Json.spell? name).bind Key.ofName?

/-- The keys that members have, in the order of the members. -/
def keysOf (members : List (List Json.Symbol × Json)) : List Key :=
  members.filterMap fun member => keyOf? member.1

/-- Whether members list the settings: their keys do not repeat, the settings have what is written
down for a key, and what is left out is as in the base.  Members with other names may have any
value, but half a surrogate pair has no place in a name. -/
structure Lists (settings base : Settings) (members : List (List Json.Symbol × Json)) : Prop where
  named : ∀ member ∈ members, ∃ name, Json.spell? member.1 = some name
  written : ∀ member ∈ members, ∀ key ∈ keyOf? member.1, (settings.entry key).WrittenAs member.2
  once : (keysOf members).Nodup
  omitted : ∀ key, key ∉ keysOf members → settings.entry key = base.entry key

variable {members : List (List Json.Symbol × Json)} {name : List Json.Symbol} {seen : List Key}

theorem lists_nil_iff : settings.Lists base [] ↔ base = settings := by
  constructor
  · intro lists
    exact (ext_entry fun key => lists.omitted key List.not_mem_nil).symm
  · rintro rfl
    exact ⟨nofun, nofun, List.nodup_nil, fun _ _ => rfl⟩

theorem keysOf_cons_of_none (unknown : keyOf? name = none) (document : Json)
    (members : List (List Json.Symbol × Json)) :
    keysOf ((name, document) :: members) = keysOf members :=
  List.filterMap_cons_none unknown

theorem keysOf_cons_of_some (known : keyOf? name = some key) (document : Json)
    (members : List (List Json.Symbol × Json)) :
    keysOf ((name, document) :: members) = key :: keysOf members :=
  List.filterMap_cons_some known

/-- Members that do not have a key of settings say nothing. -/
theorem lists_other_iff {text : String} (spelled : Json.spell? name = some text)
    (unknown : keyOf? name = none) :
    settings.Lists base ((name, document) :: members) ↔ settings.Lists base members := by
  have same := keysOf_cons_of_none unknown document members
  constructor
  · intro lists
    refine ⟨fun member inside => lists.named member (.tail _ inside),
      fun member inside => lists.written member (.tail _ inside), ?_, ?_⟩
    · exact same ▸ lists.once
    · exact same ▸ lists.omitted
  · intro lists
    refine ⟨List.forall_mem_cons.mpr ⟨⟨text, spelled⟩, lists.named⟩,
      List.forall_mem_cons.mpr ⟨?_, lists.written⟩, ?_, ?_⟩
    · rintro key known
      rw [unknown] at known
      cases known
    · exact same ▸ lists.once
    · exact same ▸ lists.omitted

/-- What one member says may as well be in the base. -/
theorem lists_known_iff {text : String} (spelled : Json.spell? name = some text)
    (known : keyOf? name = some key) (put : base.put? key document = some changed) :
    settings.Lists base ((name, document) :: members) ↔
      settings.Lists changed members ∧ key ∉ keysOf members := by
  have keys := keysOf_cons_of_some known document members
  obtain ⟨written, others⟩ := entry_of_put? put
  constructor
  · intro lists
    have once := lists.once
    have same : settings.entry key = changed.entry key :=
      Entry.unique (lists.written _ List.mem_cons_self key known) written
    rw [keys, List.nodup_cons] at once
    refine ⟨⟨fun member inside => lists.named member (.tail _ inside),
      fun member inside => lists.written member (.tail _ inside), once.2, ?_⟩, once.1⟩
    intro other missing
    rcases eq_or_ne other key with rfl | distinct
    · exact same
    · rw [others other distinct]
      refine lists.omitted other ?_
      rw [keys]
      exact List.not_mem_cons_of_ne_of_not_mem distinct missing
  · rintro ⟨lists, fresh⟩
    refine ⟨List.forall_mem_cons.mpr ⟨⟨text, spelled⟩, lists.named⟩,
      List.forall_mem_cons.mpr ⟨?_, lists.written⟩, ?_, ?_⟩
    · intro other same
      cases known.symm.trans same
      rwa [lists.omitted key fresh]
    · rw [keys]
      exact List.nodup_cons.mpr ⟨fresh, lists.once⟩
    · intro other missing
      rw [keys, List.mem_cons, not_or] at missing
      rw [lists.omitted other missing.2, others other missing.1]

/-- An object is read exactly if its members list the settings and no key was met before. -/
theorem readMembers_eq_some_iff :
    readMembers seen base members = some settings ↔
      settings.Lists base members ∧ ∀ key ∈ keysOf members, key ∉ seen := by
  induction members generalizing base seen with
  | nil => simp [readMembers, lists_nil_iff, keysOf]
  | cons member members ih =>
      obtain ⟨name, document⟩ := member
      cases spelled : Json.spell? name with
      | none =>
          have unspelled : ¬settings.Lists base ((name, document) :: members) := by
            intro lists
            obtain ⟨text, spelling⟩ := lists.named _ List.mem_cons_self
            cases spelled.symm.trans spelling
          simp [readMembers, spelled, unspelled]
      | some text =>
          cases known : Key.ofName? text with
          | none =>
              have unknown : keyOf? name = none := by simp [keyOf?, spelled, known]
              simp [readMembers, spelled, known, ih, lists_other_iff spelled unknown,
                keysOf_cons_of_none unknown]
          | some key =>
              have named : keyOf? name = some key := by simp [keyOf?, spelled, known]
              by_cases again : key ∈ seen
              · simp [readMembers, spelled, known, again, keysOf_cons_of_some named]
              · cases put : base.put? key document with
                | none =>
                    have unwritten : ¬settings.Lists base ((name, document) :: members) := by
                      intro lists
                      obtain ⟨next, putNext⟩ :=
                        exists_put? (lists.written _ List.mem_cons_self key named) base
                      cases put.symm.trans putNext
                    simp [readMembers, spelled, known, again, put, unwritten]
                | some next =>
                    simp [readMembers, spelled, known, again, put, ih,
                      lists_known_iff spelled named put, keysOf_cons_of_some named]
                    grind

/-! ### Arrays -/

/-- Whether documents write down the settings in the order of some keys, where what is left out at
the end is as in the base. -/
inductive InOrder (settings base : Settings) : List Key → List Json → Prop where
  | rest {keys : List Key} (omitted : ∀ key ∈ keys, settings.entry key = base.entry key) :
      InOrder settings base keys []
  | item {key : Key} {document : Json} {keys : List Key} {items : List Json}
      (written : (settings.entry key).WrittenAs document)
      (later : InOrder settings base keys items) :
      InOrder settings base (key :: keys) (document :: items)

variable {keys : List Key} {items : List Json}

theorem InOrder.congr (inOrder : InOrder settings base keys items)
    (same : ∀ key ∈ keys, base.entry key = changed.entry key) :
    InOrder settings changed keys items := by
  induction inOrder with
  | rest omitted => exact .rest fun key inside => (omitted key inside).trans (same key inside)
  | item written later ih => exact .item written (ih fun key inside => same key (.tail _ inside))

theorem readItems_nil : readItems base keys [] = some base := by
  cases keys <;> rfl

/-- An array is read exactly if its items are in order and nothing else differs. -/
theorem readItems_eq_some_iff (distinct : keys.Nodup) :
    readItems base keys items = some settings ↔
      InOrder settings base keys items ∧
        ∀ key, key ∉ keys → settings.entry key = base.entry key := by
  induction items generalizing base keys with
  | nil =>
      constructor
      · intro read
        cases readItems_nil.symm.trans read
        exact ⟨.rest fun _ _ => rfl, fun _ _ => rfl⟩
      · rintro ⟨⟨omitted⟩, others⟩
        have same : base = settings := ext_entry fun key => by
          by_cases inside : key ∈ keys
          · exact (omitted key inside).symm
          · exact (others key inside).symm
        rw [readItems_nil, same]
  | cons document items ih =>
      cases keys with
      | nil =>
          refine ⟨nofun, ?_⟩
          rintro ⟨⟨⟩, -⟩
      | cons key keys =>
          obtain ⟨fresh, distinct⟩ := List.nodup_cons.mp distinct
          constructor
          · intro read
            obtain ⟨next, put, read⟩ := Option.bind_eq_some_iff.mp read
            obtain ⟨written, putOthers⟩ := entry_of_put? put
            obtain ⟨inOrder, others⟩ := (ih distinct).mp read
            refine ⟨.item (others key fresh ▸ written) (inOrder.congr ?_), ?_⟩
            · intro other inside
              exact putOthers other (ne_of_mem_of_not_mem inside fresh)
            · intro other missing
              rw [others other (List.not_mem_of_not_mem_cons missing),
                putOthers other (List.ne_of_not_mem_cons missing)]
          · rintro ⟨inOrder, others⟩
            cases inOrder with
            | item written later =>
                obtain ⟨next, put⟩ := exists_put? written base
                obtain ⟨putWritten, putOthers⟩ := entry_of_put? put
                refine Option.bind_eq_some_iff.mpr ⟨next, put, (ih distinct).mpr ⟨?_, ?_⟩⟩
                · refine later.congr fun other inside => ?_
                  exact (putOthers other (ne_of_mem_of_not_mem inside fresh)).symm
                · intro other missing
                  rcases eq_or_ne other key with rfl | different
                  · exact Entry.unique written putWritten
                  · rw [putOthers other different]
                    exact others other (List.not_mem_cons_of_ne_of_not_mem different missing)

/-! ### Whole documents -/

/-- Whether a document is one of the settings. -/
inductive Denotes (settings : Settings) : Json → Prop where
  | object {members : List (List Json.Symbol × Json)} (lists : settings.Lists standard members) :
      Denotes settings (.object members)
  | array {items : List Json} (inOrder : InOrder settings standard Key.all items) :
      Denotes settings (.array items)

theorem ofJson?_eq_some_iff : ofJson? document = some settings ↔ settings.Denotes document := by
  cases document with
  | object members =>
      rw [ofJson?, readMembers_eq_some_iff]
      constructor
      · rintro ⟨lists, -⟩
        exact .object lists
      · rintro ⟨lists⟩
        exact ⟨lists, fun _ _ => List.not_mem_nil⟩
  | array items =>
      rw [ofJson?, readItems_eq_some_iff (by decide)]
      constructor
      · rintro ⟨inOrder, -⟩
        exact .array inOrder
      · rintro ⟨⟩
        next inOrder =>
          refine ⟨inOrder, fun key missing => absurd ?_ missing⟩
          cases key <;> decide
  | _ => exact ⟨nofun, nofun⟩

/-- Documents that repeat a key, or write down for a key what is not in its range. -/
inductive Faulty : Json → Prop where
  | repeated {members : List (List Json.Symbol × Json)} (twice : ¬(keysOf members).Nodup) :
      Faulty (.object members)
  | member {members : List (List Json.Symbol × Json)} {name : List Json.Symbol} {document : Json}
      {key : Key} (inside : (name, document) ∈ members) (known : keyOf? name = some key)
      (outside : ∀ entry, key.Admits entry → ¬entry.WrittenAs document) :
      Faulty (.object members)
  | item {items : List Json} {index : Nat} {document : Json} {key : Key}
      (inside : items[index]? = some document) (known : Key.all[index]? = some key)
      (outside : ∀ entry, key.Admits entry → ¬entry.WrittenAs document) :
      Faulty (.array items)

theorem InOrder.written {index : Nat} (inOrder : InOrder settings base keys items)
    (inside : items[index]? = some document) (known : keys[index]? = some key) :
    (settings.entry key).WrittenAs document := by
  induction inOrder generalizing index with
  | rest => cases inside
  | item written later ih =>
      cases index with
      | zero =>
          cases inside
          cases known
          exact written
      | succ index => exact ih inside known

theorem Faulty.ofJson?_eq_none (faulty : Faulty document) : ofJson? document = none := by
  refine Option.eq_none_iff_forall_ne_some.mpr fun settings read => ?_
  have denotes := ofJson?_eq_some_iff.mp read
  cases faulty with
  | repeated twice =>
      cases denotes with
      | object lists => exact twice lists.once
  | member inside known outside =>
      cases denotes with
      | object lists =>
          exact outside _ (admits_entry settings _) (lists.written _ inside _ known)
  | item inside known outside =>
      cases denotes with
      | array inOrder =>
          exact outside _ (admits_entry settings _) (inOrder.written inside known)

end RequestMux.Settings
