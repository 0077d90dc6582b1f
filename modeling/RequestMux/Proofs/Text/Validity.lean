import Mathlib.Data.List.Forall2
import RequestMux.Proofs.Text.Recovery

/-!
# What of a byte string is UTF-8

The well-formed sequences stand in a table, with the values that each octet of a sequence may have.
The table has no row for an overlong form, a surrogate or a value above `10FFFF`.  A byte string is
UTF-8 when it consists of such sequences.  No sequence is the beginning of another, so that the
sequences in front of a byte string are fixed, and what stands behind them decides: it is empty,
or the beginning of a sequence, or no sequence begins with so many of its octets.
-/

namespace RequestMux.Utf8

/-- The least and the greatest value of an octet. -/
structure Span where
  low : Nat
  high : Nat
  deriving DecidableEq

def Span.Admits (span : Span) (octet : UInt8) : Prop :=
  span.low ≤ octet.toNat ∧ octet.toNat ≤ span.high

/-- There are octets with such a value. -/
def Span.IsProper (span : Span) : Prop := span.low ≤ span.high ∧ span.high < 256

instance (span : Span) : Decidable span.IsProper := inferInstanceAs (Decidable (_ ∧ _))

/-- The octets that carry six bits behind a lead octet. -/
def Span.tail : Span := ⟨0x80, 0xBF⟩

/-- The well-formed sequences, octet by octet. -/
def table : List (List Span) :=
  [[⟨0x00, 0x7F⟩],
   [⟨0xC2, 0xDF⟩, .tail],
   [⟨0xE0, 0xE0⟩, ⟨0xA0, 0xBF⟩, .tail],
   [⟨0xE1, 0xEC⟩, .tail, .tail],
   [⟨0xED, 0xED⟩, ⟨0x80, 0x9F⟩, .tail],
   [⟨0xEE, 0xEF⟩, .tail, .tail],
   [⟨0xF0, 0xF0⟩, ⟨0x90, 0xBF⟩, .tail, .tail],
   [⟨0xF1, 0xF3⟩, .tail, .tail, .tail],
   [⟨0xF4, 0xF4⟩, ⟨0x80, 0x8F⟩, .tail, .tail]]

/-- The octets fit one row of the table. -/
def IsSequence (octets : Bytes) : Prop :=
  ∃ spans ∈ table, List.Forall₂ Span.Admits spans octets

/-- Sequences, one after another. -/
inductive IsUtf8 : Bytes → Prop where
  | nil : IsUtf8 []
  | append {front rest : Bytes} (sequence : IsSequence front) (spelled : IsUtf8 rest) :
      IsUtf8 (front ++ rest)

/-- Octets that can be continued to UTF-8. -/
def IsExtendable (octets : Bytes) : Prop := ∃ more, IsUtf8 (octets ++ more)

/-- The first octets of a sequence, but not all of them. -/
def IsBegun (part : Bytes) : Prop := ∃ next more, IsSequence (part ++ next :: more)

/-- What is due behind a lead octet, by the number of octets and the range of the first of them. -/
def due : Nat → Nat → Nat → List Span
  | 0, _, _ => []
  | more + 1, low, high => ⟨low, high⟩ :: List.replicate more .tail

variable {index value owed low high : Nat} {done : List Char}
  {octet first : UInt8} {octets front part rest more : Bytes} {lead : Lead} {sequence : Open}
  {defect : Defect}

/-! ### The table and the lead octets -/

theorem lead?_of_row {span : Span} {spans : List Span} (row : span :: spans ∈ table)
    (admitted : span.Admits first) :
    ∃ lead, lead? first.toNat = some lead ∧ due lead.owed lead.low lead.high = spans := by
  obtain ⟨least, most⟩ := admitted
  simp only [table, List.mem_cons, List.cons.injEq, List.not_mem_nil, or_false] at row
  unfold lead?
  obtain ⟨rfl, rfl⟩ | ⟨rfl, rfl⟩ | ⟨rfl, rfl⟩ | ⟨rfl, rfl⟩ | ⟨rfl, rfl⟩ | ⟨rfl, rfl⟩ | ⟨rfl, rfl⟩ |
    ⟨rfl, rfl⟩ | ⟨rfl, rfl⟩ := row
  all_goals
    -- each row is one branch, behind those of smaller lead octets
    dsimp only at least most
    repeat first
      | rw [if_pos (by omega)]
      | rw [if_neg (by omega)]
    exact ⟨_, rfl, rfl⟩

theorem row_of_span {lead : Lead} (least most : Nat)
    (leads : some ⟨value, owed, low, high⟩ = some lead)
    (row : ⟨least, most⟩ :: due owed low high ∈ table)
    (above : least ≤ first.toNat) (below : first.toNat ≤ most) :
    ∃ span, span :: due lead.owed lead.low lead.high ∈ table ∧ span.Admits first := by
  obtain rfl := Option.some.inj leads
  exact ⟨⟨least, most⟩, row, above, below⟩

theorem row_of_lead? (leads : lead? first.toNat = some lead) :
    ∃ span, span :: due lead.owed lead.low lead.high ∈ table ∧ span.Admits first := by
  unfold lead? at leads
  split at leads
  · exact row_of_span 0x00 0x7F leads (by decide) (by omega) (by omega)
  split at leads
  · cases leads
  split at leads
  · exact row_of_span 0xC2 0xDF leads (by decide) (by omega) (by omega)
  split at leads
  · exact row_of_span 0xE0 0xE0 leads (by decide) (by omega) (by omega)
  split at leads
  · exact row_of_span 0xED 0xED leads (by decide) (by omega) (by omega)
  split at leads
  · -- two rows, and the lead octet of surrogates between them
    by_cases early : first.toNat < 0xED
    · exact row_of_span 0xE1 0xEC leads (by decide) (by omega) (by omega)
    · exact row_of_span 0xEE 0xEF leads (by decide) (by omega) (by omega)
  split at leads
  · exact row_of_span 0xF0 0xF0 leads (by decide) (by omega) (by omega)
  split at leads
  · exact row_of_span 0xF1 0xF3 leads (by decide) (by omega) (by omega)
  split at leads
  · exact row_of_span 0xF4 0xF4 leads (by decide) (by omega) (by omega)
  · cases leads

/-- A sequence is a lead octet and the octets that it announces. -/
theorem isSequence_cons_iff :
    IsSequence (first :: more) ↔ ∃ lead, lead? first.toNat = some lead ∧
      List.Forall₂ Span.Admits (due lead.owed lead.low lead.high) more := by
  constructor
  · rintro ⟨_, row, fits⟩
    cases fits with
    | cons admitted fits =>
        obtain ⟨lead, leads, same⟩ := lead?_of_row row admitted
        exact ⟨lead, leads, same ▸ fits⟩
  · rintro ⟨lead, leads, fits⟩
    obtain ⟨span, row, admitted⟩ := row_of_lead? leads
    exact ⟨_, row, .cons admitted fits⟩

theorem IsSequence.ne_nil (sequence : IsSequence octets) : octets ≠ [] := by
  rintro rfl
  obtain ⟨spans, row, fits⟩ := sequence
  obtain rfl := List.forall₂_nil_right_iff.mp fits
  exact absurd row (by decide)

/-! ### No sequence begins another -/

theorem IsSequence.eq_nil (sequence : IsSequence front) (longer : IsSequence (front ++ rest)) :
    rest = [] := by
  cases front with
  | nil => exact absurd rfl sequence.ne_nil
  | cons first more =>
      obtain ⟨lead, leads, fits⟩ := isSequence_cons_iff.mp sequence
      obtain ⟨lead', leads', fits'⟩ := isSequence_cons_iff.mp longer
      obtain rfl := Option.some.inj (leads.symm.trans leads')
      have same : more.length = (more ++ rest).length := fits.length_eq.symm.trans fits'.length_eq
      rw [List.length_append] at same
      exact List.eq_nil_of_length_eq_zero (by omega)

/-- Of two sequences in front of a byte string neither is longer. -/
theorem IsSequence.eq_of_append {front' rest' : Bytes} (sequence : IsSequence front)
    (sequence' : IsSequence front') (same : front ++ rest = front' ++ rest') :
    front = front' ∧ rest = rest' := by
  obtain ⟨more, rfl, rfl⟩ | ⟨more, rfl, rfl⟩ := List.append_eq_append_iff.mp same
  · obtain rfl := sequence.eq_nil sequence'
    exact ⟨(List.append_nil _).symm, rfl⟩
  · obtain rfl := sequence'.eq_nil sequence
    exact ⟨List.append_nil _, rfl⟩

/-- Behind sequences only sequences complete a byte string. -/
theorem isUtf8_append_iff (spelled : IsUtf8 front) : IsUtf8 (front ++ rest) ↔ IsUtf8 rest := by
  induction spelled with
  | nil => exact Iff.rfl
  | @append front middle sequence spelled ih =>
      rw [List.append_assoc, ← ih]
      constructor
      · intro whole
        generalize same : front ++ (middle ++ rest) = octets at whole
        cases whole with
        | nil => exact absurd (List.append_eq_nil_iff.mp same).1 sequence.ne_nil
        | append sequence' spelled' =>
            obtain ⟨rfl, rfl⟩ := sequence.eq_of_append sequence' same
            exact spelled'
      · exact .append sequence

/-- What is UTF-8 and not empty has a sequence in front. -/
theorem IsUtf8.exists_front (spelled : IsUtf8 octets) (nonempty : octets ≠ []) :
    ∃ front, IsSequence front ∧ front <+: octets := by
  cases spelled with
  | nil => exact absurd rfl nonempty
  | append sequence spelled => exact ⟨_, sequence, List.prefix_append _ _⟩

/-! ### Octets that no sequence stands in front of -/

theorem append_cons_ne_nil : part ++ octet :: more ≠ [] :=
  List.append_ne_nil_of_right_ne_nil part (List.cons_ne_nil octet more)

/-- The octets begin no sequence that ends among them, and why: one goes wrong behind so many of its
octets, of which the lead octet counts in any case, or the octets end too early. -/
inductive IsStuck (index : Nat) : Bytes → Defect → Prop where
  | invalid {part behind : Bytes} {octet : UInt8} (begun : IsBegun part)
      (refused : ∀ more, ¬IsSequence (part ++ octet :: more)) :
      IsStuck index (part ++ octet :: behind) (.invalid index (max 1 part.length))
  | incomplete {part : Bytes} (nonempty : part ≠ []) (begun : IsBegun part) :
      IsStuck index part (.incomplete index)

theorem IsBegun.not_isSequence (begun : IsBegun part) (leads : front <+: part) :
    ¬IsSequence front := by
  intro sequence
  obtain ⟨rest, rfl⟩ := leads
  obtain ⟨next, more, longer⟩ := begun
  rw [List.append_assoc] at longer
  exact append_cons_ne_nil (sequence.eq_nil longer)

theorem IsStuck.not_isPrefix (stuck : IsStuck index octets defect) (sequence : IsSequence front) :
    ¬front <+: octets := by
  intro leads
  cases stuck with
  | incomplete nonempty begun => exact begun.not_isSequence leads sequence
  | @invalid part behind octet begun refused =>
      obtain ⟨rest, same⟩ := leads
      obtain ⟨more, rfl, -⟩ | ⟨more, rfl, split⟩ := List.append_eq_append_iff.mp same
      · exact begun.not_isSequence (List.prefix_append front more) sequence
      · cases more with
        | nil =>
            rw [List.append_nil] at sequence
            exact begun.not_isSequence List.prefix_rfl sequence
        | cons next more =>
            obtain ⟨rfl, -⟩ := List.cons.inj split
            exact refused more sequence

theorem IsStuck.not_isUtf8 (stuck : IsStuck index octets defect) : ¬IsUtf8 octets := by
  intro spelled
  have nonempty : octets ≠ [] := by
    cases stuck with
    | incomplete nonempty begun => exact nonempty
    | invalid => exact append_cons_ne_nil
  obtain ⟨front, sequence, leads⟩ := spelled.exists_front nonempty
  exact stuck.not_isPrefix sequence leads

theorem IsBegun.isExtendable (begun : IsBegun part) : IsExtendable part := by
  obtain ⟨next, more, sequence⟩ := begun
  have whole := IsUtf8.append sequence .nil
  rw [List.append_nil] at whole
  exact ⟨_, whole⟩

theorem not_isExtendable_of_refused (begun : IsBegun part)
    (refused : ∀ more, ¬IsSequence (part ++ octet :: more)) :
    ¬IsExtendable (part ++ octet :: rest) := by
  rintro ⟨more, spelled⟩
  rw [List.append_assoc] at spelled
  have stuck : IsStuck 0 (part ++ octet :: (rest ++ more)) _ := .invalid begun refused
  exact stuck.not_isUtf8 spelled

theorem isExtendable_append_iff (spelled : IsUtf8 front) :
    IsExtendable (front ++ rest) ↔ IsExtendable rest := by
  simp only [IsExtendable, List.append_assoc, isUtf8_append_iff spelled]

/-! ### The reader -/

theorem isBegun_nil : IsBegun [] :=
  ⟨0, [], [⟨0x00, 0x7F⟩], by decide, .cons ⟨by decide, by decide⟩ .nil⟩

theorem due_tail (owed : Nat) : due owed 0x80 0xBF = List.replicate owed .tail := by
  cases owed <;> rfl

/-- A sequence that is kept open, and the octets of it that were read. -/
structure Tracks (part : Bytes) (sequence : Open) : Prop where
  read : sequence.length = part.length
  nonempty : part ≠ []
  owes : 0 < sequence.owed
  proper : ∀ span ∈ due sequence.owed sequence.low sequence.high, span.IsProper
  completes : ∀ more, IsSequence (part ++ more) ↔
    List.Forall₂ Span.Admits (due sequence.owed sequence.low sequence.high) more

theorem proper_of_table : ∀ spans ∈ table, ∀ span ∈ spans, span.IsProper := by
  decide

theorem exists_admitted {spans : List Span} (proper : ∀ span ∈ spans, span.IsProper) :
    ∃ octets, List.Forall₂ Span.Admits spans octets := by
  induction spans with
  | nil => exact ⟨[], .nil⟩
  | cons span spans ih =>
      obtain ⟨range, small⟩ := proper span List.mem_cons_self
      obtain ⟨octets, fits⟩ := ih fun span among => proper span (List.mem_cons_of_mem _ among)
      have value : (UInt8.ofNat span.low).toNat = span.low :=
        UInt8.toNat_ofNat_of_lt' (Nat.lt_of_le_of_lt range small)
      refine ⟨UInt8.ofNat span.low :: octets, .cons ?_ fits⟩
      rw [Span.Admits, value]
      exact ⟨Nat.le_refl _, range⟩

theorem Tracks.isBegun (tracks : Tracks part sequence) : IsBegun part := by
  obtain ⟨octets, fits⟩ := exists_admitted tracks.proper
  cases octets with
  | nil =>
      have none := fits.length_eq
      obtain ⟨more, owed⟩ := Nat.exists_eq_add_of_lt tracks.owes
      rw [owed] at none
      cases none
  | cons next more => exact ⟨next, more, (tracks.completes _).mpr fits⟩

/-- What is due, an octet further on. -/
theorem due_of_pos (owes : 0 < owed) :
    due owed low high = ⟨low, high⟩ :: due (owed - 1) 0x80 0xBF := by
  obtain ⟨more, rfl⟩ := Nat.exists_eq_succ_of_ne_zero (Nat.ne_of_gt owes)
  rw [Nat.succ_sub_one, due_tail]
  rfl

theorem Tracks.completes_cons (tracks : Tracks part sequence) :
    IsSequence (part ++ octet :: more) ↔
      (sequence.low ≤ octet.toNat ∧ octet.toNat ≤ sequence.high) ∧
        List.Forall₂ Span.Admits (due (sequence.owed - 1) 0x80 0xBF) more := by
  rw [tracks.completes, due_of_pos tracks.owes, List.forall₂_cons]
  rfl

theorem Tracks.next (tracks : Tracks part sequence)
    (admitted : sequence.low ≤ octet.toNat ∧ octet.toNat ≤ sequence.high)
    (owes : ¬sequence.owed ≤ 1) (value : Nat) :
    Tracks (part ++ [octet])
      ⟨sequence.start, sequence.length + 1, value, sequence.owed - 1, 0x80, 0xBF⟩ where
  read := by rw [tracks.read, List.length_append, List.length_singleton]
  nonempty := append_cons_ne_nil
  owes := Nat.sub_pos_of_lt (Nat.lt_of_not_le owes)
  proper span among := by
    have proper := tracks.proper
    rw [due_of_pos tracks.owes] at proper
    exact proper span (List.mem_cons_of_mem _ among)
  completes more := by
    rw [List.append_assoc, List.singleton_append, tracks.completes_cons]
    exact and_iff_right admitted

/-- Reading on takes the rest of the sequence, or gets stuck in it. -/
theorem decodeFrom_some_cases (tracks : Tracks part sequence) (index : Nat) (done : List Char)
    (rest : Bytes) :
    (∃ more behind char, rest = more ++ behind ∧ IsSequence (part ++ more) ∧
      decodeFrom index (some sequence) done rest =
        decodeFrom (index + more.length) none (char :: done) behind) ∨
    ∃ defect, IsStuck sequence.start (part ++ rest) defect ∧
      decodeFrom index (some sequence) done rest = .error defect := by
  induction rest generalizing index part sequence with
  | nil =>
      rw [List.append_nil]
      exact .inr ⟨_, .incomplete tracks.nonempty tracks.isBegun, rfl⟩
  | cons octet rest ih =>
      rw [decodeFrom]
      by_cases admitted : sequence.low ≤ octet.toNat ∧ octet.toNat ≤ sequence.high
      · rw [if_pos admitted]
        by_cases last : sequence.owed ≤ 1
        · rw [if_pos last]
          have ends : sequence.owed - 1 = 0 := Nat.sub_eq_zero_of_le last
          have fits : List.Forall₂ Span.Admits (due (sequence.owed - 1) 0x80 0xBF) [] := by
            rw [ends]
            exact .nil
          exact .inl ⟨[octet], rest, _, rfl, tracks.completes_cons.mpr ⟨admitted, fits⟩, rfl⟩
        · rw [if_neg last]
          obtain ⟨more, behind, char, rfl, whole, read⟩ | ⟨defect, stuck, read⟩ :=
            ih (tracks.next admitted last _) (index + 1)
          · rw [List.append_assoc] at whole
            refine .inl ⟨octet :: more, behind, char, rfl, whole, ?_⟩
            rw [read, List.length_cons, Nat.add_assoc, Nat.add_comm 1]
          · rw [List.append_assoc] at stuck
            exact .inr ⟨defect, stuck, read⟩
      · rw [if_neg admitted, tracks.read]
        have long : max 1 part.length = part.length :=
          Nat.max_eq_right (List.length_pos_of_ne_nil tracks.nonempty)
        have stuck : IsStuck sequence.start (part ++ octet :: rest) _ :=
          .invalid tracks.isBegun fun more whole => admitted (tracks.completes_cons.mp whole).1
        rw [long] at stuck
        exact .inr ⟨_, stuck, rfl⟩

theorem tracks_lead (index : Nat) (leads : lead? first.toNat = some lead) (owes : lead.owed ≠ 0) :
    Tracks [first] ⟨index, 1, lead.value, lead.owed, lead.low, lead.high⟩ where
  read := rfl
  nonempty := List.cons_ne_nil _ _
  owes := Nat.pos_of_ne_zero owes
  proper span among := by
    obtain ⟨span', row, -⟩ := row_of_lead? leads
    exact proper_of_table _ row span (List.mem_cons_of_mem _ among)
  completes more := by
    rw [List.singleton_append, isSequence_cons_iff, leads]
    simp only [Option.some.injEq, exists_eq_left']

/-- Reading takes the sequence in front, or none stands there. -/
theorem decodeFrom_none_cases (nonempty : octets ≠ []) :
    (∃ front behind char, octets = front ++ behind ∧ IsSequence front ∧
      decodeFrom index none done octets =
        decodeFrom (index + front.length) none (char :: done) behind) ∨
    ∃ defect, IsStuck index octets defect ∧ decodeFrom index none done octets = .error defect := by
  cases octets with
  | nil => exact absurd rfl nonempty
  | cons first rest =>
      rw [decodeFrom]
      cases leads : lead? first.toNat with
      | none =>
          have stuck : IsStuck index ([] ++ first :: rest) _ := .invalid isBegun_nil (by
            rintro more sequence
            obtain ⟨lead, leads', -⟩ := isSequence_cons_iff.mp sequence
            rw [leads] at leads'
            cases leads')
          exact .inr ⟨_, stuck, rfl⟩
      | some lead =>
          dsimp only
          by_cases alone : lead.owed = 0
          · have fits : List.Forall₂ Span.Admits (due lead.owed lead.low lead.high) [] := by
              rw [alone]
              exact .nil
            rw [if_pos alone]
            exact .inl ⟨[first], rest, _, rfl, isSequence_cons_iff.mpr ⟨lead, leads, fits⟩, rfl⟩
          · rw [if_neg alone]
            obtain ⟨more, behind, char, rfl, whole, read⟩ | stuck :=
              decodeFrom_some_cases (tracks_lead index leads alone) (index + 1) done rest
            · refine .inl ⟨first :: more, behind, char, rfl, whole, ?_⟩
              rw [read, List.length_cons, Nat.add_assoc, Nat.add_comm 1]
            · exact .inr stuck

/-- Reading takes sequences as long as there are any, and comes to the end or gets stuck. -/
theorem decodeFrom_cases (index : Nat) (done : List Char) (octets : Bytes) :
    (IsUtf8 octets ∧ ∃ chars, decodeFrom index none done octets = .ok chars) ∨
    ∃ whole rest defect, octets = whole ++ rest ∧ IsUtf8 whole ∧
      IsStuck (index + whole.length) rest defect ∧
      decodeFrom index none done octets = .error defect := by
  induction size : octets.length using Nat.strongRecOn generalizing index done octets with
  | ind size ih =>
      subst size
      by_cases empty : octets = []
      · subst empty
        exact .inl ⟨.nil, _, rfl⟩
      obtain ⟨front, behind, char, rfl, sequence, read⟩ | ⟨defect, stuck, read⟩ :=
        decodeFrom_none_cases empty
      · have shorter : behind.length < (front ++ behind).length := by
          rw [List.length_append]
          exact Nat.lt_add_of_pos_left (List.length_pos_of_ne_nil sequence.ne_nil)
        rw [read]
        obtain ⟨spelled, found⟩ | ⟨whole, rest, defect, rfl, spelled, stuck, found⟩ :=
          ih _ shorter (index + front.length) (char :: done) behind rfl
        · exact .inl ⟨.append sequence spelled, found⟩
        · refine .inr ⟨front ++ whole, rest, defect, (List.append_assoc _ _ _).symm,
            .append sequence spelled, ?_, found⟩
          rwa [List.length_append, ← Nat.add_assoc]
      · exact .inr ⟨[], octets, defect, rfl, .nil, stuck, read⟩

/-- What is read is UTF-8, and nothing else is. -/
theorem isUtf8_iff : IsUtf8 octets ↔ ∃ text, encode text = octets := by
  simp only [← decode_eq_ok_iff, decode]
  obtain ⟨spelled, chars, read⟩ | ⟨whole, rest, defect, rfl, front, stuck, read⟩ :=
    decodeFrom_cases 0 [] octets
  · rw [read]
    exact ⟨fun _ => ⟨_, rfl⟩, fun _ => spelled⟩
  · rw [read]
    constructor
    · intro spelled
      exact absurd ((isUtf8_append_iff front).mp spelled) stuck.not_isUtf8
    · rintro ⟨text, found⟩
      cases found

/-! ### What a defect tells -/

/-- So many octets in front have a property, and no more do. -/
structure IsLongest (property : Bytes → Prop) (octets : Bytes) (count : Nat) : Prop where
  within : count ≤ octets.length
  holds : property (octets.take count)
  most : ∀ front, front <+: octets → property front → front.length ≤ count

/-- A defect tells how much of the octets is UTF-8, whether they can be continued to UTF-8, and if
not, how many more of them can, where one counts in any case. -/
inductive Describes (octets : Bytes) : Defect → Prop where
  | incomplete {index : Nat} (whole : IsLongest IsUtf8 octets index)
      (continues : IsExtendable octets) : Describes octets (.incomplete index)
  | invalid {index good : Nat} (whole : IsLongest IsUtf8 octets index)
      (begun : IsLongest IsExtendable octets (index + good)) (ends : ¬IsExtendable octets) :
      Describes octets (.invalid index (max 1 good))

theorem isLongest_append {property : Bytes → Prop} (holds : property front)
    (ends : ∀ next more, next :: more <+: rest → ¬property (front ++ next :: more)) :
    IsLongest property (front ++ rest) front.length where
  within := List.length_append ▸ Nat.le_add_right _ _
  holds := by rwa [List.take_left]
  most other leads holds' := by
    by_cases short : other.length ≤ front.length
    · exact short
    · obtain ⟨more, rfl⟩ := List.prefix_of_prefix_length_le (List.prefix_append front rest) leads
        (Nat.le_of_not_le short)
      cases more with
      | nil =>
          rw [List.append_nil] at short
          exact absurd (Nat.le_refl _) short
      | cons next more =>
          exact absurd holds' (ends next more ((List.prefix_append_right_inj front).mp leads))

theorem IsStuck.isLongest (spelled : IsUtf8 front) (stuck : IsStuck index rest defect) :
    IsLongest IsUtf8 (front ++ rest) front.length := by
  refine isLongest_append spelled fun next more leads whole => ?_
  have further := (isUtf8_append_iff spelled).mp whole
  obtain ⟨sequence, ends, within⟩ := further.exists_front (List.cons_ne_nil _ _)
  exact stuck.not_isPrefix ends (within.trans leads)

theorem IsStuck.describes (spelled : IsUtf8 front) (stuck : IsStuck front.length rest defect) :
    Describes (front ++ rest) defect := by
  have whole := stuck.isLongest spelled
  cases stuck with
  | incomplete nonempty begun =>
      exact .incomplete whole ((isExtendable_append_iff spelled).mpr begun.isExtendable)
  | @invalid part behind octet begun refused =>
      refine .invalid whole ?_ fun continues => ?_
      · have good : IsExtendable (front ++ part) :=
          (isExtendable_append_iff spelled).mpr begun.isExtendable
        rw [← List.append_assoc, ← List.length_append]
        refine isLongest_append good fun next more leads continues => ?_
        obtain ⟨rfl, -⟩ := List.cons_prefix_cons.mp leads
        rw [List.append_assoc, isExtendable_append_iff spelled] at continues
        exact not_isExtendable_of_refused begun refused continues
      · rw [isExtendable_append_iff spelled] at continues
        exact not_isExtendable_of_refused begun refused continues

/-- Octets that are not UTF-8 are refused, with a defect that describes them. -/
theorem decode_of_not_isUtf8 (unspelled : ¬IsUtf8 octets) :
    ∃ defect, decode octets = .error defect ∧ Describes octets defect := by
  obtain ⟨spelled, -⟩ | ⟨whole, rest, defect, rfl, front, stuck, read⟩ :=
    decodeFrom_cases 0 [] octets
  · exact absurd spelled unspelled
  · rw [Nat.zero_add] at stuck
    refine ⟨defect, ?_, stuck.describes front⟩
    rw [decode, read]
    rfl

end RequestMux.Utf8
