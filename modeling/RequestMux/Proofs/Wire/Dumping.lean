import Mathlib.Data.List.Forall2
import RequestMux.Wire.HexDump

/-!
# Hex dumps read back

A dump falls into one line for each started block.  The digits in the hex columns of its lines
spell the bytes in order, so that a dump tells the bytes that it shows.
-/

namespace RequestMux.Wire.HexDump

/-- The lines of a text, each with its line break. -/
def linesIn : List Char → List (List Char)
  | [] => []
  | char :: rest =>
    if char = '\n' then [char] :: linesIn rest
    else
      match linesIn rest with
      | [] => [[char]]
      | line :: lines => (char :: line) :: lines

/-- The value of a hex digit. -/
def digit? (char : Char) : Option Nat :=
  if '0' ≤ char ∧ char ≤ '9' then some (char.toNat - 48)
  else if 'A' ≤ char ∧ char ≤ 'F' then some (char.toNat - 55)
  else none

/-- The bytes that pairs of hex digits spell; blanks may stand in front of a pair. -/
def readPairs : List Char → Option Bytes
  | [] => some []
  | ' ' :: rest => readPairs rest
  | [_] => none
  | high :: low :: rest =>
    match digit? high, digit? low with
    | some high, some low => (readPairs rest).map (UInt8.ofNat (16 * high + low) :: ·)
    | _, _ => none

/-- How a byte is shown as text: a byte that prints and the blank as themselves, any other as a
dot. -/
inductive Depicts (octet : UInt8) : Char → Prop where
  | itself {char : Char} (same : char.toNat = octet.toNat)
      (prints : 0x20 ≤ octet.toNat ∧ octet.toNat ≤ 0x7E) : Depicts octet char
  | dot (hidden : octet.toNat < 0x20 ∨ 0x7E < octet.toNat) : Depicts octet '.'

/-- A line that shows a block: forty characters whose digits spell it, a tab, a character for each
of its bytes, and a line break. -/
inductive IsLineOf (block : Bytes) : List Char → Prop where
  | intro {column shown : List Char} (wide : column.length = 40)
      (spelled : readPairs column = some block) (depicted : List.Forall₂ Depicts block shown) :
      IsLineOf block (column ++ '\t' :: shown ++ ['\n'])

variable {block octets : Bytes} {front rest : List Char}

/-! ### Pairs of digits -/

theorem digit?_digit : ∀ value < 16, digit? (digit value) = some value := by decide

theorem digit_ne_blank : ∀ value < 16, digit value ≠ ' ' := by decide

theorem readPairs_blank : readPairs (' ' :: rest) = readPairs rest := rfl

theorem readPairs_blanks (count : Nat) :
    readPairs (List.replicate count ' ' ++ rest) = readPairs rest := by
  induction count with
  | zero => rfl
  | succ count ih => rw [List.replicate_succ, List.cons_append, readPairs_blank, ih]

theorem readPairs_pair (octet : UInt8) :
    readPairs (pair octet ++ rest) = (readPairs rest).map (octet :: ·) := by
  have high : octet.toNat / 16 < 16 := by have := octet.toNat_lt; omega
  have low : octet.toNat % 16 < 16 := Nat.mod_lt _ (by decide)
  have whole : 16 * (octet.toNat / 16) + octet.toNat % 16 = octet.toNat := Nat.div_add_mod _ _
  rw [pair, List.cons_append, List.singleton_append, readPairs]
  · rw [digit?_digit _ high, digit?_digit _ low]
    dsimp only
    rw [whole, UInt8.ofNat_toNat]
  · exact digit_ne_blank _ high

theorem readPairs_groups (index : Nat) (block : Bytes) :
    readPairs (groups index block ++ rest) = (readPairs rest).map (block ++ ·) := by
  induction block generalizing index with
  | nil => simp [groups]
  | cons octet block ih =>
      have behind : readPairs (pair octet ++ groups (index + 1) block ++ rest) =
          (readPairs rest).map (octet :: block ++ ·) := by
        rw [List.append_assoc, readPairs_pair, ih, Option.map_map]
        rfl
      rw [groups]
      split
      · rw [List.cons_append, List.cons_append, readPairs_blank, behind]
      · exact behind

theorem readPairs_hexColumn (block : Bytes) (rest : List Char) :
    readPairs (hexColumn block ++ rest) = (readPairs rest).map (block ++ ·) := by
  rw [hexColumn, List.append_assoc, readPairs_groups, readPairs_blanks]

/-! ### Lines -/

/-- Two digits for each byte, and a blank for each group that starts. -/
theorem length_groups (index : Nat) (block : Bytes) :
    (groups index block).length + (index + 3) / 4 =
      2 * block.length + (index + block.length + 3) / 4 := by
  induction block generalizing index with
  | nil => simp [groups]
  | cons octet block ih =>
      have later := ih (index + 1)
      rw [groups, List.length_append, List.length_cons]
      split
      · next opens =>
          have : index % 4 = 0 := opens
          simp only [pair, List.length_cons, List.length_nil]
          omega
      · next inside =>
          have : index % 4 ≠ 0 := inside
          simp only [pair, List.length_cons, List.length_nil]
          omega

theorem length_hexColumn (short : block.length ≤ 16) : (hexColumn block).length = 40 := by
  have shown := length_groups 0 block
  rw [hexColumn, List.length_append, List.length_replicate, columnWidth]
  omega

theorem depicts_glyph (octet : UInt8) : Depicts octet (glyph octet) := by
  unfold glyph
  split
  · next prints =>
      have valid : octet.toNat.isValidChar := .inl (by omega)
      refine .itself ?_ prints
      rw [Char.ofNat, dif_pos valid]
      rfl
  · exact .dot (by omega)

theorem line_isLineOf (short : block.length ≤ 16) : IsLineOf block (line block) := by
  refine .intro (length_hexColumn short) ?_ ?_
  · have read := readPairs_hexColumn block []
    rw [List.append_nil] at read
    rw [read]
    exact congrArg some (List.append_nil block)
  · exact List.forall₂_map_right_iff.mpr (List.forall₂_same.mpr fun octet _ => depicts_glyph octet)

/-! ### Line breaks -/

theorem flatten_linesIn (text : List Char) : (linesIn text).flatten = text := by
  induction text with
  | nil => rfl
  | cons char rest ih =>
      rw [linesIn]
      split
      · rw [List.flatten_cons, ih, List.singleton_append]
      · cases found : linesIn rest with
        | nil =>
            rw [found] at ih
            rw [← ih]
            rfl
        | cons line lines =>
            rw [found] at ih
            rw [← ih]
            rfl

/-- A line ends at the first line break. -/
theorem linesIn_append (solid : '\n' ∉ front) :
    linesIn (front ++ '\n' :: rest) = (front ++ ['\n']) :: linesIn rest := by
  induction front with
  | nil => rw [List.nil_append, linesIn, if_pos rfl, List.nil_append]
  | cons char front ih =>
      rw [List.mem_cons, not_or] at solid
      rw [List.cons_append, linesIn, if_neg (Ne.symm solid.1), ih solid.2]
      rfl

theorem digit_ne_break : ∀ value < 16, digit value ≠ '\n' := by decide

theorem break_not_mem_pair (octet : UInt8) : '\n' ∉ pair octet := by
  have high : octet.toNat / 16 < 16 := by have := octet.toNat_lt; omega
  have low : octet.toNat % 16 < 16 := Nat.mod_lt _ (by decide)
  simp [pair, (digit_ne_break _ high).symm, (digit_ne_break _ low).symm]

theorem break_not_mem_groups (index : Nat) (block : Bytes) : '\n' ∉ groups index block := by
  induction block generalizing index with
  | nil => exact List.not_mem_nil
  | cons octet block ih =>
      rw [groups]
      split <;> simp [break_not_mem_pair, ih]

theorem glyph_ne_break (octet : UInt8) : glyph octet ≠ '\n' := by
  have depicted := depicts_glyph octet
  generalize glyph octet = char at depicted
  rintro rfl
  cases depicted with
  | itself same prints =>
      rw [← same] at prints
      exact absurd prints.1 (by decide)

theorem linesIn_line (block : Bytes) :
    linesIn (line block ++ rest) = line block :: linesIn rest := by
  have solid : '\n' ∉ hexColumn block ++ '\t' :: block.map glyph := by
    simp [hexColumn, break_not_mem_groups, glyph_ne_break, List.mem_replicate]
  rw [line, List.append_assoc, List.singleton_append]
  exact linesIn_append solid

theorem linesIn_flatMap (blocks : List Bytes) :
    linesIn (blocks.flatMap line) = blocks.map line := by
  induction blocks with
  | nil => rfl
  | cons block blocks ih => rw [List.flatMap_cons, linesIn_line, ih, List.map_cons]

/-! ### Blocks -/

theorem length_blocks (octets : Bytes) : (blocks octets).length = (octets.length + 15) / 16 := by
  induction octets using blocks.induct with
  | case1 => rw [blocks]; rfl
  | case2 octet rest ih =>
      rw [blocks, List.length_cons, ih, List.length_drop, lineWidth, List.length_cons]
      omega

theorem block_of_getElem? {index : Nat} (found : (blocks octets)[index]? = some block) :
    block = (octets.drop (16 * index)).take 16 := by
  induction octets using blocks.induct generalizing index with
  | case1 =>
      rw [blocks] at found
      cases found
  | case2 octet rest ih =>
      rw [blocks] at found
      cases index with
      | zero => exact (Option.some.inj found).symm
      | succ index =>
          have further : lineWidth + 16 * index = 16 * (index + 1) := by rw [lineWidth]; omega
          rw [ih found, List.drop_drop, further]

theorem flatten_blocks (octets : Bytes) : (blocks octets).flatten = octets := by
  induction octets using blocks.induct with
  | case1 => rw [blocks]; rfl
  | case2 octet rest ih => rw [blocks, List.flatten_cons, ih, List.take_append_drop]

theorem readPairs_columns (blocks : List Bytes) (short : ∀ block ∈ blocks, block.length ≤ 16) :
    readPairs ((blocks.map line).flatMap (List.take 40)) = some blocks.flatten := by
  induction blocks with
  | nil => rfl
  | cons block blocks ih =>
      obtain ⟨first, others⟩ := List.forall_mem_cons.mp short
      have column : (line block).take 40 = hexColumn block := by
        rw [line, List.append_assoc]
        exact List.take_left' (length_hexColumn first)
      rw [List.map_cons, List.flatMap_cons, column, readPairs_hexColumn, ih others]
      rfl

/-- The lines of a dump, their hex columns taken together, spell the bytes. -/
theorem readPairs_dump (octets : Bytes) :
    readPairs ((linesIn (dump octets).toList).flatMap (List.take 40)) = some octets := by
  have short : ∀ block ∈ blocks octets, block.length ≤ 16 := by
    intro block member
    obtain ⟨index, found⟩ := List.mem_iff_getElem?.mp member
    rw [block_of_getElem? found]
    exact List.length_take_le _ _
  rw [dump, String.toList_ofList, linesIn_flatMap, readPairs_columns _ short, flatten_blocks]

/-- A dump has one line for each started block of sixteen bytes and nothing else.  Each line has
forty characters whose digits spell its block, a tab, a character for each byte of the block, and a
line break.  The digits in the columns of all lines spell the bytes in order, so that no other bytes
have this dump. -/
theorem dumps_tell_their_bytes (octets : Bytes) :
    let lines := linesIn (dump octets).toList
    lines.flatten = (dump octets).toList ∧
    lines.length = (octets.length + 15) / 16 ∧
    (∀ index text, lines[index]? = some text →
      IsLineOf ((octets.drop (16 * index)).take 16) text) ∧
    readPairs (lines.flatMap (List.take 40)) = some octets ∧
    ∀ other, dump other = dump octets → other = octets := by
  intro lines
  have shown : lines = (blocks octets).map line := by
    rw [← linesIn_flatMap]
    exact congrArg linesIn String.toList_ofList
  refine ⟨flatten_linesIn _, ?_, ?_, readPairs_dump octets, fun other same => ?_⟩
  · rw [shown, List.length_map, length_blocks]
  · intro index text found
    rw [shown, List.getElem?_map] at found
    obtain ⟨block, there, rfl⟩ := Option.map_eq_some_iff.mp found
    obtain rfl := block_of_getElem? there
    exact line_isLineOf (List.length_take_le _ _)
  · have read := readPairs_dump other
    rw [same, readPairs_dump octets] at read
    exact (Option.some.inj read).symm

end RequestMux.Wire.HexDump
