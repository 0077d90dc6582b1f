import RequestMux.Bytes

/-!
# Hex dumps

A dump has one line for each started block of sixteen bytes: a hex column of
forty characters with the bytes in groups of four, a tab, the bytes as printable
text, and a line break.
-/

namespace RequestMux.Wire.HexDump

/-- Bytes shown on one line. -/
def lineWidth : Nat := 16

/-- Bytes between two blanks of the hex column. -/
def groupWidth : Nat := 4

/-- Characters of the hex column. -/
def columnWidth : Nat := 40

/-- The hex digit of a number below sixteen. -/
def digit (value : Nat) : Char :=
  if value < 10 then Char.ofNat (48 + value) else Char.ofNat (55 + value)

/-- The two hex digits of a byte, high half first. -/
def pair (octet : UInt8) : List Char :=
  [digit (octet.toNat / 16), digit (octet.toNat % 16)]

/-- The bytes from position `index` of a line on; a blank opens each group. -/
def groups : Nat → Bytes → List Char
  | _, [] => []
  | index, octet :: rest =>
    (if index % groupWidth = 0 then ' ' :: pair octet else pair octet) ++ groups (index + 1) rest

/-- The hex column, filled up with blanks. -/
def hexColumn (block : Bytes) : List Char :=
  let shown := groups 0 block
  shown ++ List.replicate (columnWidth - shown.length) ' '

/-- A byte as text: itself if it prints, and a dot if not. -/
def glyph (octet : UInt8) : Char :=
  if 0x20 ≤ octet.toNat ∧ octet.toNat ≤ 0x7E then Char.ofNat octet.toNat else '.'

/-- The line of one block. -/
def line (block : Bytes) : List Char :=
  hexColumn block ++ '\t' :: block.map glyph ++ ['\n']

/-- The blocks of a byte string: sixteen bytes each, the last one may be shorter. -/
def blocks (octets : Bytes) : List Bytes :=
  match octets with
  | [] => []
  | octet :: rest =>
    (octet :: rest).take lineWidth :: blocks ((octet :: rest).drop lineWidth)
  termination_by octets.length
  decreasing_by
    simp only [List.length_drop, List.length_cons, lineWidth]
    omega

/-- The dump of a byte string. -/
def dump (octets : Bytes) : String :=
  String.ofList ((blocks octets).flatMap line)

end RequestMux.Wire.HexDump
