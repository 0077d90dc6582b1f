import RequestMux.Bytes

/-!
# UTF-8

Decoding reads one octet at a time and keeps the sequence that is still open.
A lead octet fixes how many octets follow and the range of the first of them;
that range excludes overlong forms, surrogates and values above `10FFFF`, so a
sequence is refused at the octet that rules it out.  A refusal tells where the
faulty sequence starts, and how many of its octets were still good.
-/

namespace RequestMux.Utf8

/-- Why a byte string is not UTF-8. -/
inductive Defect where
  /-- A sequence that starts at `index` goes wrong after `length` good octets. -/
  | invalid (index length : Nat)
  /-- The bytes end inside a sequence that starts at `index`. -/
  | incomplete (index : Nat)
  deriving DecidableEq, Repr

/-- The wording of a defect. -/
def Defect.message : Defect → String
  | .invalid index length =>
    "invalid utf-8 sequence of " ++ toString length ++ " bytes from index " ++ toString index
  | .incomplete index =>
    "incomplete utf-8 byte sequence from index " ++ toString index

/-- The octets of one text, character by character. -/
def encode (text : String) : Bytes :=
  text.toList.flatMap String.utf8EncodeChar

/-- What a lead octet announces. -/
structure Lead where
  /-- The value bits of the lead octet itself. -/
  value : Nat
  /-- How many octets follow. -/
  owed : Nat
  /-- The least value of the next octet. -/
  low : Nat
  /-- The greatest value of the next octet. -/
  high : Nat

/-- The lead octets of UTF-8; none of the others starts a sequence. -/
def lead? (octet : Nat) : Option Lead :=
  if octet < 0x80 then some ⟨octet, 0, 0, 0⟩
  else if octet < 0xC2 then none
  else if octet < 0xE0 then some ⟨octet - 0xC0, 1, 0x80, 0xBF⟩
  else if octet = 0xE0 then some ⟨0, 2, 0xA0, 0xBF⟩
  else if octet = 0xED then some ⟨0xD, 2, 0x80, 0x9F⟩
  else if octet < 0xF0 then some ⟨octet - 0xE0, 2, 0x80, 0xBF⟩
  else if octet = 0xF0 then some ⟨0, 3, 0x90, 0xBF⟩
  else if octet < 0xF4 then some ⟨octet - 0xF0, 3, 0x80, 0xBF⟩
  else if octet = 0xF4 then some ⟨4, 3, 0x80, 0x8F⟩
  else none

/-- A sequence that has begun and is not complete. -/
structure Open where
  /-- Index of the lead octet. -/
  start : Nat
  /-- Octets read so far. -/
  length : Nat
  /-- Value bits read so far. -/
  value : Nat
  /-- Octets still owed, at least one. -/
  owed : Nat
  /-- The least value of the next octet. -/
  low : Nat
  /-- The greatest value of the next octet. -/
  high : Nat

/-- Read on from `index`, with the characters read so far in reverse. -/
def decodeFrom : Nat → Option Open → List Char → Bytes → Except Defect (List Char)
  | _, none, done, [] => .ok done.reverse
  | _, some sequence, _, [] => .error (.incomplete sequence.start)
  | index, none, done, octet :: rest =>
    match lead? octet.toNat with
    | none => .error (.invalid index 1)
    | some lead =>
      if lead.owed = 0 then
        decodeFrom (index + 1) none (Char.ofNat lead.value :: done) rest
      else
        decodeFrom (index + 1)
          (some ⟨index, 1, lead.value, lead.owed, lead.low, lead.high⟩) done rest
  | index, some sequence, done, octet :: rest =>
    if sequence.low ≤ octet.toNat ∧ octet.toNat ≤ sequence.high then
      let value := sequence.value * 64 + (octet.toNat - 0x80)
      if sequence.owed ≤ 1 then
        decodeFrom (index + 1) none (Char.ofNat value :: done) rest
      else
        decodeFrom (index + 1)
          (some ⟨sequence.start, sequence.length + 1, value, sequence.owed - 1, 0x80, 0xBF⟩)
          done rest
    else
      .error (.invalid sequence.start sequence.length)

/-- The characters a byte string spells, or its first defect. -/
def decode (octets : Bytes) : Except Defect String :=
  (decodeFrom 0 none [] octets).map String.ofList

end RequestMux.Utf8
