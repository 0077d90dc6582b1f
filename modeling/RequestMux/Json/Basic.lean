/-!
# JSON documents

A document keeps numbers and strings as they are written, so that a reader of it
decides what they mean.  Strings are sequences of characters and of code units
given by an escape.
-/

namespace RequestMux

namespace Json

/-- One element of a string. -/
inductive Symbol where
  /-- A character, written as itself or by a short escape. -/
  | char (value : Char)
  /-- A code unit of sixteen bits, written by four hex digits. -/
  | code (value : Nat)
  deriving DecidableEq, Repr

/-- A number as it is written. -/
structure Numeral where
  negative : Bool
  /-- The digits before the point. -/
  whole : List Char
  /-- The digits after the point, if there is a point. -/
  fraction : Option (List Char)
  /-- Whether there is an exponent. -/
  scaled : Bool
  deriving DecidableEq, Repr

namespace Numeral

/-- The number that decimal digits spell. -/
def ofDigits (digits : List Char) : Nat :=
  digits.foldl (fun total digit => total * 10 + (digit.toNat - '0'.toNat)) 0

/-- The value of a numeral that has neither sign nor point nor exponent. -/
def natural? (numeral : Numeral) : Option Nat :=
  if numeral.negative || numeral.fraction.isSome || numeral.scaled then none
  else some (ofDigits numeral.whole)

end Numeral

/-- Whether a code unit is the first half of a surrogate pair. -/
def isHighSurrogate (unit : Nat) : Bool := 0xD800 ≤ unit && unit < 0xDC00

/-- Whether a code unit is the second half of a surrogate pair. -/
def isLowSurrogate (unit : Nat) : Bool := 0xDC00 ≤ unit && unit < 0xE000

/-- The text of a string, in reverse behind `done`; a surrogate without its partner spells none. -/
def spellFrom (done : List Char) : List Symbol → Option (List Char)
  | [] => some done.reverse
  | .char value :: rest => spellFrom (value :: done) rest
  | .code high :: .code low :: rest =>
    if isHighSurrogate high then
      if isLowSurrogate low then
        spellFrom (Char.ofNat (0x10000 + (high - 0xD800) * 0x400 + (low - 0xDC00)) :: done) rest
      else none
    else if isLowSurrogate high then none
    else spellFrom (Char.ofNat high :: done) (.code low :: rest)
  | .code unit :: rest =>
    if isHighSurrogate unit || isLowSurrogate unit then none
    else spellFrom (Char.ofNat unit :: done) rest

/-- The text of a string. -/
def spell? (symbols : List Symbol) : Option String :=
  (spellFrom [] symbols).map String.ofList

end Json

/-- A JSON document. -/
inductive Json where
  | null
  | bool (value : Bool)
  | number (value : Json.Numeral)
  | string (value : List Json.Symbol)
  | array (items : List Json)
  | object (members : List (List Json.Symbol × Json))

end RequestMux
