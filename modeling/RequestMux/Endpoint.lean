/-!
# Endpoints

An endpoint is an address of the fourth or sixth version of the internet
protocol with a port.  The shortest standard text is written: hex groups without
leading zeros, the first longest run of at least two zero groups left out, and
the last two groups in dotted form when the address carries one of the fourth
version.
-/

namespace RequestMux

/-- A network address. -/
inductive Address where
  /-- Four octets. -/
  | dotted (octets : List Nat)
  /-- Eight groups of sixteen bits. -/
  | grouped (groups : List Nat)
  deriving DecidableEq, Repr

/-- An address with a port. -/
structure Endpoint where
  address : Address
  port : Nat
  deriving DecidableEq, Repr

namespace Endpoint

/-- Texts with a separator between them. -/
def joined (separator : String) (parts : List String) : String :=
  String.intercalate separator parts

/-- The dotted text of four octets. -/
def dottedText (octets : List Nat) : String := joined "." (octets.map toString)

/-- The hex text of a group. -/
def groupText (group : Nat) : String := String.ofList (Nat.toDigits 16 group)

/-- The hex texts of groups with colons between them. -/
def groupsText (groups : List Nat) : String := joined ":" (groups.map groupText)

/-- Length of the run of zeros at the front. -/
def zeroRun (groups : List Nat) : Nat := (groups.takeWhile (· == 0)).length

/-- Start and length of the first longest run of zeros, looking on from position `index`. -/
def longestRun (index : Nat) (best : Nat × Nat) : List Nat → Nat × Nat
  | [] => best
  | group :: rest =>
    let here := zeroRun (group :: rest)
    longestRun (index + 1) (if best.2 < here then (index, here) else best) rest

/-- The text of eight groups. -/
def groupedText (groups : List Nat) : String :=
  if groups.take 6 = [0, 0, 0, 0, 0, 0xFFFF] then
    let octets := (groups.drop 6).flatMap fun group => [group / 256, group % 256]
    "::ffff:" ++ dottedText octets
  else
    let run := longestRun 0 (0, 0) groups
    if 1 < run.2 then
      groupsText (groups.take run.1) ++ "::" ++ groupsText (groups.drop (run.1 + run.2))
    else groupsText groups

/-- The text of an endpoint. -/
def text (endpoint : Endpoint) : String :=
  match endpoint.address with
  | .dotted octets => dottedText octets ++ ":" ++ toString endpoint.port
  | .grouped groups => "[" ++ groupedText groups ++ "]:" ++ toString endpoint.port

/-- The value of a digit in a base up to sixteen. -/
def digit? (base : Nat) (c : Char) : Option Nat :=
  let value :=
    if '0' ≤ c ∧ c ≤ '9' then c.toNat - '0'.toNat
    else if 'a' ≤ c ∧ c ≤ 'f' then c.toNat - 'a'.toNat + 10
    else if 'A' ≤ c ∧ c ≤ 'F' then c.toNat - 'A'.toNat + 10
    else 16
  if value < base then some value else none

/-- A number of one to `most` digits. -/
def number? (base most : Nat) (digits : List Char) : Option Nat :=
  if digits.isEmpty ∨ most < digits.length then none
  else digits.foldlM (fun total c => (digit? base c).map (total * base + ·)) 0

/-- The parts of a text between separators. -/
def split (separator : Char) (text : List Char) : List (List Char) :=
  text.foldr
    (fun c parts =>
      if c = separator then [] :: parts
      else
        match parts with
        | [] => [[c]]
        | part :: rest => (c :: part) :: rest)
    [[]]

/-- An octet: up to three digits, without a leading zero. -/
def octet? (text : List Char) : Option Nat := do
  let value ← number? 10 3 text
  if value < 256 ∧ ¬ (1 < text.length ∧ text.head? = some '0') then some value else none

/-- Four octets with dots between them. -/
def octets? (text : List Char) : Option (List Nat) := do
  let octets ← (split '.' text).mapM octet?
  if octets.length = 4 then some octets else none

/-- Groups of up to four hex digits; the last part may be four octets. -/
def groups? : List (List Char) → Option (List Nat)
  | [] => some []
  | [last] =>
    match octets? last with
    | some [a, b, c, d] => some [a * 256 + b, c * 256 + d]
    | _ => (number? 16 4 last).map ([·])
  | part :: rest => do
    let group ← number? 16 4 part
    let groups ← groups? rest
    some (group :: groups)

/-- Groups of hex digits only. -/
def hexGroups? (parts : List (List Char)) : Option (List Nat) := parts.mapM (number? 16 4)

/-- The groups of a side of a double colon; an empty side has none. -/
def side (text : List Char) : List (List Char) := if text.isEmpty then [] else split ':' text

/-- Where a double colon cuts a text, if there is one. -/
def cutAtGap? (before : List Char) : List Char → Option (List Char × List Char)
  | ':' :: ':' :: rest => some (before.reverse, rest)
  | c :: rest => cutAtGap? (c :: before) rest
  | [] => none

/-- Eight groups, where a double colon stands for one or more groups of zeros. -/
def grouped? (text : List Char) : Option (List Nat) :=
  match cutAtGap? [] text with
  | none => do
    let groups ← groups? (split ':' text)
    if groups.length = 8 then some groups else none
  | some (front, back) => do
    let front ← hexGroups? (side front)
    let back ← groups? (side back)
    if front.length + back.length < 8 then
      some (front ++ List.replicate (8 - front.length - back.length) 0 ++ back)
    else none

/-- A port. -/
def port? (text : List Char) : Option Nat := do
  let value ← number? 10 text.length text
  if value < 65536 then some value else none

/-- The endpoint that a text spells. -/
def ofText? (text : String) : Option Endpoint :=
  match text.toList with
  | '[' :: rest => do
    let groups ← grouped? (rest.takeWhile (· != ']'))
    match rest.dropWhile (· != ']') with
    | ']' :: ':' :: port => do
      let port ← port? port
      some ⟨.grouped groups, port⟩
    | _ => none
  | text => do
    let octets ← octets? (text.takeWhile (· != ':'))
    match text.dropWhile (· != ':') with
    | ':' :: port => do
      let port ← port? port
      some ⟨.dotted octets, port⟩
    | _ => none

end Endpoint

end RequestMux
