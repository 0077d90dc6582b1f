import RequestMux.Json.Parser
import RequestMux.Settings.Basic

/-!
# Settings as JSON

Settings are written as an object in a fixed order of keys.  They are read from
an object with any order of keys, where missing keys take their standard value,
unknown keys are passed over and a known key must not repeat; or from an array of
values in the order of the keys, where values may be left out at the end.
-/

namespace RequestMux.Settings

/-- A key of the document. -/
inductive Key where
  | connectTimeout
  | readTimeout
  | pingInterval
  | maxPayload
  | nodelay
  deriving DecidableEq, Repr

namespace Key

/-- The keys in the order in which they are written. -/
def all : List Key := [.connectTimeout, .readTimeout, .pingInterval, .maxPayload, .nodelay]

/-- The name of a key. -/
def name : Key → String
  | .connectTimeout => "connect_timeout_ms"
  | .readTimeout => "read_timeout_ms"
  | .pingInterval => "ping_interval_ms"
  | .maxPayload => "max_payload_size"
  | .nodelay => "nodelay"

/-- The key of a name. -/
def ofName? (name : String) : Option Key := all.find? fun key => key.name == name

end Key

/-- The text of one value. -/
def valueText (settings : Settings) : Key → String
  | .connectTimeout => toString settings.connectTimeout.toNat
  | .readTimeout => toString settings.readTimeout.toNat
  | .pingInterval =>
    match settings.pingInterval with
    | some interval => toString interval.toNat
    | none => "null"
  | .maxPayload => toString settings.maxPayload.toNat
  | .nodelay => if settings.nodelay then "true" else "false"

/-- The document of the settings, without blanks. -/
def toText (settings : Settings) : String :=
  let member (key : Key) : String := "\"" ++ key.name ++ "\":" ++ settings.valueText key
  "\x7b" ++ String.intercalate "," (Key.all.map member) ++ "\x7d"

/-- The natural number below a bound that a document is. -/
def natural? (bound : Nat) : Json → Option Nat
  | .number numeral => do
    let value ← numeral.natural?
    if value < bound then some value else none
  | _ => none

/-- A time that a document is. -/
def time? (value : Json) : Option UInt64 := (natural? UInt64.size value).map UInt64.ofNat

/-- Put the value of one key into the settings, if it is of the right form. -/
def put? (settings : Settings) (key : Key) (value : Json) : Option Settings :=
  match key with
  | .connectTimeout => (time? value).map fun time => { settings with connectTimeout := time }
  | .readTimeout => (time? value).map fun time => { settings with readTimeout := time }
  | .pingInterval =>
    match value with
    | .null => some { settings with pingInterval := none }
    | value => (time? value).map fun time => { settings with pingInterval := some time }
  | .maxPayload =>
    (natural? UInt32.size value).map fun size => { settings with maxPayload := UInt32.ofNat size }
  | .nodelay =>
    match value with
    | .bool flag => some { settings with nodelay := flag }
    | _ => none

/-- Read the members of an object; `seen` are the known keys met before. -/
def readMembers (seen : List Key) (settings : Settings) :
    List (List Json.Symbol × Json) → Option Settings
  | [] => some settings
  | (name, value) :: rest => do
    let name ← Json.spell? name
    match Key.ofName? name with
    | none => readMembers seen settings rest
    | some key =>
      if key ∈ seen then none
      else
        let settings ← settings.put? key value
        readMembers (key :: seen) settings rest

/-- Read values in the order of the given keys. -/
def readItems (settings : Settings) : List Key → List Json → Option Settings
  | _, [] => some settings
  | [], _ :: _ => none
  | key :: keys, value :: rest => do
    let settings ← settings.put? key value
    readItems settings keys rest

/-- The settings of a document. -/
def ofJson? : Json → Option Settings
  | .object members => readMembers [] standard members
  | .array items => readItems standard Key.all items
  | _ => none

/-- The settings that a text spells. -/
def ofText? (text : String) : Option Settings := do
  let document ← Json.parse? text.toList
  ofJson? document

end RequestMux.Settings
