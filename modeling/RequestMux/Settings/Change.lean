import RequestMux.Settings.Basic

/-!
# Changing settings

Durations are given to the nanosecond and kept to the millisecond, rounded down.
One that exceeds the range of the settings counts as the largest in range.
-/

namespace RequestMux

/-- A span of time. -/
structure Duration where
  nanoseconds : Nat
  deriving DecidableEq, Repr

namespace Duration

/-- A span of so many microseconds. -/
def ofMicroseconds (count : Nat) : Duration := ⟨count * 1000⟩

/-- The longest span: seconds fill 64 bits, and a nanosecond less than one more. -/
def longest : Duration := ⟨UInt64.size * 1000000000 - 1⟩

/-- Whole milliseconds, at most the largest 64-bit number. -/
def milliseconds (duration : Duration) : UInt64 :=
  UInt64.ofNat (min (duration.nanoseconds / 1000000) (UInt64.size - 1))

end Duration

namespace Settings

/-- One change of the settings. -/
inductive Change where
  | whole (settings : Settings)
  | connectTimeout (duration : Duration)
  | readTimeout (duration : Duration)
  | pingInterval (duration : Option Duration)
  | maxPayload (size : UInt32)
  | nodelay (value : Bool)
  deriving DecidableEq, Repr

/-- Make one change. -/
def apply (settings : Settings) : Change → Settings
  | .whole settings => settings
  | .connectTimeout duration => { settings with connectTimeout := duration.milliseconds }
  | .readTimeout duration => { settings with readTimeout := duration.milliseconds }
  | .pingInterval duration => { settings with pingInterval := duration.map Duration.milliseconds }
  | .maxPayload size => { settings with maxPayload := size }
  | .nodelay value => { settings with nodelay := value }

/-- Make changes in order, from the standard settings. -/
def build (changes : List Change) : Settings := changes.foldl apply standard

end Settings

end RequestMux
