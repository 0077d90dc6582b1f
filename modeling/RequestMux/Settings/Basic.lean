import RequestMux.Wire.Header

/-!
# Settings of a connection

All times are whole milliseconds.  A read timeout of zero stands for the connect
timeout.
-/

namespace RequestMux

/-- The settings of one connection. -/
structure Settings where
  /-- Bound on one connect attempt, and the pace of attempts. -/
  connectTimeout : UInt64
  /-- Deadline of a request; zero stands for the connect timeout. -/
  readTimeout : UInt64
  /-- Time between liveness pings, if there are any. -/
  pingInterval : Option UInt64
  /-- Largest inbound payload. -/
  maxPayload : UInt32
  /-- Whether sockets send small segments without delay. -/
  nodelay : Bool
  deriving DecidableEq, Repr

namespace Settings

/-- The connect timeout that applies unless another is set. -/
def defaultConnectTimeout : UInt64 := 1000

/-- The ping interval that applies unless another is set. -/
def defaultPingInterval : UInt64 := 5000

/-- The settings that apply unless others are set. -/
def standard : Settings where
  connectTimeout := defaultConnectTimeout
  readTimeout := 0
  pingInterval := some defaultPingInterval
  maxPayload := Wire.Header.defaultLimit
  nodelay := true

instance : Inhabited Settings := ⟨standard⟩

/-- The deadline of a request, in milliseconds. -/
def effectiveReadTimeout (settings : Settings) : UInt64 :=
  if settings.readTimeout = 0 then settings.connectTimeout else settings.readTimeout

end Settings

end RequestMux
