/-!
# Correlation ids

Ids are handed out in increasing order and start again at zero after the largest
32-bit number.
-/

namespace RequestMux

/-- A source of correlation ids. -/
structure SyncSource where
  /-- The id handed out next. -/
  next : UInt32
  deriving DecidableEq, Repr

namespace SyncSource

/-- A source that starts at one. -/
def fresh : SyncSource := ⟨1⟩

instance : Inhabited SyncSource := ⟨fresh⟩

/-- Hand out the next id. -/
def allocate (source : SyncSource) : UInt32 × SyncSource := (source.next, ⟨source.next + 1⟩)

end SyncSource

end RequestMux
