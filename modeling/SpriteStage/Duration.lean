/-
Durations: lengths of time, in whole nanoseconds.
-/

set_option autoImplicit false

namespace SpriteStage

/-- A length of time. -/
structure Duration where
  /-- The number of nanoseconds. -/
  nanos : Nat
deriving DecidableEq, Repr

namespace Duration

/-- The number of nanoseconds in a second. -/
def perSecond : Nat := 1000000000

/-- No time at all. -/
def zero : Duration := ⟨0⟩

/-- So many seconds and nanoseconds. -/
def ofParts (seconds nanos : Nat) : Duration := ⟨seconds * perSecond + nanos⟩

/-- So many milliseconds. -/
def ofMillis (ms : Nat) : Duration := ⟨ms * 1000000⟩

/-- The whole seconds. -/
def seconds (d : Duration) : Nat := d.nanos / perSecond

/-- The nanoseconds beyond the whole seconds. -/
def subsecond (d : Duration) : Nat := d.nanos % perSecond

/-- The time by which `d` is longer than `e`, none if it is not. -/
def beyond (d e : Duration) : Duration := ⟨d.nanos - e.nanos⟩

end Duration

end SpriteStage
