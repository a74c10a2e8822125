/-
Cadence: ticks with a floor on the time between their starts.

A tick must end before the next one starts, and the next one starts no earlier than the floor after
the start of the one before. How time passes is for the monad to say (`Clock`), so a cadence can run
on a machine's clock as well as on a number.
-/
import SpriteStage.Settings

set_option autoImplicit false

namespace SpriteStage

/-- Monads in which time passes. -/
class Clock (m : Type → Type) where
  /-- The time since some fixed moment. -/
  now : m Duration
  /-- Lets time pass. -/
  sleep : Duration → m Unit

/-- The clock that is a number and stands still unless it is told to go on. -/
instance : Clock (StateM Duration) where
  now := get
  sleep d := modify fun t => ⟨t.nanos + d.nanos⟩

/-- A state beside it does not change a clock. -/
instance {σ : Type} {m : Type → Type} [Monad m] [Clock m] : Clock (StateT σ m) where
  now := StateT.lift Clock.now
  sleep d := StateT.lift (Clock.sleep d)

/-- The floor between the starts of two ticks. -/
structure Cadence where
  /-- The least time between two starts. -/
  floor : Duration
deriving DecidableEq, Repr

namespace Cadence

/-- The cadence that the settings ask for. -/
def ofSettings (s : Settings) : Cadence := ⟨s.minTick⟩

/-- How long to wait after a tick that took `elapsed`. -/
def delayAfter (c : Cadence) (elapsed : Duration) : Duration := c.floor.beyond elapsed

variable {m : Type → Type} [Monad m] [Clock m]

/-- Runs `left` ticks, the first of them with number `seq`. -/
def runFrom (c : Cadence) (tick : Nat → m (Except Fault Unit)) : Nat → Nat → m (Except Fault Unit)
  | _, 0 => pure (.ok ())
  | seq, left + 1 => do
    let started ← Clock.now
    match ← tick seq with
    | .error fault => pure (.error fault)
    | .ok () =>
      if left ≠ 0 then
        Clock.sleep (c.delayAfter ((← Clock.now).beyond started))
      runFrom c tick (seq + 1) left

/-- Runs ticks with the numbers from 1 to `count`, and answers with the count. The first fault of a
tick ends the run and is returned. There is no wait behind the last tick. -/
def run (c : Cadence) (count : Nat) (tick : Nat → m (Except Fault Unit)) :
    m (Except Fault Nat) := do
  return (← runFrom c tick 1 count).map fun _ => count

end Cadence

end SpriteStage
