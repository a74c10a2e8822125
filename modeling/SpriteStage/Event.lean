/-
Events: what the host tells the runtime, and the sinks that take the telling.

A sink is a state with one operation, and the operation may fail. Whoever sends an event goes on in
either case, so a sink has no way to act on the sender. Three sinks stand here: one that drops
everything, one that keeps a record, and a channel whose receiver may go away.
-/
import SpriteStage.Fault

set_option autoImplicit false

namespace SpriteStage

/-- A notification to the runtime. -/
inductive Event where
  /-- A button was pressed. -/
  | buttonPress (id : Ident)
deriving DecidableEq, Repr

/-- States that take events. -/
class EventSink (σ : Type) where
  /-- Hands over one event. -/
  deliver : Event → Attempt σ Unit

/-- The sink that drops every event. -/
structure Discard where
deriving DecidableEq, Repr

instance : EventSink Discard where
  deliver _ := pure ()

/-- The sink that keeps every event. -/
structure Recorder where
  /-- The events, the first one first. -/
  events : List Event := []
deriving DecidableEq, Repr

namespace Recorder

/-- Adds an event behind the others. -/
def add (r : Recorder) (e : Event) : Recorder := ⟨r.events ++ [e]⟩

end Recorder

instance : EventSink Recorder where
  deliver e := modify (·.add e)

/-- The sink that queues events for a receiver. Once the receiver is gone every delivery fails. -/
structure Channel where
  /-- The events that wait, the oldest first. -/
  pending : List Event := []
  /-- Whether there is still a receiver. -/
  isOpen : Bool := true
deriving DecidableEq, Repr

namespace Channel

/-- Queues an event. -/
def push (c : Channel) (e : Event) : Channel := { c with pending := c.pending ++ [e] }

/-- The channel after the receiver took everything that waited. -/
def drained (c : Channel) : Channel := { c with pending := [] }

/-- The channel without a receiver; what waited is lost. -/
def closed : Channel := ⟨[], false⟩

end Channel

instance : EventSink Channel where
  deliver e := do
    if (← get).isOpen then modify (·.push e)
    else throw (.mishap .channelClosed)

end SpriteStage
