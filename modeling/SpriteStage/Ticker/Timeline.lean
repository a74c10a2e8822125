/-
Tickers on a clock.

Time passes only while the owner waits. The pacing thread reacts at once, so between two operations
of the owner it has taken every signal that it can take, and the one thing that takes time is its
pause, which ends when the floor has passed since the request before was first offered.
-/
import SpriteStage.Cadence
import SpriteStage.Ticker

set_option autoImplicit false

namespace SpriteStage.Ticker

/-- A ticker at a moment. -/
structure Timeline where
  /-- The pacing. -/
  cadence : Cadence
  /-- The ticker. -/
  ticker : Ticker := {}
  /-- The moment. -/
  now : Duration := .zero
  /-- When the thread began to offer its last request. -/
  offered : Duration := .zero

namespace Timeline

/-- Lets an act happen, if it can. -/
def act (t : Timeline) (a : Act) : Timeline :=
  { t with ticker := (t.ticker.step? a).getD t.ticker }

/-- When a pause that the thread is in ends. -/
def due (t : Timeline) : Duration :=
  ⟨t.now.nanos + (t.cadence.delayAfter (t.now.beyond t.offered)).nanos⟩

/-- The owner waits for a request, for so long at most. -/
def receive (t : Timeline) (timeout : Duration) : Option UInt64 × Timeline :=
  match t.ticker.owner, t.ticker.pacer with
  | .listening, .offering seq => (some seq, t.act (.handOver seq))
  | .listening, .pausing seq =>
    if t.due.nanos ≤ t.now.nanos + timeout.nanos then
      let awake := { t with now := t.due, offered := t.due }.act .wake
      (some (seq + 1), awake.act (.handOver (seq + 1)))
    else (none, { t with now := ⟨t.now.nanos + timeout.nanos⟩ })
  | .listening, .awaiting _ => (none, { t with now := ⟨t.now.nanos + timeout.nanos⟩ })
  | _, _ => (none, t)

/-- A holder completes or drops a request, and the thread hears of it. -/
def acknowledge (t : Timeline) (seq : UInt64) : Timeline :=
  (t.act (.acknowledge seq)).act .hear

/-- The owner waits for a request as long as its pause may take, and acknowledges it. -/
def serve (t : Timeline) : Option UInt64 × Timeline :=
  match t.receive t.due with
  | (some seq, t) => (some seq, t.acknowledge seq)
  | (none, t) => (none, t)

/-- The owner gives the ticker up. -/
def drop (t : Timeline) : Timeline :=
  (((t.act .close).act .stop).act .refuse).act .hear

end Timeline

end SpriteStage.Ticker
