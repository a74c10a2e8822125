/-
The ticker: a pacing thread that offers numbered tick requests to an owner, one at a time.

Requests are handed over by rendezvous: thread and owner must both be there. After a hand-over the
thread waits for a signal in a queue with room for two. Whoever holds a request acknowledges it, by
completing it or by dropping it, and that posts an acknowledgement. When the owner is done with the
ticker it first closes the request channel and then posts a stop.

Any number of threads may take part, so what happens is given as labelled steps: `step?` says which
act can happen in which state and what it leads to, and a run is a list of acts in any order. How
long a pause takes is left open here; `Ticker.Timeline` adds a clock.
-/

set_option autoImplicit false

namespace SpriteStage

/-- What the pacing thread can be told. -/
inductive Signal where
  /-- The request that was handed over has been dealt with. -/
  | acknowledgement
  /-- There will be no more ticks. -/
  | stop
deriving DecidableEq, Repr

/-- What the pacing thread is doing. -/
inductive Pacer where
  /-- It offers the request with that number. -/
  | offering (seq : UInt64)
  /-- It waits for a signal after handing the request with that number over. -/
  | awaiting (seq : UInt64)
  /-- It lets the time until the next tick pass. -/
  | pausing (seq : UInt64)
  /-- It has ended. -/
  | ended
deriving DecidableEq, Repr

/-- What the owner of a ticker has done with it. -/
inductive Owner where
  /-- It takes requests. -/
  | listening
  /-- It has closed the request channel. -/
  | closing
  /-- It has posted the stop as well. -/
  | gone
deriving DecidableEq, Repr

/-- A pacing thread, its owner, and what lies between them. -/
structure Ticker where
  /-- The pacing thread. -/
  pacer : Pacer := .offering 1
  /-- The signals in the queue, the oldest first. -/
  signals : List Signal := []
  /-- The numbers of the requests that were handed over and have not been acknowledged. -/
  held : List UInt64 := []
  /-- The owner. -/
  owner : Owner := .listening
deriving DecidableEq, Repr

namespace Ticker

/-- How many signals fit into the queue. -/
def capacity : Nat := 2

/-- Posts a signal. It is lost if the queue is full or the thread has ended. -/
def post (t : Ticker) (s : Signal) : Ticker :=
  if t.pacer = .ended ∨ capacity ≤ t.signals.length then t
  else { t with signals := t.signals ++ [s] }

/-- What can happen to a ticker. -/
inductive Act where
  /-- The owner takes the request with that number from the thread. -/
  | handOver (seq : UInt64)
  /-- The thread finds the request channel closed; the request that it offered is dropped. -/
  | refuse
  /-- A holder completes or drops the request with that number. -/
  | acknowledge (seq : UInt64)
  /-- The thread takes a signal from the queue. -/
  | hear
  /-- A pause is over. -/
  | wake
  /-- The owner closes the request channel. -/
  | close
  /-- The owner posts the stop. -/
  | stop
deriving DecidableEq, Repr

/-- What the thread does next after a signal has been heard behind the request with that number: an
acknowledgement ends the wait, and cuts a pause short. -/
def afterSignal (t : Ticker) : Signal → Pacer
  | .stop => .ended
  | .acknowledgement =>
    match t.pacer with
    | .awaiting seq => .pausing seq
    | .pausing seq => .offering (seq + 1)
    | pacer => pacer

/-- Whether the thread takes a signal if there is one. -/
def hears (t : Ticker) : Bool :=
  match t.pacer with
  | .awaiting _ => true
  | .pausing _ => true
  | _ => false

/-- The ticker after an act, if the act can happen. -/
def step? (t : Ticker) : Act → Option Ticker
  | .handOver seq =>
    if t.pacer = .offering seq ∧ t.owner = .listening then
      some { t with pacer := .awaiting seq, held := t.held ++ [seq] }
    else none
  | .refuse =>
    match t.pacer with
    | .offering _ =>
      if t.owner = .listening then none
      else some { t.post .acknowledgement with pacer := .ended }
    | _ => none
  | .acknowledge seq =>
    if seq ∈ t.held then some ({ t with held := t.held.erase seq }.post .acknowledgement) else none
  | .hear =>
    match t.signals with
    | [] => none
    | s :: rest =>
      if t.hears then some { t with pacer := t.afterSignal s, signals := rest } else none
  | .wake =>
    match t.pacer with
    | .pausing seq => some { t with pacer := .offering (seq + 1) }
    | _ => none
  | .close => if t.owner = .listening then some { t with owner := .closing } else none
  | .stop => if t.owner = .closing then some { t.post .stop with owner := .gone } else none

/-- The ticker after a list of acts, if all of them can happen one after the other. -/
def run? (t : Ticker) : List Act → Option Ticker
  | [] => some t
  | a :: rest => (t.step? a).bind (·.run? rest)

@[simp] theorem run?_nil (t : Ticker) : t.run? [] = some t := rfl

/-- A run of two lists of acts is a run of the one and then of the other. -/
theorem run?_append (t : Ticker) (first rest : List Act) :
    t.run? (first ++ rest) = (t.run? first).bind (·.run? rest) := by
  induction first generalizing t with
  | nil => rfl
  | cons a first ih =>
    simp only [List.cons_append, run?, Option.bind_assoc]
    exact congrArg _ (funext ih)

/-- The numbers of the requests that are handed over in a list of acts. -/
def handedOver (acts : List Act) : List UInt64 :=
  acts.filterMap fun
    | .handOver seq => some seq
    | _ => none

end Ticker

end SpriteStage
