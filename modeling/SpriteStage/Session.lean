/-
Sessions: replays of calls on a stage of their own, with a record of what became of each call.

A call that fails is recorded and the replay goes on, as a live runtime would. An observer may look
at the stage after each call and end the replay; `runWith` is the replay under an observer with
effects of its own, and without one it is `run`.
-/
import SpriteStage.Script

set_option autoImplicit false

namespace SpriteStage

/-- What became of one call. -/
structure Outcome where
  /-- The position of the call in the session. -/
  index : Nat
  /-- The name of the call. -/
  call : String
  /-- The reply, or why there is none. -/
  result : Except Fault Reply

namespace Outcome

/-- Whether the call failed. -/
def isFailure (o : Outcome) : Bool :=
  match o.result with
  | .ok _ => false
  | .error _ => true

end Outcome

/-- A host whose events are recorded, with the outcomes of the calls so far. -/
structure Session where
  /-- The stage and the callbacks. -/
  host : Host Recorder
  /-- The outcomes, the first one first. -/
  outcomes : List Outcome

namespace Session

/-- The session in which nothing has happened yet. The settings must be valid. -/
def start (settings : Settings) : Except Fault Session := do
  settings.validate
  return ⟨.start settings {}, []⟩

/-- The session for a script, under its settings or, if it has none, under others. -/
def forScript (script : Script) (fallback : Settings) : Except Fault Session :=
  start (script.settings.getD fallback)

/-- Everything on the stage. -/
def stage (s : Session) : Stage Recorder := s.host.stage

/-- The events so far. -/
def events (s : Session) : List Event := s.stage.sink.events

/-- The outcomes of the calls that failed. -/
def failures (s : Session) : List Outcome := s.outcomes.filter Outcome.isFailure

/-- Carries out one call and records the outcome, which is also returned. -/
def apply (s : Session) (c : Call) : Outcome × Session :=
  let (result, host) := (Host.dispatch c).run.run s.host
  let outcome : Outcome := ⟨s.outcomes.length, c.name, result⟩
  (outcome, ⟨host, s.outcomes ++ [outcome]⟩)

/-- Carries out calls, one after the other. -/
def run (s : Session) (calls : List Call) : Session :=
  calls.foldl (fun s c => (s.apply c).2) s

@[simp] theorem run_nil (s : Session) : s.run [] = s := rfl

@[simp] theorem run_cons (s : Session) (c : Call) (rest : List Call) :
    s.run (c :: rest) = (s.apply c).2.run rest := rfl

/-- A call adds its outcome to the record, and nothing else. -/
theorem outcomes_apply (s : Session) (c : Call) :
    (s.apply c).2.outcomes = s.outcomes ++ [(s.apply c).1] := rfl

/-- Every call of a run has one outcome. -/
theorem length_outcomes_run (s : Session) (calls : List Call) :
    (s.run calls).outcomes.length = s.outcomes.length + calls.length := by
  induction calls generalizing s with
  | nil => rfl
  | cons c rest ih =>
    rw [run_cons, ih, outcomes_apply]
    simp only [List.length_append, List.length_cons, List.length_nil]
    omega

/-- Carries out calls, one after the other, and shows the stage and the outcome after each of them
to an observer. The first fault of the observer ends the replay and is returned. -/
def runWith {m : Type → Type} [Monad m]
    (observe : Stage Recorder → Outcome → m (Except Fault Unit)) :
    Session → List Call → m (Except Fault Unit × Session)
  | s, [] => pure (.ok (), s)
  | s, c :: rest => do
    let (outcome, s) := s.apply c
    match ← observe s.stage outcome with
    | .ok () => runWith observe s rest
    | .error fault => pure (.error fault, s)

end Session

end SpriteStage
