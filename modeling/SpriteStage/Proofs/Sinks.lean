/-
Sinks and the stage.

A press hands one event to the sink of the stage, and the answer of the sink goes nowhere: what is
left of it is the state of the sink itself. So a stage can be given another sink at any time, of any
other type, and every call still answers the same and leaves the same stage but for the sink
(`Host.step_withSink`). Along a run this says two things at once (`Host.run_withSink`). The run with
another sink is the old one with that sink in its place, and each sink is in the state to which the
presses of the history have brought it, taken one by one and in order.
-/
import SpriteStage.Proofs.History

set_option autoImplicit false

namespace SpriteStage

variable {σ τ : Type}

/-! ## What a sink is handed -/

/-- The sink after it was handed events, the first one first, whether or not it took them. -/
def EventSink.handed [EventSink σ] (sink : σ) (events : List Event) : σ :=
  events.foldl (fun sink e => ((EventSink.deliver e : Attempt σ Unit).runOn sink).2) sink

theorem EventSink.handed_append [EventSink σ] (sink : σ) (events more : List Event) :
    handed sink (events ++ more) = handed (handed sink events) more :=
  List.foldl_append

/-- The event of an entry: a press that went through has one. -/
def Entry.press? : Entry → Option Event
  | ⟨.pressButton id, .ok _⟩ => some (.buttonPress id)
  | _ => none

/-- The presses of a history that went through, the first one first. -/
def presses (past : List Entry) : List Event := past.filterMap Entry.press?

theorem presses_concat (past : List Entry) (e : Entry) :
    presses (past ++ [e]) = presses past ++ e.press?.toList := by
  rw [presses, List.filterMap_append, ← presses]
  cases h : e.press? <;> simp [h]

theorem Entry.press?_error (c : Call) (fault : Fault) :
    (⟨c, .error fault⟩ : Entry).press? = none := by
  cases c <;> rfl

/-! ## Another sink -/

/-- The stage with another sink. -/
def Stage.withSink (s : Stage σ) (sink : τ) : Stage τ :=
  ⟨s.settings, s.counters, s.sprites, s.canvases, s.textViews, s.buttons, s.column, sink⟩

/-- The host with another sink. -/
def Host.withSink (h : Host σ) (sink : τ) : Host τ := ⟨h.stage.withSink sink, h.handlers⟩

theorem Stage.Sound.withSink {s : Stage σ} (hs : s.Sound) (sink : τ) : (s.withSink sink).Sound :=
  ⟨hs.limit_eq, hs.sprite, hs.canvas⟩

namespace Host

variable [EventSink σ] [EventSink τ] {h h' : Host σ} {c : Call}

/-- A call that is accepted is accepted beside every other sink, with the same reply. The other sink
is handed the press, if the call is one. -/
theorem Accepts.withSink {reply : Reply} (ha : h.Accepts c reply h') (sink : τ) :
    (h.withSink sink).Accepts c reply
      (h'.withSink (EventSink.handed sink (⟨c, .ok reply⟩ : Entry).press?.toList)) := by
  -- both hosts have the same tables, so what was found on the one is found on the other
  cases ha with
  | removeNoTextView absent => exact .removeNoTextView absent
  | _ => constructor <;> assumption

omit [EventSink σ] [EventSink τ] in
theorem Refuses.withSink {fault : Fault} (hr : h.Refuses c fault) (sink : τ) :
    (h.withSink sink).Refuses c fault := by
  cases hr <;> constructor <;> assumption

/-- **One call.** -/
theorem step_withSink (hs : h.stage.Sound) (c : Call) (sink : τ) :
    (h.withSink sink).step c =
      (h.answer c,
        (h.after c).withSink (EventSink.handed sink (⟨c, h.answer c⟩ : Entry).press?.toList)) := by
  have hs' : (h.withSink sink).stage.Sound := hs.withSink sink
  rw [answer, after]
  rcases step_cases hs c with ⟨reply, h', hstep, ha⟩ | ⟨fault, hstep, hr⟩
  · rw [hstep]
    exact step_of_accepts hs' (ha.withSink sink)
  · have hanswer := (answer_eq_error_iff hs').mpr (hr.withSink sink)
    rw [hstep, Entry.press?_error]
    exact Prod.ext hanswer (after_of_error hs' hanswer)

/-! ## Runs -/

/-- **A run with another sink** is the run with the other sink in its place, handed the presses. -/
theorem run_withSink (settings : Settings) (sink : σ) (other : τ) (calls : List Call) :
    (start settings other).history calls = (start settings sink).history calls ∧
      (start settings other).run calls = ((start settings sink).run calls).withSink
        (EventSink.handed other (presses ((start settings sink).history calls))) := by
  -- the last call acts on hosts that differ in their sinks only
  induction calls using List.reverseRecOn with
  | nil => exact ⟨rfl, rfl⟩
  | append_singleton calls c ih =>
    obtain ⟨hhistory, hrun⟩ := ih
    have hstep := step_withSink (sound_run settings sink calls) c
      (EventSink.handed other (presses ((start settings sink).history calls)))
    rw [← hrun] at hstep
    simp only [history_concat, run_concat, hhistory, presses_concat, EventSink.handed_append]
    constructor
    · rw [answer, hstep]
    · rw [after, hstep]

/-- The sink of a run was handed its presses and nothing else. -/
theorem sink_run (settings : Settings) (sink : σ) (calls : List Call) :
    ((start settings sink).run calls).stage.sink =
      EventSink.handed sink (presses ((start settings sink).history calls)) :=
  congrArg (fun h => h.stage.sink) (run_withSink settings sink sink calls).2

/-- **The sink has no influence.** Take two sinks of any types, under the same settings, and the same
calls. After each of the calls both histories are the same, answers included, and the two hosts agree
on everything but the sink: putting the sink of the one into the other gives the one. Each sink was
handed the presses that went through, in their order, and nothing else. -/
theorem sink_without_influence (settings : Settings) (sink : σ) (other : τ) (calls : List Call)
    (n : Nat) :
    let past := (start settings sink).history (calls.take n)
    let h := (start settings sink).run (calls.take n)
    let h' := (start settings other).run (calls.take n)
    (start settings other).history (calls.take n) = past ∧
      h' = h.withSink h'.stage.sink ∧
      h.stage.sink = EventSink.handed sink (presses past) ∧
      h'.stage.sink = EventSink.handed other (presses past) := by
  intro past h h'
  obtain ⟨hhistory, hrun⟩ := run_withSink settings sink other (calls.take n)
  have hsink : h'.stage.sink = EventSink.handed other (presses past) := by
    show ((start settings other).run (calls.take n)).stage.sink = _
    rw [sink_run, hhistory]
  refine ⟨hhistory, ?_, sink_run settings sink (calls.take n), hsink⟩
  rw [hsink]
  exact hrun

end Host

end SpriteStage
