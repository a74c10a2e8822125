/-
Replays under an observer.

A replay under an observer and a plain one are two loops over the same calls. What ties them is the
list of views: the stage right after each call, with the outcome that the call has added. The calls
fix the views before any of them is shown, because an observer cannot touch the session. So the
observed replay comes apart into two pieces (`runWith_eq_watch`). The observer is shown the views,
one after the other and up to its first fault, and the session is the plain run of as many calls as
views were shown.

The first piece no longer speaks about sessions. An observer with a state accepts a view or does
not, and either way goes into its next state; how far it gets is settled by splitting the views at
the first one that it does not accept (`run_watch_append`). Whether the calls themselves fail plays
no part in any of this: a failed call has an outcome, hence a view, like any other.
-/
import SpriteStage.Session

set_option autoImplicit false

namespace SpriteStage

/-- What an observer is shown after a call: the stage, and the outcome that the call has added. -/
structure View where
  stage : Stage Recorder
  outcome : Outcome

namespace Session

/-! ## Views -/

/-- The views of calls, the first one first. -/
def views (s : Session) : List Call → List View
  | [] => []
  | c :: rest => ⟨(s.apply c).2.stage, (s.apply c).1⟩ :: (s.apply c).2.views rest

theorem length_views (s : Session) (calls : List Call) :
    (s.views calls).length = calls.length := by
  induction calls generalizing s with
  | nil => rfl
  | cons c rest ih => rw [views, List.length_cons, ih, List.length_cons]

theorem views_of_getElem? {s : Session} {calls : List Call} {n : Nat} {v : View}
    (h : (s.views calls)[n]? = some v) :
    v.stage = (s.run (calls.take (n + 1))).stage ∧
      (s.run (calls.take (n + 1))).outcomes = (s.run (calls.take n)).outcomes ++ [v.outcome] := by
  induction calls generalizing s n with
  | nil => cases h
  | cons c rest ih =>
    cases n with
    | zero =>
      cases h
      exact ⟨rfl, rfl⟩
    | succ n =>
      rw [views, List.getElem?_cons_succ] at h
      exact ih h

/-! ## Any observer -/

section Effects

variable {m : Type → Type} [Monad m]
  (observe : Stage Recorder → Outcome → m (Except Fault Unit))

/-- Shows views to an observer, one after the other, up to its first fault. Answers how that ended
and how many views were shown. -/
def watch : List View → m (Except Fault Unit × Nat)
  | [] => pure (.ok (), 0)
  | v :: rest => do
    match ← observe v.stage v.outcome with
    | .ok () => do
      let (result, shown) ← watch rest
      return (result, shown + 1)
    | .error fault => return (.error fault, 1)

/-- **The two loops.** A replay under an observer shows it the views of the calls, and leaves the
session of the plain run of as many calls as views were shown. -/
theorem runWith_eq_watch [LawfulMonad m] (s : Session) (calls : List Call) :
    runWith observe s calls = (do
      let (result, shown) ← watch observe (s.views calls)
      return (result, s.run (calls.take shown))) := by
  induction calls generalizing s with
  | nil => simp only [runWith, views, watch, pure_bind, List.take_nil, run_nil]
  | cons c rest ih =>
    simp only [runWith, views, watch, bind_assoc]
    refine bind_congr fun verdict => ?_
    rcases verdict with fault | ⟨⟩
    · simp only [pure_bind]
      rfl
    · rw [ih (s.apply c).2]
      simp only [bind_assoc, pure_bind]
      rfl

end Effects

/-! ## Observers with a state -/

section State

variable {τ : Type} (observe : Stage Recorder → Outcome → StateM τ (Except Fault Unit))

/-- What an observer answers to a view, and the state that it goes into. -/
def reaction (t : τ) (v : View) : Except Fault Unit × τ := (observe v.stage v.outcome).run t

/-- The state of an observer after it was shown views, each of them once and in order. -/
def shownAll (t : τ) (vs : List View) : τ := vs.foldl (fun t v => (reaction observe t v).2) t

/-- Whether an observer accepts all of the views that it is shown from a state on. -/
def AcceptsAll : τ → List View → Prop
  | _, [] => True
  | t, v :: rest => (reaction observe t v).1 = .ok () ∧ AcceptsAll (reaction observe t v).2 rest

theorem run_watch_cons_of_ok {t : τ} {v : View} (h : (reaction observe t v).1 = .ok ())
    (rest : List View) :
    (watch observe (v :: rest)).run t =
      let r := (watch observe rest).run (reaction observe t v).2
      ((r.1.1, r.1.2 + 1), r.2) := by
  have hrun : (observe v.stage v.outcome).run t = (.ok (), (reaction observe t v).2) :=
    Prod.ext h rfl
  rw [watch, StateT.run_bind, hrun]
  rfl

theorem run_watch_cons_of_error {t : τ} {v : View} {fault : Fault}
    (h : (reaction observe t v).1 = .error fault) (rest : List View) :
    (watch observe (v :: rest)).run t = ((.error fault, 1), (reaction observe t v).2) := by
  have hrun : (observe v.stage v.outcome).run t = (.error fault, (reaction observe t v).2) :=
    Prod.ext h rfl
  rw [watch, StateT.run_bind, hrun]
  rfl

/-- Views that are accepted are passed over. -/
theorem run_watch_append {t : τ} {first : List View} (h : AcceptsAll observe t first)
    (rest : List View) :
    (watch observe (first ++ rest)).run t =
      let r := (watch observe rest).run (shownAll observe t first)
      ((r.1.1, r.1.2 + first.length), r.2) := by
  induction first generalizing t with
  | nil => rfl
  | cons v first ih =>
    obtain ⟨hv, hfirst⟩ := h
    rw [List.cons_append, run_watch_cons_of_ok observe hv, ih hfirst]
    rfl

/-- **An observed replay is a plain one, up to the first fault of the observer.** Take any session,
used or not, any calls, and any observer with a state. There is one view for each call, and it is
the stage right after the call with the outcome that was just added. If the observer accepts all
views, the replay leaves the session of the plain run. If the view of some call is the first that it
does not accept, the replay answers with its fault and leaves the session of the calls up to this
one. In both cases the observer was shown the views of these calls, each of them once, in order, and
nothing else. -/
theorem observed_replay (s : Session) (calls : List Call) (t : τ) :
    let vs := s.views calls
    vs.length = calls.length ∧
    (∀ n v, vs[n]? = some v → v.stage = (s.run (calls.take (n + 1))).stage ∧
      (s.run (calls.take (n + 1))).outcomes = (s.run (calls.take n)).outcomes ++ [v.outcome]) ∧
    (AcceptsAll observe t vs →
      (runWith observe s calls).run t = ((.ok (), s.run calls), shownAll observe t vs)) ∧
    ∀ n v fault, vs[n]? = some v → AcceptsAll observe t (vs.take n) →
      (reaction observe (shownAll observe t (vs.take n)) v).1 = .error fault →
      (runWith observe s calls).run t =
        ((.error fault, s.run (calls.take (n + 1))), shownAll observe t (vs.take (n + 1))) := by
  intro vs
  have hlength : vs.length = calls.length := length_views s calls
  refine ⟨hlength, fun n v => views_of_getElem?, ?_, ?_⟩
  · intro hall
    have hwatch := run_watch_append observe hall []
    rw [List.append_nil] at hwatch
    rw [runWith_eq_watch, StateT.run_bind, hwatch, hlength]
    -- as many views were shown as there are calls
    show ((Except.ok (), s.run (calls.take (0 + calls.length))), _) = _
    rw [Nat.zero_add, List.take_length]
    rfl
  · intro n v fault hv hall hfault
    obtain ⟨hn, rfl⟩ := List.getElem?_eq_some_iff.mp hv
    -- the views before it are passed over, and the ones behind it are never shown
    have hsplit : vs = vs.take n ++ vs[n] :: vs.drop (n + 1) := by
      rw [← List.drop_eq_getElem_cons hn, List.take_append_drop]
    have hwatch := run_watch_append observe hall (vs[n] :: vs.drop (n + 1))
    rw [← hsplit, run_watch_cons_of_error observe hfault, List.length_take_of_le (by omega)]
      at hwatch
    rw [runWith_eq_watch, StateT.run_bind, hwatch, List.take_succ_eq_append_getElem hn, shownAll,
      shownAll, List.foldl_append, Nat.add_comm n]
    rfl

end State

/-- An observer that keeps the names of the calls, and ends the replay at the second one. That call
fails, which is not what ends it. -/
theorem ended_after_failed_redraw :
    let observe : Stage Recorder → Outcome → StateM (List String) (Except Fault Unit) :=
      fun _ o => do
        modify (· ++ [o.call])
        return if o.index = 1 then .error (.rejected (.other "stop")) else .ok ()
    let calls : List Call := [.createCanvas 2 2, .canvasRedraw 7, .createButton "go"]
    let s : Session := ⟨.start {} {}, []⟩
    (runWith observe s calls).run [] =
      ((.error (.rejected (.other "stop")), s.run [.createCanvas 2 2, .canvasRedraw 7]),
        ["createCanvas", "canvasRedraw"]) := by
  intro observe calls s
  obtain ⟨-, -, -, hended⟩ := observed_replay observe s calls []
  exact hended 1 _ _ rfl ⟨rfl, trivial⟩ rfl

end Session

end SpriteStage
