/-
Plans as calls to a surface.

A plan stands for a list of calls: the background, one call for every sprite, the presentation
(`Plan.calls`). Carrying a plan out is making these calls, one after the other, up to the first one
that fails. Two things are said about any surface, whatever its states are and wherever it fails.

* What comes out. Either all calls go through, and the answer is that of the presentation; or some
  call is the first to fail, and the answer is its fault. The surface is left as the last call that
  was made leaves it (`Plan.runOn_execute_of_through`, `Plan.runOn_execute_of_stop`).
* What is called. A surface that writes down every call before it is made (`Logged`) is a surface as
  well, and a plan can be carried out on it. It answers what the surface under it answers, and its
  log is the calls that were made (`Through.logged`).

So the log of a plan is a beginning of its calls, and since the presentation is the last one of them,
it is in the log only if everything was drawn.
-/
import SpriteStage.Surface
import SpriteStage.Proofs.Attempt

set_option autoImplicit false

namespace SpriteStage

/-! ## Calls -/

/-- A call to a surface. -/
inductive DrawingCall where
  | clear (color : Argb)
  | blit (left top : Int32) (b : Bitmap)
  | drawText (left top : Int32) (t : Label)
  | present
deriving DecidableEq

namespace DrawingCall

/-- The call that draws a sprite: its bitmap or its text, at its position. -/
def ofSprite (s : Sprite) : DrawingCall :=
  match s.figure with
  | .bitmap b => .blit s.left s.top b
  | .text t => .drawText s.left s.top t

variable {σ : Type} [Surface σ]

/-- Makes a call. A presentation answers the number of the frame, and the other calls nothing. -/
def make : DrawingCall → Attempt σ (Option UInt64)
  | clear color => (fun _ => none) <$> Surface.clear color
  | blit left top b => (fun _ => none) <$> Surface.blit left top b
  | drawText left top t => (fun _ => none) <$> Surface.drawText left top t
  | present => some <$> Surface.present

/-- Makes calls one after the other, up to the first one that fails. -/
def makeAll : List DrawingCall → Attempt σ Unit
  | [] => pure ()
  | c :: rest => do
    let _ ← c.make
    makeAll rest

end DrawingCall

namespace Plan

/-- The calls that draw a plan: the background, then every sprite in order. -/
def drawing (p : Plan) : List DrawingCall := .clear p.clear :: p.ops.map .ofSprite

/-- The calls that a plan stands for. -/
def calls (p : Plan) : List DrawingCall := p.drawing ++ [.present]

theorem present_not_mem_drawing (p : Plan) : .present ∉ p.drawing := by
  intro h
  rcases List.mem_cons.mp h with h | h
  · cases h
  · obtain ⟨s, -, hs⟩ := List.mem_map.mp h
    unfold DrawingCall.ofSprite at hs
    split at hs <;> cases hs

/-- Where the presentation is among the calls of a beginning, the beginning is all of them. -/
theorem eq_calls_of_present_mem {p : Plan} {before after : List DrawingCall} {c : DrawingCall}
    (hsplit : p.calls = before ++ c :: after) (h : .present ∈ before ++ [c]) :
    before = p.drawing ∧ c = .present ∧ after = [] := by
  rcases List.eq_nil_or_concat after with rfl | ⟨rest, d, rfl⟩
  · obtain ⟨hdrawing, hlast⟩ := List.append_inj' hsplit rfl
    exact ⟨hdrawing.symm, (List.cons.inj hlast).1.symm, rfl⟩
  · -- a call after `c` would be the presentation, and then none was before it
    have hshift : p.drawing ++ [.present] = (before ++ [c] ++ rest) ++ [d] := by
      rw [← calls, hsplit, List.concat_eq_append, List.append_assoc, List.append_assoc]
      rfl
    obtain ⟨hdrawing, -⟩ := List.append_inj' hshift rfl
    have hmem : .present ∈ p.drawing := hdrawing ▸ List.mem_append_left rest h
    exact absurd hmem p.present_not_mem_drawing

variable {σ : Type} [Surface σ]

theorem draw_eq_make (s : Sprite) :
    (draw s : Attempt σ Unit) = (fun _ => ()) <$> (DrawingCall.ofSprite s).make := by
  cases hf : s.figure with
  | bitmap b => simp only [draw, DrawingCall.ofSprite, hf, DrawingCall.make, Functor.map_map, id_map']
  | text t => simp only [draw, DrawingCall.ofSprite, hf, DrawingCall.make, Functor.map_map, id_map']

theorem drawAll_eq_makeAll (ops : List Sprite) :
    (drawAll ops : Attempt σ Unit) = DrawingCall.makeAll (ops.map .ofSprite) := by
  induction ops with
  | nil => rfl
  | cons s rest ih =>
    rw [drawAll, List.map_cons, DrawingCall.makeAll, draw_eq_make, ih, bind_map_left]

/-- A plan is carried out by making its calls. -/
theorem execute_eq_makeAll (p : Plan) :
    (execute p : Attempt σ UInt64) = DrawingCall.makeAll p.drawing >>= fun _ => Surface.present := by
  rw [execute, drawAll_eq_makeAll, drawing, DrawingCall.makeAll, DrawingCall.make]
  simp only [bind_map_left, bind_assoc]

end Plan

/-! ## What comes out -/

section Runs

variable {σ : Type} [Surface σ]

/-- Calls that all go through, one after the other, and the surface that they leave. -/
inductive Through : List DrawingCall → σ → σ → Prop where
  | nil (s : σ) : Through [] s s
  | cons {c : DrawingCall} {rest : List DrawingCall} {s s₁ s' : σ} {answer : Option UInt64}
      (first : c.make.runOn s = (.ok answer, s₁)) (others : Through rest s₁ s') :
    Through (c :: rest) s s'

/-- Calls of which one, `c`, is the first to fail, with the calls before it, its fault and the
surface that it leaves. -/
structure StopsAt (calls : List DrawingCall) (s : σ) (before : List DrawingCall) (c : DrawingCall)
    (fault : Fault) (s' : σ) : Prop where
  split : ∃ after, calls = before ++ c :: after
  fails : ∃ s₁, Through before s s₁ ∧ c.make.runOn s₁ = (.error fault, s')

variable {s s' : σ} {calls before : List DrawingCall} {c : DrawingCall} {fault : Fault}

theorem StopsAt.cons {d : DrawingCall} {s₁ : σ} {answer : Option UInt64}
    (hd : d.make.runOn s = (.ok answer, s₁)) (h : StopsAt calls s₁ before c fault s') :
    StopsAt (d :: calls) s (d :: before) c fault s' := by
  obtain ⟨⟨after, hsplit⟩, s₂, hbefore, hc⟩ := h
  exact ⟨⟨after, by rw [hsplit, List.cons_append]⟩, s₂, .cons hd hbefore, hc⟩

/-- Calls either all go through, or one of them is the first to fail. -/
theorem through_or_stops (calls : List DrawingCall) (s : σ) :
    (∃ s', Through calls s s') ∨ ∃ before c fault s', StopsAt calls s before c fault s' := by
  induction calls generalizing s with
  | nil => exact .inl ⟨s, .nil s⟩
  | cons d rest ih =>
    rcases hd : d.make.runOn s with ⟨fault | answer, s₁⟩
    · exact .inr ⟨[], d, fault, s₁, ⟨rest, rfl⟩, s, .nil s, hd⟩
    · rcases ih s₁ with ⟨s', hrest⟩ | ⟨before, c, fault, s', hrest⟩
      · exact .inl ⟨s', .cons hd hrest⟩
      · exact .inr ⟨d :: before, c, fault, s', hrest.cons hd⟩

theorem Through.runOn_makeAll (h : Through calls s s') :
    (DrawingCall.makeAll calls).runOn s = (.ok (), s') := by
  induction h with
  | nil s => rfl
  | cons first _ ih => rw [DrawingCall.makeAll, Attempt.runOn_bind_of_ok first, ih]

theorem StopsAt.runOn_makeAll (h : StopsAt calls s before c fault s') :
    (DrawingCall.makeAll calls).runOn s = (.error fault, s') := by
  obtain ⟨⟨after, rfl⟩, s₁, hbefore, hc⟩ := h
  induction hbefore with
  | nil s => rw [List.nil_append, DrawingCall.makeAll, Attempt.runOn_bind, hc]
  | cons first _ ih =>
    rw [List.cons_append, DrawingCall.makeAll, Attempt.runOn_bind_of_ok first, ih hc]

namespace Plan

variable {p : Plan}

/-- When everything is drawn, a plan comes out as its presentation does. -/
theorem runOn_execute_of_through (h : Through p.drawing s s') :
    (p.execute : Attempt σ UInt64).runOn s = Surface.present.runOn s' := by
  rw [execute_eq_makeAll, Attempt.runOn_bind_of_ok h.runOn_makeAll]

/-- When a call for drawing fails, a plan comes out as this call does. -/
theorem runOn_execute_of_stop (h : StopsAt p.drawing s before c fault s') :
    (p.execute : Attempt σ UInt64).runOn s = (.error fault, s') := by
  rw [execute_eq_makeAll, Attempt.runOn_bind, h.runOn_makeAll]

end Plan

end Runs

/-! ## What is called -/

/-- A surface with a log of the calls that were made to it. -/
structure Logged (σ : Type) where
  /-- The surface that carries the calls out. -/
  surface : σ
  /-- The calls, the first one first. -/
  log : List DrawingCall

namespace Logged

variable {σ : Type}

/-- Writes a call into the log, then carries it out on the surface. -/
def record {α : Type} (c : DrawingCall) (x : Attempt σ α) : Attempt (Logged σ) α := do
  modify fun l => { l with log := l.log ++ [c] }
  Attempt.onPart surface (fun s l => { l with surface := s }) x

theorem runOn_record {α : Type} (c : DrawingCall) (x : Attempt σ α) (l : Logged σ) :
    (record c x).runOn l =
      ((x.runOn l.surface).1, ⟨(x.runOn l.surface).2, l.log ++ [c]⟩) := by
  rw [record, Attempt.runOn_bind, Attempt.runOn_modify]
  rfl

variable [Surface σ]

instance : Surface (Logged σ) where
  extent l := Surface.extent l.surface
  clear color := record (.clear color) (Surface.clear color)
  blit left top b := record (.blit left top b) (Surface.blit left top b)
  drawText left top t := record (.drawText left top t) (Surface.drawText left top t)
  present := record .present Surface.present

/-- A call comes out as it does without a log. -/
theorem runOn_make (c : DrawingCall) (s : σ) (log : List DrawingCall) :
    c.make.runOn (Logged.mk s log) =
      ((c.make.runOn s).1, ⟨(c.make.runOn s).2, log ++ [c]⟩) := by
  cases c <;>
    simp only [DrawingCall.make, Surface.clear, Surface.blit, Surface.drawText, Surface.present,
      Attempt.runOn_map, runOn_record]

end Logged

section Logs

variable {σ : Type} [Surface σ] {s s' : σ} {calls before : List DrawingCall} {c : DrawingCall}
  {fault : Fault}

/-- Calls that go through are all logged. -/
theorem Through.logged (h : Through calls s s') (log : List DrawingCall) :
    Through calls (Logged.mk s log) ⟨s', log ++ calls⟩ := by
  induction h generalizing log with
  | nil s =>
    rw [List.append_nil]
    exact .nil _
  | @cons c rest s s₁ s' answer first _ ih =>
    have hc : c.make.runOn (Logged.mk s log) = (.ok answer, ⟨s₁, log ++ [c]⟩) := by
      rw [Logged.runOn_make, first]
    rw [List.append_cons]
    exact .cons hc (ih (log ++ [c]))

/-- When a call fails, it is logged with the calls before it. -/
theorem StopsAt.logged (h : StopsAt calls s before c fault s') (log : List DrawingCall) :
    StopsAt calls (Logged.mk s log) before c fault ⟨s', log ++ (before ++ [c])⟩ := by
  obtain ⟨hsplit, s₁, hbefore, hc⟩ := h
  refine ⟨hsplit, ⟨s₁, log ++ before⟩, hbefore.logged log, ?_⟩
  rw [Logged.runOn_make, hc, List.append_assoc]

end Logs

/-! ## Carrying a plan out -/

namespace Plan

variable {σ : Type} [Surface σ]

/-- How a plan comes out on a surface: with which answer, on which surface, and by which calls. -/
inductive ComesOut (p : Plan) (s : σ) : Except Fault UInt64 → σ → List DrawingCall → Prop where
  -- everything is drawn and then presented
  | presented {s₁ s' : σ} {n : UInt64} (drawn : Through p.drawing s s₁)
      (done : Surface.present.runOn s₁ = (.ok n, s')) : ComesOut p s (.ok n) s' p.calls
  -- one call, perhaps the presentation, is the first to fail
  | stopped {before after : List DrawingCall} {c : DrawingCall} {s₁ s' : σ} {fault : Fault}
      (split : p.calls = before ++ c :: after) (through : Through before s s₁)
      (fails : c.make.runOn s₁ = (.error fault, s')) :
    ComesOut p s (.error fault) s' (before ++ [c])

namespace ComesOut

variable {p : Plan} {s s' : σ} {answer : Except Fault UInt64} {made : List DrawingCall}

theorem made_prefix (h : p.ComesOut s answer s' made) : made <+: p.calls := by
  cases h with
  | presented => exact List.prefix_rfl
  | @stopped before after c _ _ _ hsplit =>
    exact ⟨after, by rw [hsplit, List.append_assoc, List.singleton_append]⟩

theorem count_present_le (h : p.ComesOut s answer s' made) : made.count .present ≤ 1 := by
  have honce : p.calls.count .present = 1 := by
    rw [calls, List.count_append, List.count_eq_zero_of_not_mem p.present_not_mem_drawing,
      List.count_singleton_self]
  rw [← honce]
  exact h.made_prefix.sublist.count_le .present

theorem drawn_of_present_mem (h : p.ComesOut s answer s' made) (hmem : .present ∈ made) :
    made = p.calls ∧ ∃ s₁, Through p.drawing s s₁ := by
  cases h with
  | @presented s₁ _ _ hdrawn => exact ⟨rfl, s₁, hdrawn⟩
  | @stopped _ _ _ s₁ _ _ hsplit hthrough =>
    obtain ⟨rfl, rfl, -⟩ := eq_calls_of_present_mem hsplit hmem
    exact ⟨rfl, s₁, hthrough⟩

end ComesOut

/-- On a surface with a log a plan comes out as it does without, and the log tells by which calls. -/
theorem exists_comesOut (p : Plan) (s : σ) :
    ∃ answer s' made, (p.execute : Attempt σ UInt64).runOn s = (answer, s') ∧
      (p.execute : Attempt (Logged σ) UInt64).runOn ⟨s, []⟩ = (answer, ⟨s', made⟩) ∧
      p.ComesOut s answer s' made := by
  rcases through_or_stops p.drawing s with ⟨s₁, hdrawn⟩ | ⟨before, c, fault, s', hstop⟩
  · have hran : (p.execute : Attempt σ UInt64).runOn s = Surface.present.runOn s₁ :=
      runOn_execute_of_through hdrawn
    have hlogged : (p.execute : Attempt (Logged σ) UInt64).runOn ⟨s, []⟩ =
        ((Surface.present.runOn s₁).1, ⟨(Surface.present.runOn s₁).2, p.calls⟩) := by
      rw [runOn_execute_of_through (hdrawn.logged [])]
      exact Logged.runOn_record .present Surface.present ⟨s₁, p.drawing⟩
    -- everything is drawn, so only the presentation can fail
    rcases hpresent : Surface.present.runOn s₁ with ⟨fault | n, s'⟩
    · rw [hpresent] at hran hlogged
      have hfails : DrawingCall.present.make.runOn s₁ = (.error fault, s') := by
        rw [DrawingCall.make, Attempt.runOn_map, hpresent]
        rfl
      exact ⟨_, s', p.calls, hran, hlogged, .stopped rfl hdrawn hfails⟩
    · rw [hpresent] at hran hlogged
      exact ⟨_, s', p.calls, hran, hlogged, .presented hdrawn hpresent⟩
  · refine ⟨_, _, before ++ [c], runOn_execute_of_stop hstop,
      runOn_execute_of_stop (hstop.logged []), ?_⟩
    obtain ⟨⟨after, hsplit⟩, s₁, hbefore, hc⟩ := hstop
    have hcalls : p.calls = before ++ c :: (after ++ [.present]) := by
      rw [calls, hsplit, List.append_assoc, List.cons_append]
    exact .stopped hcalls hbefore hc

/-- **A plan is its calls, up to the first one that fails.** Take any surface, in any state and with
calls that fail wherever they may, and any plan. Carried out with a log, the plan answers the same
and leaves the same surface. Either everything was drawn, the log holds all calls of the plan, and
answer and surface are those of the presentation; or one call is the first to fail, the log ends with
it, and answer and surface are those of this call. Nothing is presented twice, and nothing is
presented unless everything was drawn before: then the log is complete. -/
theorem execute_makes_calls (p : Plan) (s : σ) :
    let ran := (p.execute : Attempt σ UInt64).runOn s
    let logged := (p.execute : Attempt (Logged σ) UInt64).runOn ⟨s, []⟩
    (logged.1 = ran.1 ∧ logged.2.surface = ran.2) ∧
    p.ComesOut s ran.1 ran.2 logged.2.log ∧
    logged.2.log.count .present ≤ 1 ∧
    (.present ∈ logged.2.log → logged.2.log = p.calls ∧ ∃ s₁, Through p.drawing s s₁) := by
  intro ran logged
  obtain ⟨answer, s', made, hran, hlogged, hout⟩ := p.exists_comesOut s
  have hran' : ran = (answer, s') := hran
  have hlogged' : logged = (answer, ⟨s', made⟩) := hlogged
  rw [hran', hlogged']
  exact ⟨⟨rfl, rfl⟩, hout, hout.count_present_le, hout.drawn_of_present_mem⟩

end Plan

end SpriteStage
