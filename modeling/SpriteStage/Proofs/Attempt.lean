/-
Running attempts.

An operation that may fail is a value of `Attempt σ α`, and what it does on a state is a pair: the
answer, or the fault, and the state that it leaves (`Attempt.runOn`). The lemmas here push a run
through the steps of an operation, so that the run of an operation is computed by `simp` from the
look-ups that it branches on.
-/
import SpriteStage.Fault

set_option autoImplicit false

namespace SpriteStage.Attempt

variable {σ τ α β : Type}

/-- What an operation answers on a state, and the state that it leaves. -/
def runOn (x : Attempt σ α) (s : σ) : Except Fault α × σ := x.run.run s

@[simp] theorem runOn_pure (a : α) (s : σ) : (pure a : Attempt σ α).runOn s = (.ok a, s) := rfl

@[simp] theorem runOn_get (s : σ) : (get : Attempt σ σ).runOn s = (.ok s, s) := rfl

@[simp] theorem runOn_set (s s' : σ) : (set s' : Attempt σ Unit).runOn s = (.ok (), s') := rfl

@[simp] theorem runOn_modify (f : σ → σ) (s : σ) :
    (modify f : Attempt σ Unit).runOn s = (.ok (), f s) := rfl

@[simp] theorem runOn_modifyGet (f : σ → α × σ) (s : σ) :
    (modifyGet f : Attempt σ α).runOn s = (.ok (f s).1, (f s).2) := rfl

/-- An operation that cannot fail answers. -/
@[simp] theorem runOn_lift (x : StateM σ α) (s : σ) :
    runOn (ExceptT.lift x) s = (.ok (x.run s).1, (x.run s).2) := rfl

/-- A check or computation without effects leaves the state as it is. -/
@[simp] theorem runOn_liftM (x : Except Fault α) (s : σ) :
    (liftM x : Attempt σ α).runOn s = (x, s) := by
  cases x <;> rfl

@[simp] theorem ok_bind (a : α) (f : α → Except Fault β) : (Except.ok a >>= f) = f a := rfl

@[simp] theorem error_bind (fault : Fault) (f : α → Except Fault β) :
    (Except.error fault >>= f) = .error fault := rfl

@[simp] theorem map_ok (f : α → β) (a : α) : (Except.ok a : Except Fault α).map f = .ok (f a) := rfl

@[simp] theorem map_error (f : α → β) (fault : Fault) :
    (Except.error fault : Except Fault α).map f = .error fault := rfl

/-- After a first operation the second one goes on, unless the first one failed. -/
@[simp] theorem runOn_bind (x : Attempt σ α) (f : α → Attempt σ β) (s : σ) :
    (x >>= f).runOn s = match x.runOn s with
      | (.ok a, s') => (f a).runOn s'
      | (.error fault, s') => (.error fault, s') := by
  simp only [runOn, ExceptT.run_bind, StateT.run_bind]
  rcases x.run.run s with ⟨result, s'⟩
  cases result <;> rfl

theorem runOn_bind_of_ok {x : Attempt σ α} {f : α → Attempt σ β} {s s' : σ} {a : α}
    (h : x.runOn s = (.ok a, s')) : (x >>= f).runOn s = (f a).runOn s' := by
  rw [runOn_bind, h]

theorem runOn_bind_of_error {x : Attempt σ α} {f : α → Attempt σ β} {s s' : σ} {fault : Fault}
    (h : x.runOn s = (.error fault, s')) : (x >>= f).runOn s = (.error fault, s') := by
  rw [runOn_bind, h]

/-- Two operations that go through one after the other go through one by one. -/
theorem exists_of_runOn_bind {x : Attempt σ α} {f : α → Attempt σ β} {s s' : σ} {b : β}
    (h : (x >>= f).runOn s = (.ok b, s')) :
    ∃ a s₁, x.runOn s = (.ok a, s₁) ∧ (f a).runOn s₁ = (.ok b, s') := by
  rw [runOn_bind] at h
  split at h
  · next a s₁ hx => exact ⟨a, s₁, hx, h⟩
  · cases h

@[simp] theorem runOn_map (f : α → β) (x : Attempt σ α) (s : σ) :
    (f <$> x).runOn s = ((x.runOn s).1.map f, (x.runOn s).2) := by
  simp only [runOn, ExceptT.run_map, StateT.run_map]
  rcases x.run.run s with ⟨result, s'⟩
  cases result <;> rfl

end SpriteStage.Attempt
