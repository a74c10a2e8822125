/-
Journals: what a command has done to the world, one write after the other.

A world is whatever the files and messages are, so from the world alone nothing can be read off a
command. A journal is a world together with a record: the images that were written, each with its
path, the paths at which none could be written, and the messages. It is a world itself, on which the
operations of a workspace do what they do on the world below (`watch`), and are recorded if they write
or show something. So a command runs on a journal as it is, and its record says what it wrote.

A command that writes nothing leaves the record alone: on a journal it is the watched command
(`load_journal`, `outputDirectory_journal`). For a command that writes, answer and world are the same
with a journal and without one (`Follows`).
-/
import SpriteStage.CommandLine.Run
import SpriteStage.Proofs.Attempt

set_option autoImplicit false

namespace SpriteStage

/-- A world, and what was done in it. -/
structure Journal (W : Type) where
  /-- The files and messages themselves. -/
  world : W
  /-- The images that were written, each with its path, the first one first. -/
  files : List (String × Frame)
  /-- The paths at which an image could not be written. -/
  refused : List String
  /-- The messages, the first one first. -/
  messages : List String

namespace Journal

variable {W α β : Type}

/-- A world in which nothing was done yet. -/
def new (w : W) : Journal W := ⟨w, [], [], []⟩

/-- An operation on the world below, of which no record is kept. -/
def watch (x : StateM W α) : StateM (Journal W) α := fun j =>
  let (a, w) := x.run j.world
  (a, { j with world := w })

/-- The record of a try to write an image. -/
def note (path : String) (image : Frame) (written : Bool) (j : Journal W) : Journal W :=
  if written then { j with files := j.files ++ [(path, image)] }
  else { j with refused := j.refused ++ [path] }

instance [Workspace (StateM W)] : Workspace (StateM (Journal W)) where
  readText path := watch (Workspace.readText path)
  readBytes path := watch (Workspace.readBytes path)
  createDirectory path := watch (Workspace.createDirectory path)
  isDirectory path := watch (Workspace.isDirectory path)
  writeImage path image := do
    let written ← watch (Workspace.writeImage path image)
    modify (note path image written)
    return written
  report line := do
    watch (Workspace.report line)
    modify fun j => { j with messages := j.messages ++ [line] }

/-! ## Operations that leave no record -/

theorem watch_bind (x : StateM W α) (f : α → StateM W β) :
    (watch x >>= fun a => watch (f a)) = watch (x >>= f) := rfl

/-- An attempt on the world below, of which no record is kept. -/
def watchAttempt (x : Attempt W α) : Attempt (Journal W) α := ExceptT.mk (watch x.run)

theorem runOn_watchAttempt (x : Attempt W α) (j : Journal W) :
    (watchAttempt x).runOn j = ((x.runOn j.world).1, { j with world := (x.runOn j.world).2 }) := rfl

theorem watchAttempt_bind (x : Attempt W α) (f : α → Attempt W β) :
    (watchAttempt x >>= fun a => watchAttempt (f a)) = watchAttempt (x >>= f) := by
  have hrun : (watchAttempt (x >>= f)).run = watch (x >>= f).run := rfl
  refine ExceptT.ext ?_
  rw [hrun, ExceptT.run_bind, ExceptT.run_bind, ← watch_bind]
  refine bind_congr fun result => ?_
  cases result <;> rfl

theorem watchAttempt_liftM (x : Except Fault α) :
    (liftM x : Attempt (Journal W) α) = watchAttempt (liftM x) := by
  cases x <;> rfl

section Silent

variable [Workspace (StateM W)]

theorem createAll_journal (paths : List String) :
    (Workspace.createAll paths : StateM (Journal W) Bool) = watch (Workspace.createAll paths) := by
  induction paths with
  | nil => rfl
  | cons path above ih =>
    rw [Workspace.createAll, Workspace.createAll]
    split
    · rfl
    · rw [← watch_bind]
      refine bind_congr fun made => ?_
      match made with
      | .ok () => rfl
      | .error .refused => rfl
      | .error .missing =>
        rw [ih, ← watch_bind]
        refine bind_congr fun opened => ?_
        cases opened with
        | false => rfl
        | true =>
          rw [if_pos rfl, if_pos rfl, ← watch_bind]
          refine bind_congr fun made => ?_
          cases made <;> rfl

theorem outputDirectory_journal (path : String) :
    (Workspace.outputDirectory path : StateM (Journal W) (Except Fault Unit)) =
      watch (Workspace.outputDirectory path) := by
  rw [Workspace.outputDirectory, Workspace.outputDirectory, Workspace.createDirectories,
    createAll_journal]
  rfl

theorem runOn_outputDirectory (path : String) (w : W) :
    ∃ w', Attempt.runOn (ExceptT.mk (Workspace.outputDirectory path)) (new w) =
      ((Attempt.runOn (ExceptT.mk (Workspace.outputDirectory path)) w).1, new w') := by
  rw [outputDirectory_journal]
  exact ⟨_, runOn_watchAttempt (ExceptT.mk (Workspace.outputDirectory path)) (new w)⟩

theorem fallback_journal (source : CommandLine.Source) (env : String → Option String) :
    (source.fallback env : Attempt (Journal W) Settings) = watchAttempt (source.fallback env) := by
  rw [CommandLine.Source.fallback, CommandLine.Source.fallback]
  split
  · rw [← watchAttempt_bind]
    rfl
  · rfl

/-- **A load leaves no record.** -/
theorem load_journal (source : CommandLine.Source) (env : String → Option String) :
    (source.load env : Attempt (Journal W) (Script × Session)) = watchAttempt (source.load env) := by
  rw [CommandLine.Source.load, CommandLine.Source.load, fallback_journal, ← watchAttempt_bind]
  refine bind_congr fun script => ?_
  rw [← watchAttempt_bind]
  refine bind_congr fun settings => ?_
  rw [watchAttempt_liftM, ← watchAttempt_bind]
  rfl

end Silent

/-! ## Operations that do -/

section Recorded

variable [Workspace (StateM W)]

theorem run_writeImage (path : String) (image : Frame) (j : Journal W) :
    (Workspace.writeImage path image : StateM (Journal W) Bool).run j =
      let (written, w) := (Workspace.writeImage path image : StateM W Bool).run j.world
      (written, note path image written { j with world := w }) := rfl

theorem run_report (line : String) (j : Journal W) :
    (Workspace.report line : StateM (Journal W) Unit).run j =
      ((), { j with
        world := ((Workspace.report line : StateM W Unit).run j.world).2
        messages := j.messages ++ [line] }) := rfl

end Recorded

/-- On a journal an operation answers what it answers on the world below, which is left the same. -/
def Follows (x : Attempt (Journal W) α) (y : Attempt W α) : Prop :=
  ∀ j, ((x.runOn j).1, (x.runOn j).2.world) = y.runOn j.world

theorem follows_watchAttempt (x : Attempt W α) : Follows (watchAttempt x) x := fun _ => rfl

theorem Follows.bind {x : Attempt (Journal W) α} {y : Attempt W α} {f : α → Attempt (Journal W) β}
    {g : α → Attempt W β} (hx : Follows x y) (hf : ∀ a, Follows (f a) (g a)) :
    Follows (x >>= f) (y >>= g) := by
  intro j
  have hfirst := hx j
  rw [Attempt.runOn_bind, Attempt.runOn_bind, ← hfirst]
  rcases x.runOn j with ⟨_ | a, j'⟩
  · rfl
  · exact hf a j'

theorem follows_outputDirectory [Workspace (StateM W)] (path : String) :
    Follows (ExceptT.mk (Workspace.outputDirectory path) : Attempt (Journal W) Unit)
      (ExceptT.mk (Workspace.outputDirectory path)) := by
  rw [outputDirectory_journal]
  exact follows_watchAttempt (ExceptT.mk (Workspace.outputDirectory path))

end Journal

end SpriteStage
