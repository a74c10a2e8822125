/-
A replay, frame by frame.

While a script is replayed, each call is followed by a look at the stage, and what the call has
presented is written to a file. So writing goes on between the calls, and a fault of the disk can end
the replay in the middle. None of the calls depends on what was written, though. Seen from outside, a
replay is therefore the whole run first and then one file after the other, for the frames that the
run presents (`replay_of_load`).

The file of a frame is named by its canvas and its number, in decimal digits. Digits contain no
letters, so a name tells both apart (`frameName_inj`), and because no number of a canvas comes twice
(`Host.nodup_tags`) no frame is written over another.

What the files hold is said on its own, as the extent of a raster and its pixels with straight alpha
(`Raster.straight`). A world is whatever the files and messages are, so what is written is read off a
journal of it: one file after the other, up to the first that cannot be written (`saveAll_journal`).
-/
import SpriteStage.Proofs.Frames
import SpriteStage.Proofs.Journal
import SpriteStage.Proofs.Picture
import SpriteStage.Proofs.Wire.RoundTrip
import SpriteStage.Workspace.Scratch

set_option autoImplicit false

namespace SpriteStage

/-! ## Sessions as runs -/

namespace Session

theorem host_run (s : Session) (calls : List Call) : (s.run calls).host = s.host.run calls := by
  induction calls generalizing s with
  | nil => rfl
  | cons c rest ih => exact ih (s.apply c).2

theorem results_run (s : Session) (calls : List Call) :
    (s.run calls).outcomes.map Outcome.result =
      s.outcomes.map Outcome.result ++ (s.host.history calls).map Entry.result := by
  induction calls generalizing s with
  | nil => rw [run_nil, Host.history, List.map_nil, List.append_nil]
  | cons c rest ih =>
    rw [run_cons, ih, outcomes_apply, List.map_append, List.append_assoc, Host.history]
    rfl

end Session

theorem Stage.canvas_of_raster {σ : Type} {s : Stage σ} {id : Ident} {r : Raster}
    (h : s.raster? id = some r) : ∃ c, s.canvas id = .ok c ∧ c.raster = r := by
  obtain ⟨c, hfind, hc⟩ := Option.map_eq_some_iff.mp h
  refine ⟨c, ?_, hc⟩
  rw [Stage.canvas, hfind]

/-- What a raster shows, as an image file holds it. -/
def Raster.straight (r : Raster) : Frame where
  width := r.extent.width
  height := r.extent.height
  data := Frame.bytesOf (r.pixels.map Rgba.unpremultiply)
  premultiplied := false

/-! ## Names of files -/

namespace CommandLine

theorem toList_frameName (canvas : Ident) (frame : UInt64) :
    (frameName canvas frame).toList =
      "canvas-".toList ++ ((Nat.toDigits 10 canvas.toNat ++ ['-']) ++
        'f' :: ("rame-".toList ++ (Nat.toDigits 10 frame.toNat ++ ".png".toList))) := by
  show ("canvas-" ++ canvas.toNat.repr ++ "-frame-" ++ frame.toNat.repr ++ ".png").toList = _
  simp only [String.toList_append, Nat.toList_repr, List.append_assoc]
  rfl

theorem not_mem_toDigits {c : Char} (hc : c.isDigit = false) (n : Nat) : c ∉ Nat.toDigits 10 n := by
  intro hmem
  rw [Nat.isDigit_of_mem_toDigits (by decide) (by decide) hmem] at hc
  cases hc

theorem toDigits_inj {n n' : Nat} (h : Nat.toDigits 10 n = Nat.toDigits 10 n') : n = n' := by
  rw [← @Nat.ofDigitChars_ten_toDigits n, h, Nat.ofDigitChars_ten_toDigits]

/-- Frames with the same name are the same frame of the same canvas. -/
theorem frameName_inj {canvas canvas' : Ident} {frame frame' : UInt64}
    (h : frameName canvas frame = frameName canvas' frame') : canvas = canvas' ∧ frame = frame' := by
  have hlist := congrArg String.toList h
  -- the first letter behind the number of the canvas splits both names
  rw [toList_frameName, toList_frameName, List.append_cancel_left_eq,
    List.append_cons_inj_of_notMem (by simp [not_mem_toDigits]) (by simp [not_mem_toDigits])]
    at hlist
  obtain ⟨hcanvas, -, hframe⟩ := hlist
  rw [List.append_cancel_right_eq] at hcanvas
  rw [List.append_cancel_left_eq, List.append_cancel_right_eq] at hframe
  exact ⟨UInt32.toNat_inj.mp (toDigits_inj hcanvas), UInt64.toNat_inj.mp (toDigits_inj hframe)⟩

/-! ## The files of a replay -/

/-- The place for the image of a frame. -/
def path (outDir : String) (p : Presentation) : String :=
  Path.join outDir (frameName p.canvas p.frame)

theorem path_inj {outDir : String} {p q : Presentation} (h : path outDir p = path outDir q) :
    frameName p.canvas p.frame = frameName q.canvas q.frame := by
  -- whatever stands before the names is the same
  unfold path Path.join at h
  split at h
  · exact h
  · exact String.append_right_inj _ |>.mp h
  · exact String.append_right_inj _ |>.mp h

/-- The file of a frame: its place, and what it holds. -/
def file (outDir : String) (p : Presentation) : String × Frame := (path outDir p, p.raster.straight)

section Effects

variable {m : Type → Type} [Monad m] [Workspace m]

/-- Writes an image file that must be writable. -/
def saveImage (path : String) (image : Frame) : ExceptT Fault m Unit := do
  if ← ExceptT.lift (Workspace.writeImage path image) then return ()
  else throw (.mishap (.file .writeImage path))

/-- Writes frames, each to its place, up to the first that cannot be written. -/
def saveAll (outDir : String) : List Presentation → ExceptT Fault m Unit
  | [] => pure ()
  | p :: rest => do
    saveImage (path outDir p) p.raster.straight
    saveAll outDir rest

/-- Writes the frames that calls present in a session, and reports about the run. -/
def saveRun (outDir : String) (session : Session) (calls : List Call) : ExceptT Fault m Unit := do
  ExceptT.mk (Workspace.outputDirectory outDir)
  let frames := session.host.presentations calls
  saveAll outDir frames
  ExceptT.lift (reportAll (summary (session.run calls) frames.length outDir))

/-- The end of a replay: the messages, unless a frame could not be written. -/
def conclude (outDir : String) (replayed : m ((Except Fault Unit × Session) × Nat)) :
    ExceptT Fault m Unit := do
  let ((result, session), written) ← ExceptT.lift replayed
  result
  ExceptT.lift (reportAll (summary session written outDir))

variable {outDir : String} {stage : Stage Recorder} {o : Outcome}

theorem run_writePresented_of_none (h : redrawn? o.result = none) (written : Nat) :
    (writePresented outDir stage o : StateT Nat m _).run written = pure (.ok (), written) := by
  unfold writePresented
  split
  · next heq =>
    rw [heq] at h
    cases h
  · rfl

variable [LawfulMonad m]

theorem mk_image (path : String) (r : Raster) :
    (ExceptT.mk (Workspace.image path r) : ExceptT Fault m Unit) = saveImage path r.straight := by
  have hstraight : r.readback.toStraight = r.straight := r.toStraight_readback
  refine ExceptT.ext ?_
  rw [ExceptT.run_mk, Workspace.image, hstraight, saveImage, ExceptT.run_bind, ExceptT.run_lift,
    bind_map_left]
  refine bind_congr fun written => ?_
  cases written <;> rfl

theorem run_writePresented {p : Presentation} (h : stage.presented? o.result = some p)
    (written : Nat) :
    (writePresented outDir stage o : StateT Nat m _).run written = (do
      match ← Workspace.image (path outDir p) p.raster with
      | .ok () => return (.ok (), written + 1)
      | .error fault => return (.error fault, written)) := by
  obtain ⟨hresult, hraster⟩ := Stage.presented?_eq_some.mp h
  obtain ⟨c, hcanvas, hc⟩ := Stage.canvas_of_raster hraster
  simp only [writePresented, hresult, hcanvas, hc, StateT.run_bind, StateT.run_lift, bind_assoc,
    pure_bind]
  refine bind_congr fun saved => ?_
  rcases saved with fault | ⟨⟩
  · rfl
  · simp

theorem run_conclude (replayed : m ((Except Fault Unit × Session) × Nat)) :
    (conclude outDir replayed).run = (do
      let ((result, session), written) ← replayed
      match result with
      | .ok () => (ExceptT.lift (reportAll (summary session written outDir))).run
      | .error fault => return .error fault) := by
  simp only [conclude, ExceptT.run_bind, ExceptT.run_lift, bind_map_left]
  refine bind_congr fun ((result, session), written) => ?_
  have hlift : (liftM result : ExceptT Fault m Unit).run = pure result := rfl
  rw [hlift, pure_bind]
  cases result <;> rfl

/-- **Writing between the calls is writing after them.** -/
theorem conclude_runWith {calls : List Call} {s : Session} (hs : s.host.stage.Sound)
    (written : Nat) :
    (conclude outDir ((s.runWith (writePresented outDir) calls).run written) :
        ExceptT Fault m Unit) = (do
      saveAll outDir (s.host.presentations calls)
      ExceptT.lift (reportAll (summary (s.run calls)
        (written + (s.host.presentations calls).length) outDir))) := by
  refine ExceptT.ext ?_
  induction calls generalizing s written with
  | nil =>
    simp only [run_conclude, Session.runWith, StateT.run_pure, pure_bind, saveAll,
      Host.presentations, Session.run_nil, List.length_nil, Nat.add_zero]
  | cons c rest ih =>
    have hnext := @ih (s.apply c).2 (Host.sound_after hs c)
    rw [Host.presentations, Session.run_cons, Session.runWith, run_conclude]
    rcases Host.presented_or_none hs c with ⟨p, hsome⟩ | ⟨htag, hnone⟩
    · have hwrite : ∀ n, (writePresented outDir (s.apply c).2.stage (s.apply c).1 :
          StateT Nat m _).run n = _ := run_writePresented hsome
      rw [hsome, Option.toList_some, List.singleton_append, saveAll, ← mk_image]
      simp only [StateT.run_bind, hwrite, bind_assoc, ExceptT.run_bind, ExceptT.run_mk]
      refine bind_congr fun saved => ?_
      rcases saved with fault | ⟨⟩
      · simp only [pure_bind, StateT.run_pure]
      · simp only [pure_bind]
        rw [← run_conclude, hnext, ExceptT.run_bind, List.length_cons, Nat.add_assoc,
          Nat.add_comm 1]
        rfl
    · have hwrite : ∀ n, (writePresented outDir (s.apply c).2.stage (s.apply c).1 :
          StateT Nat m _).run n = _ := run_writePresented_of_none htag
      rw [hnone, Option.toList_none, List.nil_append]
      simp only [StateT.run_bind, hwrite, pure_bind]
      rw [← run_conclude]
      exact hnext written

end Effects

/-! ## The record of the files -/

section Record

variable {W : Type} [Workspace (StateM W)] {outDir : String}

theorem runOn_saveImage (path : String) (image : Frame) (w : W) :
    Attempt.runOn (saveImage path image) w =
      let (written, w') := (Workspace.writeImage path image : StateM W Bool).run w
      (if written then .ok () else .error (.mishap (.file .writeImage path)), w') := by
  rw [saveImage, Attempt.runOn_bind, Attempt.runOn_lift]
  rcases (Workspace.writeImage path image : StateM W Bool).run w with ⟨_ | _, w'⟩ <;> rfl

/-- What one write adds to a record: the file, or the path if it could not be written. -/
theorem saveImage_journal (path : String) (image : Frame) (j : Journal W) :
    ∃ w, Attempt.runOn (saveImage path image) j =
        (.ok (), { j with world := w, files := j.files ++ [(path, image)] }) ∨
      Attempt.runOn (saveImage path image) j =
        (.error (.mishap (.file .writeImage path)),
          { j with world := w, refused := j.refused ++ [path] }) := by
  rw [runOn_saveImage, Journal.run_writeImage]
  rcases (Workspace.writeImage path image : StateM W Bool).run j.world with ⟨_ | _, w⟩
  · exact ⟨w, .inr rfl⟩
  · exact ⟨w, .inl rfl⟩

theorem follows_saveImage (path : String) (image : Frame) :
    Journal.Follows (saveImage path image : Attempt (Journal W) Unit) (saveImage path image) := by
  intro j
  rw [runOn_saveImage, runOn_saveImage, Journal.run_writeImage]
  rcases (Workspace.writeImage path image : StateM W Bool).run j.world with ⟨_ | _, w⟩ <;> rfl

/-- **The files of a list of frames.** Each has its file, or the first that could not be written ends
the record. -/
theorem saveAll_journal (outDir : String) (frames : List Presentation) (j : Journal W) :
    ∃ w, Attempt.runOn (saveAll outDir frames) j =
        (.ok (), { j with
          world := w
          files := j.files ++ frames.map (file outDir) }) ∨
      ∃ written p rest, frames = written ++ p :: rest ∧
        Attempt.runOn (saveAll outDir frames) j =
          (.error (.mishap (.file .writeImage (path outDir p))), { j with
            world := w
            files := j.files ++ written.map (file outDir)
            refused := j.refused ++ [path outDir p] }) := by
  induction frames generalizing j with
  | nil =>
    refine ⟨j.world, .inl ?_⟩
    rw [saveAll, Attempt.runOn_pure, List.map_nil, List.append_nil]
  | cons p rest ih =>
    obtain ⟨w, hsaved | hrefused⟩ := saveImage_journal (file outDir p).1 (file outDir p).2 j
    · obtain ⟨w', hall | ⟨written, q, rest', hsplit, hstop⟩⟩ :=
        ih { j with world := w, files := j.files ++ [file outDir p] }
      · refine ⟨w', .inl ((Attempt.runOn_bind_of_ok hsaved).trans (hall.trans ?_))⟩
        rw [List.append_assoc, List.map_cons, List.singleton_append]
      · refine ⟨w', .inr ⟨p :: written, q, rest', by rw [hsplit, List.cons_append],
          (Attempt.runOn_bind_of_ok hsaved).trans (hstop.trans ?_)⟩⟩
        rw [List.append_assoc, List.map_cons, List.singleton_append]
    · refine ⟨w, .inr ⟨[], p, rest, rfl, (Attempt.runOn_bind_of_error hrefused).trans ?_⟩⟩
      rw [List.map_nil, List.append_nil]
      rfl

theorem follows_saveAll (outDir : String) (frames : List Presentation) :
    Journal.Follows (saveAll outDir frames : Attempt (Journal W) Unit) (saveAll outDir frames) := by
  induction frames with
  | nil => exact fun _ => rfl
  | cons p rest ih => exact (follows_saveImage _ _).bind fun _ => ih

theorem reportAll_journal (lines : List String) (j : Journal W) :
    ∃ w, Attempt.runOn (ExceptT.lift (reportAll lines)) j =
      (.ok (), { j with world := w, messages := j.messages ++ lines }) := by
  induction lines generalizing j with
  | nil => exact ⟨j.world, by rw [List.append_nil]; rfl⟩
  | cons line rest ih =>
    obtain ⟨w, hrest⟩ := ih ((Workspace.report line : StateM (Journal W) Unit).run j).2
    refine ⟨w, hrest.trans ?_⟩
    rw [Journal.run_report, List.append_assoc, List.singleton_append]

theorem follows_reportAll (lines : List String) :
    Journal.Follows (ExceptT.lift (reportAll lines) : Attempt (Journal W) Unit)
      (ExceptT.lift (reportAll lines)) := by
  induction lines with
  | nil => exact fun _ => rfl
  | cons line rest ih => exact fun j => ih ((Workspace.report line : StateM (Journal W) Unit).run j).2

theorem follows_saveRun (outDir : String) (session : Session) (calls : List Call) :
    Journal.Follows (saveRun outDir session calls : Attempt (Journal W) Unit)
      (saveRun outDir session calls) :=
  (Journal.follows_outputDirectory outDir).bind fun _ =>
    (follows_saveAll outDir _).bind fun _ => follows_reportAll _

end Record

/-! ## The commands on a world -/

section World

variable {W : Type} [Workspace (StateM W)] {source : Source} {env : String → Option String}
  {w w₀ : W} {script : Script} {session : Session}

/-- A session that was loaded is a new one. -/
theorem start_of_load
    (hload : Attempt.runOn (source.load env) w = (.ok (script, session), w₀)) :
    ∃ settings, session = ⟨.start settings {}, []⟩ := by
  rw [Source.load] at hload
  obtain ⟨script', w₁, -, hload⟩ := Attempt.exists_of_runOn_bind hload
  obtain ⟨fallback, w₂, -, hload⟩ := Attempt.exists_of_runOn_bind hload
  obtain ⟨session', w₃, hstart, hload⟩ := Attempt.exists_of_runOn_bind hload
  cases hload
  rw [Attempt.runOn_liftM] at hstart
  obtain ⟨hstart, -⟩ := Prod.mk.inj hstart
  -- settings that are not valid start no session
  refine ⟨script.settings.getD fallback, ?_⟩
  rw [Session.forScript, Session.start] at hstart
  cases hvalid : (script.settings.getD fallback).validate with
  | error fault =>
    rw [hvalid] at hstart
    cases hstart
  | ok _ =>
    rw [hvalid] at hstart
    exact (Except.ok.inj hstart).symm

/-- **A replay is a run, and then its files.** -/
theorem replay_of_load (outDir : String)
    (hload : Attempt.runOn (source.load env) w = (.ok (script, session), w₀)) :
    Attempt.runOn (replay source outDir env) w =
      Attempt.runOn (saveRun outDir session script.calls) w₀ := by
  obtain ⟨settings, hsession⟩ := start_of_load hload
  have hs : session.host.stage.Sound := by
    rw [hsession]
    exact Stage.sound_start settings _
  have hend := @conclude_runWith (StateM W) _ _ outDir _ script.calls session hs 0
  rw [Nat.zero_add] at hend
  rw [saveRun, ← hend, replay, Attempt.runOn_bind_of_ok hload]
  rfl

/-- A script that loads does so under a journal, and leaves no record. -/
theorem load_new (hload : Attempt.runOn (source.load env) w = (.ok (script, session), w₀)) :
    Attempt.runOn (source.load env) (Journal.new w) = (.ok (script, session), Journal.new w₀) := by
  have hworld : (Journal.new w).world = w := rfl
  rw [Journal.load_journal, Journal.runOn_watchAttempt, hworld, hload]
  rfl

/-- What the record of a replay is: all files and the messages about them, or the files up to the
first that could not be written, or nothing for want of a directory. -/
theorem saveRun_journal (outDir : String) (session : Session) (calls : List Call) (w : W) :
    let frames := session.host.presentations calls
    let done := Attempt.runOn (saveRun outDir session calls) (Journal.new w)
    (∃ w', done = (.ok (), ⟨w', frames.map (file outDir), [],
        summary (session.run calls) frames.length outDir⟩)) ∨
      (∃ w' written p rest, frames = written ++ p :: rest ∧
        done = (.error (.mishap (.file .writeImage (path outDir p))),
          ⟨w', written.map (file outDir), [path outDir p], []⟩)) ∨
      ∃ w' fault, (Attempt.runOn (ExceptT.mk (Workspace.outputDirectory outDir)) w).1 = .error fault ∧
        done = (.error fault, .new w') := by
  intro frames done
  obtain ⟨w₁, hdir⟩ := Journal.runOn_outputDirectory outDir w
  cases hopen : (Attempt.runOn (ExceptT.mk (Workspace.outputDirectory outDir)) w).1 with
  | error fault =>
    rw [hopen] at hdir
    exact .inr (.inr ⟨w₁, fault, rfl, Attempt.runOn_bind_of_error hdir⟩)
  | ok _ =>
    rw [hopen] at hdir
    have hdone := Attempt.runOn_bind_of_ok hdir (f := fun _ => do
      saveAll outDir frames
      ExceptT.lift (reportAll (summary (session.run calls) frames.length outDir)))
    obtain ⟨w₂, hall | ⟨written, p, rest, hsplit, hstop⟩⟩ := saveAll_journal outDir frames (.new w₁)
    · obtain ⟨w₃, hreport⟩ := reportAll_journal (summary (session.run calls) frames.length outDir)
        { Journal.new w₁ with
          world := w₂
          files := [] ++ frames.map (file outDir) }
      exact .inl ⟨w₃, (hdone.trans (Attempt.runOn_bind_of_ok hall)).trans hreport⟩
    · exact .inr (.inl
        ⟨w₂, written, p, rest, hsplit, hdone.trans (Attempt.runOn_bind_of_error hstop)⟩)

theorem follows_replay (outDir : String)
    (hload : Attempt.runOn (source.load env) w = (.ok (script, session), w₀)) :
    ((Attempt.runOn (replay source outDir env) (Journal.new w)).1,
        (Attempt.runOn (replay source outDir env) (Journal.new w)).2.world) =
      Attempt.runOn (replay source outDir env) w := by
  rw [replay_of_load outDir hload, replay_of_load outDir (load_new hload)]
  exact follows_saveRun outDir session script.calls (.new w₀)

/-- The canvases and numbers of the frames that outcomes tell of, the first one first. -/
def redraws (outcomes : List Outcome) : List (Ident × UInt64) :=
  (outcomes.map Outcome.result).filterMap redrawn?

/-- The numbers of the frames of one canvas among them. -/
def frameNumbers (canvas : Ident) (outcomes : List Outcome) : List UInt64 :=
  ((redraws outcomes).filter (·.1 = canvas)).map (·.2)

/-- The frames of a replay are those that its outcomes tell of. -/
theorem redraws_of_load
    (hload : Attempt.runOn (source.load env) w = (.ok (script, session), w₀)) :
    redraws (session.run script.calls).outcomes =
      (session.host.presentations script.calls).map fun p => (p.canvas, p.frame) := by
  obtain ⟨settings, rfl⟩ := start_of_load hload
  rw [redraws, Session.results_run, List.map_nil, List.nil_append]
  exact (Host.tags_presentations settings _ script.calls).symm

/-- The last message of a replay. -/
theorem getLast?_summary {session : Session} {calls : Nat} (h : session.outcomes.length = calls)
    (written : Nat) (outDir : String) :
    let failed := (session.outcomes.filter Outcome.isFailure).length
    (summary session written outDir).getLast? =
      some s!"replayed {calls} calls ({failed} failed), wrote {written} frames to {outDir}" := by
  rw [← h]
  exact List.getLast?_concat

theorem length_outcomes_of_load
    (hload : Attempt.runOn (source.load env) w = (.ok (script, session), w₀)) :
    (session.run script.calls).outcomes.length = script.calls.length := by
  obtain ⟨settings, rfl⟩ := start_of_load hload
  rw [Session.length_outcomes_run, List.length_nil, Nat.zero_add]

/-- **Every frame is written, and none over another.** Take a world in which a script can be loaded,
and a script that creates fewer than `2 ^ 32` canvases, as many as there are ids. For each canvas, the
replies that tell of its frames have the numbers from one, in the order of the outcomes, whatever came
between them. The frames that the run presents are those that its outcomes tell of, and all their
names and places are different.

The record of a replay has one file for each of these frames, in their order and each at its own
place, so there are as many files as such outcomes, and that is the number in the last message. What
a file holds is the raster of the canvas right after the redraw that presented the frame, in the
extent that the canvas was created with, and with straight alpha. The world can keep a replay from
that in two ways only: there is no directory for the files, or a file cannot be written, and then the
frames before it have theirs. -/
theorem every_frame_written
    (hload : Attempt.runOn (source.load env) w = (.ok (script, session), w₀))
    (hfew : (session.host.history script.calls).countP (Entry.creates .canvas) < 2 ^ 32)
    (hlength : script.calls.length < 2 ^ 64) (outDir : String) :
    let frames := session.host.presentations script.calls
    let outcomes := (session.run script.calls).outcomes
    let done := Attempt.runOn (replay source outDir env) (Journal.new w)
    let calls := script.calls.length
    let failed := (outcomes.filter Outcome.isFailure).length
    let count := done.2.files.length
    (∀ canvas, (frameNumbers canvas outcomes).map UInt64.toNat =
      List.range' 1 (frameNumbers canvas outcomes).length) ∧
    redraws outcomes = frames.map (fun p => (p.canvas, p.frame)) ∧
    (frames.map fun p => frameName p.canvas p.frame).Nodup ∧
    (frames.map (path outDir)).Nodup ∧
    (done.1, done.2.world) = Attempt.runOn (replay source outDir env) w ∧
    ((done.1 = .ok () ∧ done.2.refused = [] ∧
        done.2.files = frames.map (file outDir) ∧
        done.2.files.length = (redraws outcomes).length ∧
        done.2.messages.getLast? =
          some s!"replayed {calls} calls ({failed} failed), wrote {count} frames to {outDir}") ∨
      (∃ written p rest, frames = written ++ p :: rest ∧
        done.1 = .error (.mishap (.file .writeImage (path outDir p))) ∧
        done.2.refused = [path outDir p] ∧
        done.2.files = written.map (file outDir)) ∨
      ∃ fault, (Attempt.runOn (ExceptT.mk (Workspace.outputDirectory outDir)) w₀).1 = .error fault ∧
        done.1 = .error fault ∧ done.2.refused = [] ∧ done.2.files = []) ∧
    ∀ p ∈ frames, ∃ earlier later, script.calls = earlier ++ .canvasRedraw p.canvas :: later ∧
      (session.host.run earlier).answer (.canvasRedraw p.canvas) =
        .ok (.redrawn p.canvas p.frame) ∧
      ((session.host.run earlier).after (.canvasRedraw p.canvas)).stage.raster? p.canvas =
        some p.raster ∧
      p.raster.extent.RequestedFor p.canvas (session.host.history earlier) := by
  intro frames outcomes done calls failed count
  have hredraws := redraws_of_load hload
  have hdone : done = Attempt.runOn (saveRun outDir session script.calls) (Journal.new w₀) :=
    replay_of_load outDir (load_new hload)
  have hworld : (done.1, done.2.world) = _ := follows_replay outDir hload
  have hrecord := saveRun_journal outDir session script.calls w₀
  have hcalls : outcomes.length = script.calls.length := length_outcomes_of_load hload
  clear_value done
  obtain ⟨settings, rfl⟩ := start_of_load hload
  have hnames : (frames.map fun p => frameName p.canvas p.frame).Nodup := by
    refine List.pairwise_map.mpr ((List.pairwise_map.mp (Host.nodup_tags hfew hlength)).imp ?_)
    intro p q hne hname
    obtain ⟨hcanvas, hframe⟩ := frameName_inj hname
    exact hne (Prod.ext hcanvas hframe)
  refine ⟨?_, hredraws, hnames, ?_, hworld, ?_, ?_⟩
  · intro canvas
    have hnumbers : frameNumbers canvas outcomes =
        (frames.filter (·.canvas = canvas)).map (·.frame) := by
      rw [frameNumbers, hredraws, List.filter_map, List.map_map]
      rfl
    rw [hnumbers, List.map_map, List.length_map]
    exact (Host.numbers_run hfew hlength canvas).1
  · exact List.pairwise_map.mpr
      ((List.pairwise_map.mp hnames).imp fun hne heq => hne (path_inj heq))
  · rcases hrecord with ⟨w', hall⟩ | ⟨w', written, p, rest, hsplit, hstop⟩ | ⟨w', fault, hdir, hnone⟩
    · obtain rfl := hdone.trans hall
      have hcount : count = frames.length := List.length_map ..
      refine .inl ⟨rfl, rfl, rfl, ?_, ?_⟩
      · rw [hredraws, List.length_map, List.length_map]
      · rw [hcount]
        exact getLast?_summary hcalls frames.length outDir
    · obtain rfl := hdone.trans hstop
      exact .inr (.inl ⟨written, p, rest, hsplit, rfl, rfl, rfl⟩)
    · obtain rfl := hdone.trans hnone
      exact .inr (.inr ⟨fault, hdir, rfl, rfl, rfl⟩)
  · intro p hp
    obtain ⟨earlier, later, hcalls, hanswer, hraster⟩ :=
      Host.exists_of_mem_presentations settings _ script.calls hp
    exact ⟨earlier, later, hcalls, hanswer, hraster,
      Host.requestedFor_redrawn settings _ earlier hraster⟩

end World

/-! ## Two frames -/

section Written

variable {script : Script} {settings : Settings}

/-- A script with settings is valid only under valid settings, and starts a session under them. -/
theorem forScript_of_settings (hvalid : script.validate = .ok ())
    (hsettings : script.settings = some settings) (fallback : Settings) :
    Session.forScript script fallback = .ok ⟨.start settings {}, []⟩ := by
  have hown : settings.validate = .ok () := by
    rw [Script.validate, hsettings] at hvalid
    split at hvalid
    · cases hvalid
    · exact hvalid
  rw [Session.forScript, hsettings, Option.getD_some, Session.start, hown]
  rfl

/-- The text that is written for a valid script is loaded as that script. -/
theorem load_toText (hvalid : script.validate = .ok ()) :
    Script.load script.toJson.toText = .ok script := by
  have hparse : Script.parse script.toJson.toText = .ok script := by
    rw [← Script.toJsonWith_numerals]
    exact script.parse_toJsonWith script.spelling_numerals
  rw [Script.load, hparse, Attempt.ok_bind, hvalid]
  rfl

/-- A valid script that stands in a file of a workspace in memory is loaded from there. -/
theorem load_of_written {w : Scratch} {path : String}
    (hfile : w.read? path = some script.toJson.toText.toUTF8)
    (hvalid : script.validate = .ok ()) (hsettings : script.settings = some settings)
    (env : String → Option String) :
    Attempt.runOn (Source.load ⟨path, none⟩ env) w =
      (.ok (script, ⟨.start settings {}, []⟩), w) := by
  have hdecode : String.fromUTF8? script.toJson.toText.toUTF8 = some script.toJson.toText :=
    dif_pos script.toJson.toText.isValidUTF8
  have hread : (Workspace.readText path : StateM Scratch (Option String)).run w =
      (some script.toJson.toText, w) := by
    show ((w.read? path).bind String.fromUTF8?, w) = _
    rw [hfile, Option.bind_some, hdecode]
  have hscript : Attempt.runOn (ExceptT.mk (Workspace.script path)) w = (.ok script, w) := by
    rw [Attempt.runOn, ExceptT.run_mk, Workspace.script, Workspace.text]
    simp only [bind_pure_comp, StateT.run_map, hread]
    exact congrArg (·, w) (load_toText hvalid)
  rw [Source.load, Attempt.runOn_bind_of_ok hscript]
  simp only [Source.fallback, Attempt.runOn_bind, Attempt.runOn_pure, Attempt.runOn_liftM,
    forScript_of_settings hvalid hsettings]

end Written

/-- Two frames of one canvas, with a redraw of another one between them, which is created only at the
end. The background is half transparent, and between the frames the left one of two points turns red. -/
def twoFrames : Script where
  settings := some { clear := ⟨0x80FF4000⟩ }
  calls := [.createCanvas 2 1, .canvasRedraw 1, .createBitmap 1 1, .modifyBitmap 1 0 0 ⟨0xFFFF0000⟩,
    .canvasAddBitmap 1 1, .canvasRedraw 2, .canvasRedraw 1, .createCanvas 1 1]

/-- The script with two frames in a file. -/
def twoFramesFiles : Scratch where
  nodes := [([['s']], .file twoFrames.toJson.toText.toUTF8)]
  here := []
  reports := []

/-- The session in which the script with two frames is replayed. -/
def twoFramesSession : Session := ⟨.start { clear := ⟨0x80FF4000⟩ } {}, []⟩

theorem load_twoFrames :
    Attempt.runOn (Source.load ⟨"s", none⟩ fun _ => none) twoFramesFiles =
      (.ok (twoFrames, twoFramesSession), twoFramesFiles) :=
  load_of_written (by rfl) (by rfl) (by rfl) _

/-- The redraw that fails has no file, and the files of the two others hold their frames. -/
theorem two_frames_written :
    let frames := twoFramesSession.host.presentations twoFrames.calls
    let done := Attempt.runOn (replay ⟨"s", none⟩ "out" fun _ => none) (Journal.new twoFramesFiles)
    (frames.map fun p => frameName p.canvas p.frame).Nodup ∧
      done.2.files = frames.map (file "out") ∧
      done.2.world.images =
        [(["out".toList, "canvas-1-frame-1.png".toList],
          ⟨2, 1, #[255, 64, 0, 128, 255, 64, 0, 128], false⟩),
        (["out".toList, "canvas-1-frame-2.png".toList],
          ⟨2, 1, #[255, 0, 0, 255, 255, 64, 0, 128], false⟩)] ∧
      done.2.messages.getLast? = some "replayed 8 calls (1 failed), wrote 2 frames to out" := by
  intro frames done
  have hvalue : done = Attempt.runOn (replay ⟨"s", none⟩ "out" fun _ => none)
      (Journal.new twoFramesFiles) := rfl
  have hdone : done = Attempt.runOn (saveRun "out" twoFramesSession twoFrames.calls)
      (Journal.new twoFramesFiles) := replay_of_load "out" (load_new load_twoFrames)
  obtain ⟨-, -, hnodup, -, -, hrecord, -⟩ :=
    every_frame_written load_twoFrames (by decide +kernel) (by decide) "out"
  rw [← hvalue] at hrecord
  clear_value done
  have hok : done.1.isOk = true := by
    rw [hdone]
    decide +kernel
  refine ⟨hnodup, ?_, ?_, ?_⟩
  · rcases hrecord with ⟨-, -, hfiles, -⟩ | ⟨_, p, _, -, hfault, -⟩ | ⟨_, -, hfault, -⟩
    · exact hfiles
    · cases hok.symm.trans (congrArg Except.isOk hfault)
    · cases hok.symm.trans (congrArg Except.isOk hfault)
  · rw [hdone]
    decide +kernel
  · rw [hdone]
    decide +kernel

end CommandLine

end SpriteStage
