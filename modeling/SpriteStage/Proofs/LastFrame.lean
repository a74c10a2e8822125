/-
The last frame of a canvas.

The one command writes every frame when it is presented, the other looks at a canvas once, when the
run is over. Between its last redraw and that moment any number of calls may have been carried out.
That both commands agree rests on what a raster is: no call but a redraw of the same canvas changes
it (`Host.raster?_after`), so at the end it is the raster of the frame with the highest number
(`Host.raster?_of_highest`). A canvas that never presented a frame still counts zero, and that is
what the second command refuses to write.

Both commands are compared by the files in their records. The files of the first are its frames
(`files_of_load`), and the file of the second is written apart from any replay (`saveFrame_journal`).
-/
import SpriteStage.Proofs.Replay

set_option autoImplicit false

namespace SpriteStage

namespace Host

theorem mem_filter_canvas {frames : List Presentation} {p : Presentation} {canvas : Ident} :
    p ∈ frames.filter (·.canvas = canvas) ↔ p ∈ frames ∧ p.canvas = canvas := by
  rw [List.mem_filter, decide_eq_true_iff]

variable {σ : Type} [EventSink σ] {settings : Settings} {sink : σ} {calls : List Call}
  {canvas : Ident} {p : Presentation} {r : Raster}

variable (settings sink calls canvas) in
/-- A canvas has a raster exactly if it was created. -/
theorem raster?_eq_none_iff :
    ((start settings sink).run calls).stage.raster? canvas = none ↔
      ¬ ∃ e ∈ (start settings sink).history calls, e.created? = some (.canvas, canvas) := by
  rw [← live_iff_created (.inl rfl), ← has_run_iff settings sink calls, ← Stage.isSome_raster?,
    Option.not_isSome_iff_eq_none]

variable (hfew : ((start settings sink).history calls).countP (Entry.creates .canvas) < 2 ^ 32)
  (hlength : calls.length < 2 ^ 64)

include hfew

theorem exists_raster_of_mem (hp : p ∈ (start settings sink).presentations calls) :
    ∃ r, ((start settings sink).run calls).stage.raster? p.canvas = some r :=
  (film_run hfew p.canvas).exists_raster (mem_filter_canvas.mpr ⟨hp, rfl⟩)

include hlength

/-- The raster of a canvas counts no frame exactly if none was presented. -/
theorem frame_eq_zero_iff
    (hraster : ((start settings sink).run calls).stage.raster? canvas = some r) :
    r.frame = 0 ↔ ∀ p ∈ (start settings sink).presentations calls, p.canvas ≠ canvas := by
  have hcount := (numbers_run hfew hlength canvas).2 r hraster
  rw [← UInt64.toNat_inj, UInt64.toNat_zero, hcount, List.length_eq_zero_iff,
    List.filter_eq_nil_iff]
  simp only [decide_eq_true_eq, ne_eq]

/-- At the end of a run, a canvas shows its frame with the highest number. -/
theorem raster?_of_highest (hp : p ∈ (start settings sink).presentations calls)
    (hmax : ∀ q ∈ (start settings sink).presentations calls, q.canvas = p.canvas →
      q.frame ≤ p.frame) :
    ((start settings sink).run calls).stage.raster? p.canvas = some p.raster := by
  refine (film_run hfew p.canvas).raster_of_max (length_film hlength p.canvas)
    (mem_filter_canvas.mpr ⟨hp, rfl⟩) ?_
  intro q hq
  obtain ⟨hq, hcanvas⟩ := mem_filter_canvas.mp hq
  exact hmax q hq hcanvas

end Host

namespace CommandLine

/-! ## The other command -/

/-- Writes an image and says so. -/
def saveAndTell {m : Type → Type} [Monad m] [Workspace m] (out : String) (image : Frame) :
    ExceptT Fault m Unit := do
  saveImage out image
  ExceptT.lift (Workspace.report s!"wrote {out}")

/-- Writes an image to a place, with the directory that it lies in. -/
def saveFrame {m : Type → Type} [Monad m] [Workspace m] (out : String) (image : Frame) :
    ExceptT Fault m Unit := do
  if let some parent := Path.parent? out then
    ExceptT.mk (Workspace.outputDirectory parent)
  saveAndTell out image

variable {W : Type} [Workspace (StateM W)] {source : Source} {env : String → Option String}
  {w w₀ : W} {script : Script} {session : Session} {canvas : Ident} {out : String}

theorem frame_of_raster
    (hload : Attempt.runOn (source.load env) w = (.ok (script, session), w₀)) {r : Raster}
    (hraster : (session.host.run script.calls).stage.raster? canvas = some r) :
    Attempt.runOn (frame source canvas out env) w =
      if r.frame = 0 then (.error (.mishap (.neverRedrawn canvas)), w₀)
      else Attempt.runOn (saveFrame out r.straight) w₀ := by
  rw [← Session.host_run] at hraster
  obtain ⟨c, hcanvas, rfl⟩ := Stage.canvas_of_raster hraster
  rw [frame, Attempt.runOn_bind_of_ok hload]
  have hlook : Attempt.runOn (liftM ((session.run script.calls).stage.canvas canvas)) w₀ =
      (.ok c, w₀) := by
    rw [Attempt.runOn_liftM]
    exact Prod.ext hcanvas rfl
  rw [Attempt.runOn_bind_of_ok hlook]
  by_cases hzero : c.raster.frame = 0
  · rw [if_pos hzero, if_pos hzero]
    rfl
  · rw [if_neg hzero, if_neg hzero]
    exact congrArg (fun write : ExceptT Fault (StateM W) Unit => Attempt.runOn (do
      if let some parent := Path.parent? out then
        ExceptT.mk (Workspace.outputDirectory parent)
      write
      ExceptT.lift (Workspace.report s!"wrote {out}")) w₀) (mk_image out c.raster)

theorem frame_of_no_raster
    (hload : Attempt.runOn (source.load env) w = (.ok (script, session), w₀))
    (hraster : (session.host.run script.calls).stage.raster? canvas = none) :
    Attempt.runOn (frame source canvas out env) w = (.error (.notFound .canvas canvas), w₀) := by
  rw [← Session.host_run] at hraster
  have hcanvas : (session.run script.calls).stage.canvas canvas =
      .error (.notFound .canvas canvas) := by
    rw [Stage.canvas, Session.stage, Option.map_eq_none_iff.mp hraster]
  rw [frame, Attempt.runOn_bind_of_ok hload]
  simp [hcanvas]

/-- A command that looks at a canvas fails, or writes the image of its raster and nothing else. -/
theorem saveFrame_journal (out : String) (image : Frame) (w : W)
    (hparent : ∀ parent, Path.parent? out = some parent →
      (Attempt.runOn (ExceptT.mk (Workspace.outputDirectory parent)) w).1 = .ok ()) :
    ∃ w', Attempt.runOn (saveFrame out image) (Journal.new w) =
        (.ok (), ⟨w', [(out, image)], [], [s!"wrote {out}"]⟩) ∨
      Attempt.runOn (saveFrame out image) (Journal.new w) =
        (.error (.mishap (.file .writeImage out)), ⟨w', [], [out], []⟩) := by
  have hwrite : ∀ w₁ : W, ∃ w', Attempt.runOn (saveAndTell out image) (Journal.new w₁) =
        (.ok (), ⟨w', [(out, image)], [], [s!"wrote {out}"]⟩) ∨
      Attempt.runOn (saveAndTell out image) (Journal.new w₁) =
        (.error (.mishap (.file .writeImage out)), ⟨w', [], [out], []⟩) := by
    intro w₁
    obtain ⟨w₂, hsaved | hrefused⟩ := saveImage_journal out image (.new w₁)
    · exact ⟨_, .inl (Attempt.runOn_bind_of_ok hsaved)⟩
    · exact ⟨w₂, .inr (Attempt.runOn_bind_of_error hrefused)⟩
  rw [saveFrame]
  split
  · next parent hsome =>
    obtain ⟨w₁, hdir⟩ := Journal.runOn_outputDirectory parent w
    rw [hparent parent hsome] at hdir
    rw [Attempt.runOn_bind_of_ok hdir]
    exact hwrite w₁
  · exact hwrite w

theorem follows_saveFrame (out : String) (image : Frame) :
    Journal.Follows (saveFrame out image : Attempt (Journal W) Unit) (saveFrame out image) := by
  have htell : Journal.Follows (saveAndTell out image : Attempt (Journal W) Unit)
      (saveAndTell out image) := (follows_saveImage out image).bind fun _ => fun _ => rfl
  rw [saveFrame, saveFrame]
  split
  · exact (Journal.follows_outputDirectory _).bind fun _ => htell
  · exact htell

theorem follows_frame (hload : Attempt.runOn (source.load env) w = (.ok (script, session), w₀)) :
    ((Attempt.runOn (frame source canvas out env) (Journal.new w)).1,
        (Attempt.runOn (frame source canvas out env) (Journal.new w)).2.world) =
      Attempt.runOn (frame source canvas out env) w := by
  cases hraster : (session.host.run script.calls).stage.raster? canvas with
  | none => rw [frame_of_no_raster hload hraster, frame_of_no_raster (load_new hload) hraster]; rfl
  | some r =>
    rw [frame_of_raster hload hraster, frame_of_raster (load_new hload) hraster]
    split
    · rfl
    · exact follows_saveFrame out r.straight (.new w₀)

/-- The record of a replay that nothing keeps from writing: the files of all frames. -/
theorem files_of_load
    (hload : Attempt.runOn (source.load env) w = (.ok (script, session), w₀)) {outDir : String}
    (hdir : (Attempt.runOn (ExceptT.mk (Workspace.outputDirectory outDir)) w₀).1 = .ok ())
    (hall : (Attempt.runOn (replay source outDir env) (Journal.new w)).2.refused = []) :
    (Attempt.runOn (replay source outDir env) (Journal.new w)).2.files =
      (session.host.presentations script.calls).map (file outDir) := by
  rw [replay_of_load outDir (load_new hload)] at hall ⊢
  rcases saveRun_journal outDir session script.calls w₀ with
    ⟨w', hsaved⟩ | ⟨w', written, p, rest, -, hstop⟩ | ⟨w', fault, hfault, -⟩
  · rw [hsaved]
  · rw [hstop] at hall
    cases hall
  · cases hdir.symm.trans hfault

/-- The files of one canvas are the files of its frames. -/
theorem mem_files_iff {frames : List Presentation} {outDir : String} {n : UInt64} {image : Frame} :
    (Path.join outDir (frameName canvas n), image) ∈ frames.map (file outDir) ↔
      ∃ p ∈ frames, p.canvas = canvas ∧ p.frame = n ∧ p.raster.straight = image := by
  rw [List.mem_map]
  constructor
  · rintro ⟨p, hp, heq⟩
    obtain ⟨hpath, himage⟩ := Prod.mk.inj heq
    obtain ⟨hcanvas, hframe⟩ := frameName_inj (path_inj (q := ⟨canvas, n, p.raster⟩) hpath)
    exact ⟨p, hp, hcanvas, hframe, himage⟩
  · rintro ⟨p, hp, rfl, rfl, rfl⟩
    exact ⟨p, hp, rfl⟩

variable (out) in
/-- Without a frame of the canvas there is nothing to write. -/
theorem frame_of_no_presentation
    (hload : Attempt.runOn (source.load env) w = (.ok (script, session), w₀))
    (hfew : (session.host.history script.calls).countP (Entry.creates .canvas) < 2 ^ 32)
    (hlength : script.calls.length < 2 ^ 64)
    (hnone : ∀ p ∈ session.host.presentations script.calls, p.canvas ≠ canvas) :
    let created := ∃ e ∈ session.host.history script.calls, e.created? = some (.canvas, canvas)
    ∃ fault, Attempt.runOn (frame source canvas out env) w = (.error fault, w₀) ∧
      (created → fault = .mishap (.neverRedrawn canvas)) ∧
      (¬ created → fault = .notFound .canvas canvas) := by
  intro created
  obtain ⟨settings, rfl⟩ := start_of_load hload
  have hcreated := Host.raster?_eq_none_iff settings ({} : Recorder) script.calls canvas
  by_cases hyes : created
  · obtain ⟨r, hraster⟩ := Option.ne_none_iff_exists'.mp (mt hcreated.mp (not_not_intro hyes))
    refine ⟨.mishap (.neverRedrawn canvas), ?_, fun _ => rfl, absurd hyes⟩
    rw [frame_of_raster hload hraster, if_pos]
    exact (Host.frame_eq_zero_iff hfew hlength hraster).mpr hnone
  · exact ⟨_, frame_of_no_raster hload (hcreated.mpr hyes), fun h => absurd h hyes, fun _ => rfl⟩

/-- A canvas with frames has a raster that is written, and it is that of the highest one. -/
theorem frame_of_presentation
    (hload : Attempt.runOn (source.load env) w = (.ok (script, session), w₀))
    (hfew : (session.host.history script.calls).countP (Entry.creates .canvas) < 2 ^ 32)
    (hlength : script.calls.length < 2 ^ 64) {p : Presentation}
    (hp : p ∈ session.host.presentations script.calls) :
    ∃ r : Raster, Attempt.runOn (frame source p.canvas out env) w =
        Attempt.runOn (saveFrame out r.straight) w₀ ∧
      ((∀ q ∈ session.host.presentations script.calls, q.canvas = p.canvas → q.frame ≤ p.frame) →
        r = p.raster) := by
  obtain ⟨settings, rfl⟩ := start_of_load hload
  obtain ⟨r, hraster⟩ := Host.exists_raster_of_mem hfew hp
  refine ⟨r, ?_, fun hmax => ?_⟩
  · rw [frame_of_raster hload hraster, if_neg]
    exact fun hzero => (Host.frame_eq_zero_iff hfew hlength hraster).mp hzero p hp rfl
  · exact Option.some.inj (hraster.symm.trans (Host.raster?_of_highest hfew hlength hp hmax))

/-- The record of the other command on a canvas with frames. -/
theorem record_of_presentation
    (hload : Attempt.runOn (source.load env) w = (.ok (script, session), w₀))
    (hfew : (session.host.history script.calls).countP (Entry.creates .canvas) < 2 ^ 32)
    (hlength : script.calls.length < 2 ^ 64)
    (hparent : ∀ parent, Path.parent? out = some parent →
      (Attempt.runOn (ExceptT.mk (Workspace.outputDirectory parent)) w₀).1 = .ok ())
    {p : Presentation} (hp : p ∈ session.host.presentations script.calls)
    (hmade : (Attempt.runOn (frame source p.canvas out env) (Journal.new w)).2.refused = []) :
    ∃ r : Raster, (Attempt.runOn (frame source p.canvas out env) (Journal.new w)).1 = .ok () ∧
      (Attempt.runOn (frame source p.canvas out env) (Journal.new w)).2.files =
        [(out, r.straight)] ∧
      ((∀ q ∈ session.host.presentations script.calls, q.canvas = p.canvas → q.frame ≤ p.frame) →
        r = p.raster) := by
  obtain ⟨r, hframe, hmax⟩ := frame_of_presentation (load_new hload) hfew hlength hp
  rw [hframe] at hmade ⊢
  refine ⟨r, ?_⟩
  obtain ⟨w', hdone | hrefused⟩ := saveFrame_journal out r.straight w₀ hparent
  · rw [hdone]
    exact ⟨rfl, rfl, hmax⟩
  · rw [hrefused] at hmade
    cases hmade

/-- **The commands agree.** Take a world in which a script can be loaded, a script that creates
fewer than `2 ^ 32` canvases, and any canvas. Let the one command replay the script and the other one
write the last frame of the canvas, and let nothing be in the way of their files: the directories are
there or can be made, and no image is refused. Then the second command succeeds exactly if the first
one has written a file for the canvas. The one file that it writes holds the picture in the file with
the highest number. If there is none it writes nothing, and fails because the canvas was never redrawn
or, if it was never created, because it is not found.

All this is because no call but a redraw of a canvas changes its raster, with its pixels, texts and
frame number, in whatever state a run has come to. -/
theorem commands_agree
    (hload : Attempt.runOn (source.load env) w = (.ok (script, session), w₀))
    (hfew : (session.host.history script.calls).countP (Entry.creates .canvas) < 2 ^ 32)
    (hlength : script.calls.length < 2 ^ 64) (canvas : Ident) (outDir out : String) :
    let replayed := Attempt.runOn (replay source outDir env) (Journal.new w)
    let framed := Attempt.runOn (frame source canvas out env) (Journal.new w)
    let Written (n : UInt64) (image : Frame) : Prop :=
      (Path.join outDir (frameName canvas n), image) ∈ replayed.2.files
    let created := ∃ e ∈ session.host.history script.calls, e.created? = some (.canvas, canvas)
    (replayed.1, replayed.2.world) = Attempt.runOn (replay source outDir env) w ∧
      (framed.1, framed.2.world) = Attempt.runOn (frame source canvas out env) w ∧
      ((Attempt.runOn (ExceptT.mk (Workspace.outputDirectory outDir)) w₀).1 = .ok () →
        (∀ parent, Path.parent? out = some parent →
          (Attempt.runOn (ExceptT.mk (Workspace.outputDirectory parent)) w₀).1 = .ok ()) →
        replayed.2.refused = [] → framed.2.refused = [] →
        (framed.1 = .ok () ↔ ∃ n image, Written n image) ∧
        (∀ n image, Written n image → (∀ n' image', Written n' image' → n' ≤ n) →
          framed.2.files = [(out, image)]) ∧
        ((∀ n image, ¬ Written n image) →
          framed.2.files = [] ∧
          (created → framed.1 = .error (.mishap (.neverRedrawn canvas))) ∧
          (¬ created → framed.1 = .error (.notFound .canvas canvas)))) ∧
      ∀ {σ : Type} [EventSink σ] (settings : Settings) (sink : σ) (calls : List Call) {c r},
        ((Host.start settings sink).history calls).countP (Entry.creates .canvas) < 2 ^ 32 →
        ((Host.start settings sink).run calls).stage.raster? canvas = some r →
        c ≠ .canvasRedraw canvas →
        (((Host.start settings sink).run calls).after c).stage.raster? canvas = some r := by
  intro replayed framed Written created
  refine ⟨follows_replay outDir hload, follows_frame hload, ?_, ?_⟩
  · intro hdir hparent hall hmade
    have hwritten : ∀ n image, Written n image ↔ _ := fun n image => by
      show _ ∈ replayed.2.files ↔ _
      rw [files_of_load hload hdir hall, mem_files_iff]
    by_cases hsome : ∃ p ∈ session.host.presentations script.calls, p.canvas = canvas
    · obtain ⟨p, hp, rfl⟩ := hsome
      have hp' : Written p.frame p.raster.straight := (hwritten _ _).mpr ⟨p, hp, rfl, rfl, rfl⟩
      obtain ⟨-, hok, -⟩ := record_of_presentation hload hfew hlength hparent hp hmade
      refine ⟨⟨fun _ => ⟨_, _, hp'⟩, fun _ => hok⟩, ?_, fun hnone => absurd hp' (hnone _ _)⟩
      intro n image h hmax
      obtain ⟨q, hq, hcanvas, rfl, rfl⟩ := (hwritten n image).mp h
      have hmax' : ∀ q' ∈ session.host.presentations script.calls, q'.canvas = q.canvas →
          q'.frame ≤ q.frame := fun q' hq' heq =>
        hmax _ _ ((hwritten _ _).mpr ⟨q', hq', heq.trans hcanvas, rfl, rfl⟩)
      obtain ⟨r, -, hfiles, hr⟩ := record_of_presentation hload hfew hlength hparent hq
        (by rw [hcanvas]; exact hmade)
      rw [hcanvas, hr hmax'] at hfiles
      exact hfiles
    · have hnone : ∀ n image, ¬ Written n image := fun n image h => by
        obtain ⟨p, hp, hcanvas, -⟩ := (hwritten n image).mp h
        exact hsome ⟨p, hp, hcanvas⟩
      obtain ⟨fault, hfault, hyes, hno⟩ := frame_of_no_presentation out (load_new hload) hfew hlength
        fun p hp hcanvas => hsome ⟨p, hp, hcanvas⟩
      have hframed : framed = _ := hfault
      rw [hframed]
      exact ⟨⟨nofun, fun ⟨n, image, h⟩ => absurd h (hnone n image)⟩,
        fun n image h => absurd h (hnone n image),
        fun _ => ⟨rfl, fun h => congrArg Except.error (hyes h), fun h => congrArg Except.error (hno h)⟩⟩
  · intro σ _ settings sink calls c r hfew hraster hcall
    exact Host.raster?_after hfew hraster hcall

/-! ## Two frames -/

theorem presented_twoFrames : ∀ p ∈ twoFramesSession.host.presentations twoFrames.calls,
    p.canvas = 1 ∧ p.frame ≤ 2 := by
  decide +kernel

/-- Nothing is in the way of a directory for the frames. -/
theorem outputDirectory_twoFrames :
    (Attempt.runOn (ExceptT.mk (Workspace.outputDirectory "out")) twoFramesFiles).1 = .ok () := by
  decide +kernel

/-- Nothing is in the way of the directory for the last frame, which is there. -/
theorem outputDirectory_last {parent : String} (hparent : Path.parent? "last.png" = some parent) :
    (Attempt.runOn (ExceptT.mk (Workspace.outputDirectory parent)) twoFramesFiles).1 = .ok () := by
  obtain rfl : "" = parent := Option.some.inj ((by decide +kernel : some "" = _).trans hparent)
  decide +kernel

/-- The second of two frames is written again, though calls come after it. Of two other canvases the
one was created and the other was not. -/
theorem second_frame_written :
    let replayed := Attempt.runOn (replay ⟨"s", none⟩ "out" fun _ => none)
      (Journal.new twoFramesFiles)
    let framed (canvas : Ident) := Attempt.runOn (frame ⟨"s", none⟩ canvas "last.png" fun _ => none)
      (Journal.new twoFramesFiles)
    let image : Frame := ⟨2, 1, #[255, 0, 0, 255, 255, 64, 0, 128], false⟩
    ("out/canvas-1-frame-2.png", image) ∈ replayed.2.files ∧
      (framed 1).1 = .ok () ∧ (framed 1).2.files = [("last.png", image)] ∧
      (framed 1).2.world.images = [(["last.png".toList], image)] ∧
      (framed 2).1 = .error (.mishap (.neverRedrawn 2)) ∧ (framed 2).2.files = [] ∧
      (framed 3).1 = .error (.notFound .canvas 3) ∧ (framed 3).2.files = [] := by
  intro replayed framed image
  have hload := load_new load_twoFrames
  have hreplayed : replayed = _ := replay_of_load "out" hload
  have hframed : ∀ canvas, framed canvas = _ := fun canvas => Attempt.runOn_bind_of_ok hload
  have hagree := fun canvas => commands_agree load_twoFrames (by decide +kernel) (by decide +kernel)
    canvas "out" "last.png"
  have hvalue : replayed = Attempt.runOn (replay ⟨"s", none⟩ "out" fun _ => none)
    (Journal.new twoFramesFiles) := rfl
  have hvalues : ∀ canvas, framed canvas = Attempt.runOn
    (frame ⟨"s", none⟩ canvas "last.png" fun _ => none) (Journal.new twoFramesFiles) := fun _ => rfl
  have hall : replayed.2.refused = [] := by
    rw [hreplayed]
    decide +kernel
  have hparent : ∀ parent, Path.parent? "last.png" = some parent → _ := fun _ =>
    outputDirectory_last
  have hfiles : replayed.2.files =
      (twoFramesSession.host.presentations twoFrames.calls).map (file "out") := by
    rw [hvalue] at hall ⊢
    exact files_of_load load_twoFrames outputDirectory_twoFrames hall
  clear_value replayed framed
  obtain ⟨-, -, hone, -⟩ := hagree 1
  obtain ⟨-, -, htwo, -⟩ := hagree 2
  obtain ⟨-, -, hthree, -⟩ := hagree 3
  rw [← hvalue, ← hvalues, hfiles] at hone htwo hthree
  simp only [mem_files_iff] at hone htwo hthree
  obtain ⟨hsucceeds, hlast, -⟩ := hone outputDirectory_twoFrames hparent hall
    (by rw [hframed]; decide +kernel)
  obtain ⟨-, -, htwo⟩ := htwo outputDirectory_twoFrames hparent hall
    (by rw [hframed]; decide +kernel)
  obtain ⟨-, -, hthree⟩ := hthree outputDirectory_twoFrames hparent hall
    (by rw [hframed]; decide +kernel)
  have hsecond : ∃ p ∈ twoFramesSession.host.presentations twoFrames.calls,
      p.canvas = 1 ∧ p.frame = 2 ∧ p.raster.straight = image := by decide +kernel
  have hhighest : ∀ n picture, (∃ p ∈ twoFramesSession.host.presentations twoFrames.calls,
      p.canvas = 1 ∧ p.frame = n ∧ p.raster.straight = picture) → n ≤ 2 := by
    rintro _ _ ⟨p, hp, -, rfl, -⟩
    exact (presented_twoFrames p hp).2
  have hnone : ∀ canvas ≠ (1 : Ident), ∀ n picture,
      ¬ ∃ p ∈ twoFramesSession.host.presentations twoFrames.calls,
        p.canvas = canvas ∧ p.frame = n ∧ p.raster.straight = picture := by
    rintro _ hne _ _ ⟨p, hp, rfl, -⟩
    exact hne (presented_twoFrames p hp).1
  obtain ⟨htwo, hredrawn, -⟩ := htwo (hnone 2 (by decide))
  obtain ⟨hthree, -, hfound⟩ := hthree (hnone 3 (by decide))
  refine ⟨?_, hsucceeds.mpr ⟨2, image, hsecond⟩, hlast 2 image hsecond hhighest, ?_,
    hredrawn ?_, htwo, hfound ?_, hthree⟩
  · rw [hreplayed]
    decide +kernel
  · rw [hframed]
    decide +kernel
  · decide +kernel
  · decide +kernel

end CommandLine

end SpriteStage
