/-
Runs of calls and their histories.

A run starts with nothing on the stage and carries out calls one after the other. Its history lists
the calls with what was answered to each. Accepted calls keep a stage sound (`Host.Accepts.sound`)
and refused ones change nothing, so every run leaves a sound stage (`Host.sound_run`), and with it
comes the first statement about all runs: a failed call leaves no trace. Statements that tie the
stage to the history are proved by the same induction (`Host.run_induction`): they hold at the start,
an accepted call keeps them, and a refused call only makes the history longer.
-/
import Mathlib.Data.List.Induction
import SpriteStage.Proofs.Step

set_option autoImplicit false

namespace SpriteStage

/-! ## Steps keep a stage sound -/

namespace Stage

variable {σ : Type} {s : Stage σ}

/-- A new stage is sound, for there is nothing on it. -/
theorem sound_start (settings : Settings) (sink : σ) : (start settings sink).Sound where
  limit_eq := rfl
  sprite := nofun
  canvas := nofun

theorem Sound.storeSprite {id : Ident} {sprite : Sprite} (hs : s.Sound)
    (hsprite : sprite.Sound s.settings.limit id) : (s.storeSprite sprite).Sound where
  limit_eq := hs.limit_eq
  sprite := by
    intro k found hfind
    rw [Stage.storeSprite, SpriteTable.find?_store, hsprite.id_eq] at hfind
    split at hfind
    · next heq =>
      cases hfind
      rw [heq]
      exact hsprite
    · exact hs.sprite hfind
  canvas := hs.canvas

theorem Sound.storeCanvas {id : Ident} {c : Canvas} (hs : s.Sound)
    (hc : c.Sound s.settings.limit id) : (s.storeCanvas id c).Sound where
  limit_eq := hs.limit_eq
  sprite := hs.sprite
  canvas := by
    intro k found hfind
    rw [Stage.storeCanvas, Table.find?_insert] at hfind
    split at hfind
    · next heq =>
      cases hfind
      rw [heq]
      exact hc
    · exact hs.canvas hfind

theorem Sound.deleteSprite (hs : s.Sound) (id : Ident) :
    Sound { s with sprites := s.sprites.delete id } where
  limit_eq := hs.limit_eq
  sprite := by
    intro k found hfind
    rw [SpriteTable.find?_delete] at hfind
    split at hfind
    · cases hfind
    · exact hs.sprite hfind
  canvas := hs.canvas

end Stage

theorem Canvas.sound_blank {limit : UInt32} {e : Extent} (id : Ident) (he : e.Admitted limit) :
    (Canvas.blank id e).Sound limit id :=
  ⟨rfl, he, rfl, Array.size_replicate⟩

theorem Sprite.sound_blank {limit : UInt32} {e : Extent} (id : Ident) (he : e.Admitted limit) :
    Sprite.Sound limit id { id, figure := .bitmap (.blank e) } where
  id_eq := rfl
  extent := by rintro b ⟨⟩; exact he
  size_eq := by rintro b ⟨⟩; exact Array.size_replicate
  fontSize := nofun

theorem Sprite.sound_text {limit : UInt32} {size : Int32} (id : Ident) (text : String)
    (color : Argb) (hsize : 0 < size.toInt) :
    Sprite.Sound limit id { id, figure := .text ⟨text, color, size.toUInt32⟩ } where
  id_eq := rfl
  extent := nofun
  size_eq := nofun
  fontSize := by
    rintro t ⟨⟩
    have hlt := size.toInt_lt
    have hnat : size.toUInt32.toNat = size.toInt.toNat := toNat_toUInt32_of_nonneg (by omega)
    rw [hnat]
    omega

namespace Sprite.Sound

variable {limit : UInt32} {id : Ident} {s : Sprite}

/-- A sprite with other pixels of the same number in its bitmap is as sound as before. -/
theorem withPixels {b b' : Bitmap} (hs : s.Sound limit id) (hf : s.figure = .bitmap b)
    (he : b'.extent = b.extent) (hsize : b'.pixels.size = b.pixels.size) :
    Sprite.Sound limit id { s with figure := .bitmap b' } where
  id_eq := hs.id_eq
  extent := by
    rintro _ ⟨⟩
    rw [he]
    exact hs.extent b hf
  size_eq := by
    rintro _ ⟨⟩
    rw [he, hsize]
    exact hs.size_eq b hf
  fontSize := nofun

theorem withContent {t : Label} (hs : s.Sound limit id) (hf : s.figure = .text t) (text : String) :
    Sprite.Sound limit id { s with figure := .text { t with content := text } } where
  id_eq := hs.id_eq
  extent := nofun
  size_eq := nofun
  fontSize := by
    rintro _ ⟨⟩
    exact hs.fontSize t hf

end Sprite.Sound

namespace Host

variable {σ : Type} [EventSink σ]

/-- **Soundness is kept.** Whatever a call is accepted with, the stage stays sound. -/
theorem Accepts.sound {h h' : Host σ} {c : Call} {reply : Reply} (ha : h.Accepts c reply h')
    (hs : h.stage.Sound) : h'.stage.Sound := by
  cases ha with
  | createTextView | modifyTextView | removeTextView | removeNoTextView | createButton |
    registerOnClick | registerOnTick | pressButton =>
    -- the sprites and the canvases are the same as before
    exact ⟨hs.limit_eq, hs.sprite, hs.canvas⟩
  | createCanvas within =>
    have hstored := hs.storeCanvas (Canvas.sound_blank (h.stage.counters.next .canvas) within.admitted)
    exact ⟨hstored.limit_eq, hstored.sprite, hstored.canvas⟩
  | createBitmap within =>
    have hstored := hs.storeSprite (Sprite.sound_blank (h.stage.counters.next .sprite) within.admitted)
    exact ⟨hstored.limit_eq, hstored.sprite, hstored.canvas⟩
  | createText positive text color =>
    have hstored := hs.storeSprite
      (Sprite.sound_text (h.stage.counters.next .sprite) text color positive)
    exact ⟨hstored.limit_eq, hstored.sprite, hstored.canvas⟩
  | setText found shape text =>
    exact hs.storeSprite ((hs.sprite found).withContent shape text)
  | modifyBitmap found shape inside =>
    obtain ⟨he, hsize⟩ := Bitmap.extent_setPixel? inside
    exact hs.storeSprite ((hs.sprite found).withPixels shape he hsize)
  | bitmapSetPixels found shape count =>
    exact hs.storeSprite ((hs.sprite found).withPixels shape rfl (by simp [count]))
  | bitmapSetPosition found left top =>
    obtain ⟨hid, he, hsize, hfont⟩ := hs.sprite found
    exact hs.storeSprite ⟨hid, he, hsize, hfont⟩
  | bitmapSetZIndex found z =>
    obtain ⟨hid, he, hsize, hfont⟩ := hs.sprite found
    exact hs.storeSprite ⟨hid, he, hsize, hfont⟩
  | canvasAddBitmap live found =>
    obtain ⟨hid, he, hre, hrs⟩ := hs.canvas found
    exact hs.storeCanvas ⟨hid, he, hre, hrs⟩
  | canvasRemoveBitmap found sprite =>
    obtain ⟨hid, he, hre, hrs⟩ := hs.canvas found
    exact hs.storeCanvas ⟨hid, he, hre, hrs⟩
  | canvasDeleteBitmap sprite => exact hs.deleteSprite sprite
  | canvasRedraw found =>
    -- the new picture has as many pixels as the extent, whatever the plan is
    obtain ⟨hid, he, hre, hrs⟩ := hs.canvas found
    exact hs.storeCanvas ⟨hid, he, hre, (Plan.size_picture _ _).trans (congrArg _ hre)⟩

/-- No call touches the settings. -/
theorem Accepts.settings_eq {h h' : Host σ} {c : Call} {reply : Reply}
    (ha : h.Accepts c reply h') : h'.stage.settings = h.stage.settings := by
  cases ha <;> rfl

end Host

/-! ## Runs -/

/-- A call of the past, with what was answered. -/
structure Entry where
  /-- The call. -/
  call : Call
  /-- The reply, or why there was none. -/
  result : Except Fault Reply

namespace Host

variable {σ : Type} [EventSink σ]

/-- Carries out calls, one after the other. -/
def run (h : Host σ) (calls : List Call) : Host σ := calls.foldl after h

/-- The calls of a run with their answers, the first one first. -/
def history (h : Host σ) : List Call → List Entry
  | [] => []
  | c :: rest => ⟨c, h.answer c⟩ :: (h.after c).history rest

theorem run_append (h : Host σ) (calls more : List Call) :
    h.run (calls ++ more) = (h.run calls).run more := by
  rw [run, List.foldl_append]
  rfl

theorem history_append (h : Host σ) (calls more : List Call) :
    h.history (calls ++ more) = h.history calls ++ (h.run calls).history more := by
  induction calls generalizing h with
  | nil => rfl
  | cons first rest ih =>
    rw [List.cons_append, history, ih (h.after first), history, List.cons_append]
    rfl

theorem run_concat (h : Host σ) (calls : List Call) (c : Call) :
    h.run (calls ++ [c]) = (h.run calls).after c :=
  h.run_append calls [c]

theorem history_concat (h : Host σ) (calls : List Call) (c : Call) :
    h.history (calls ++ [c]) = h.history calls ++ [⟨c, (h.run calls).answer c⟩] :=
  h.history_append calls [c]

/-- An entry is a call with its answer on the host that the calls before it left. -/
theorem exists_of_mem_history {h : Host σ} {calls : List Call} {e : Entry}
    (he : e ∈ h.history calls) :
    ∃ earlier later, calls = earlier ++ e.call :: later ∧
      e.result = (h.run earlier).answer e.call := by
  induction calls generalizing h with
  | nil => exact absurd he List.not_mem_nil
  | cons first rest ih =>
    rw [history] at he
    rcases List.mem_cons.mp he with rfl | he
    · exact ⟨[], rest, rfl, rfl⟩
    · obtain ⟨earlier, later, rfl, hresult⟩ := ih he
      exact ⟨first :: earlier, later, rfl, hresult⟩

/-- What came before an entry is the history of the calls before it. -/
theorem take_history (h : Host σ) (calls : List Call) (n : Nat) :
    (h.history calls).take n = h.history (calls.take n) := by
  induction calls generalizing h n with
  | nil => rw [List.take_nil, history, List.take_nil]
  | cons first rest ih =>
    cases n with
    | zero => rfl
    | succ n => rw [history, List.take_succ_cons, ih, List.take_succ_cons, history]

theorem run_cons_of_accepts {h h' : Host σ} {c : Call} {reply : Reply} (hs : h.stage.Sound)
    (ha : h.Accepts c reply h') (rest : List Call) : h.run (c :: rest) = h'.run rest := by
  rw [run, List.foldl_cons, after, step_of_accepts hs ha]
  rfl

theorem history_cons_of_accepts {h h' : Host σ} {c : Call} {reply : Reply} (hs : h.stage.Sound)
    (ha : h.Accepts c reply h') (rest : List Call) :
    h.history (c :: rest) = ⟨c, .ok reply⟩ :: h'.history rest := by
  rw [history, answer, after, step_of_accepts hs ha]

theorem sound_after {h : Host σ} (hs : h.stage.Sound) (c : Call) : (h.after c).stage.Sound := by
  rcases answer_cases hs c with ⟨reply, -, hacc⟩ | ⟨fault, -, hafter, -⟩
  · exact hacc.sound hs
  · rw [hafter]
    exact hs

variable (settings : Settings) (sink : σ)

/-- **Every run leaves a sound stage.** -/
theorem sound_run (calls : List Call) : ((start settings sink).run calls).stage.Sound := by
  -- the last call of a run acts on the host that the calls before it left
  induction calls using List.reverseRecOn with
  | nil => exact Stage.sound_start settings sink
  | append_singleton calls c ih =>
    rw [run_concat]
    exact sound_after ih c

/-- What holds at the start of a run, and is kept by the calls that are accepted and by those that
are refused, holds at the end. -/
theorem run_induction {motive : List Entry → Host σ → Prop} (nil : motive [] (start settings sink))
    (accepted : ∀ {calls c reply h'},
      motive ((start settings sink).history calls) ((start settings sink).run calls) →
      ((start settings sink).run calls).Accepts c reply h' →
      motive ((start settings sink).history calls ++ [⟨c, .ok reply⟩]) h')
    (refused : ∀ {calls c fault},
      motive ((start settings sink).history calls) ((start settings sink).run calls) →
      ((start settings sink).run calls).Refuses c fault →
      motive ((start settings sink).history calls ++ [⟨c, .error fault⟩])
        ((start settings sink).run calls))
    (calls : List Call) :
    motive ((start settings sink).history calls) ((start settings sink).run calls) := by
  induction calls using List.reverseRecOn with
  | nil => exact nil
  | append_singleton calls c ih =>
    rw [run_concat, history_concat]
    rcases answer_cases (sound_run settings sink calls) c with
      ⟨reply, hanswer, hacc⟩ | ⟨fault, hanswer, hafter, href⟩
    · rw [hanswer]
      exact accepted ih hacc
    · rw [hanswer, hafter]
      exact refused ih href

/-- A run ends under the settings that it was started with. -/
theorem settings_run (calls : List Call) :
    ((start settings sink).run calls).stage.settings = settings :=
  run_induction (motive := fun _ h => h.stage.settings = settings) settings sink rfl
    (fun ih ha => ha.settings_eq.trans ih) (fun ih _ => ih) calls

end Host

/-- Stages on which some run can end. -/
def Stage.Reachable {σ : Type} [EventSink σ] (s : Stage σ) : Prop :=
  ∃ settings sink calls, ((Host.start settings sink).run calls).stage = s

theorem Stage.Reachable.sound {σ : Type} [EventSink σ] {s : Stage σ} (hs : s.Reachable) :
    s.Sound := by
  obtain ⟨settings, sink, calls, rfl⟩ := hs
  exact Host.sound_run settings sink calls

/-! ## Failed calls -/

namespace Host

variable {σ : Type} [EventSink σ]

/-- **A failed call leaves no trace.** On every stage that a run can end on, and whichever callbacks
are registered beside it, a call that fails leaves counters, sprites, canvases with their pictures,
text views, buttons, column, sink and callbacks as they were. -/
theorem dispatch_error_unchanged {s : Stage σ} (hs : s.Reachable) {handlers : Handlers} {c : Call}
    {fault : Fault} {h' : Host σ}
    (hf : (dispatch c).runOn ⟨s, handlers⟩ = (.error fault, h')) : h' = ⟨s, handlers⟩ := by
  have hunchanged := after_of_error (h := ⟨s, handlers⟩) hs.sound (congrArg Prod.fst hf)
  exact (congrArg Prod.snd hf).symm.trans hunchanged

/-- An upload of two words to a bitmap of four points fails and leaves everything as it was. -/
theorem short_upload_unchanged :
    let h : Host Recorder := (start {} {}).run [.createBitmap 2 2, .createButton "go"]
    (dispatch (.bitmapSetPixels 1 [0xff0000ff, 0])).runOn h =
      (.error (.rejected (.pixelCount 4 2)), h) := by
  intro h
  have hs : h.stage.Reachable := ⟨{}, {}, [.createBitmap 2 2, .createButton "go"], rfl⟩
  have hf : (dispatch (.bitmapSetPixels 1 [0xff0000ff, 0])).runOn h =
      (.error (.rejected (.pixelCount 4 2)), (h.step (.bitmapSetPixels 1 [0xff0000ff, 0])).2) := rfl
  have hunchanged : (h.step (.bitmapSetPixels 1 [0xff0000ff, 0])).2 = h :=
    dispatch_error_unchanged hs hf
  rw [hf, hunchanged]

end Host

end SpriteStage
