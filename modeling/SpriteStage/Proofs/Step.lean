/-
What one call does.

Two relations say everything that can become of a call. `Host.Accepts` has a case for every way in
which a call goes through, with the reply and the host that it leaves; `Host.Refuses` has a case for
every way in which it fails, with the fault. On a sound host each call is accepted or refused
(`Host.step_cases`), never both (`Host.Accepts.not_refuses`), and a refused call leaves the host as
it was. Statements about calls are proved by cases over these relations; the operations themselves
are opened here and nowhere else.
-/
import SpriteStage.Call
import SpriteStage.Proofs.Sound

set_option autoImplicit false

namespace SpriteStage

/-- The id that is issued next for a kind. -/
def Counters.next (c : Counters) (k : Kind) : Ident := c.last k + 1

/-- The stage with a sprite stored under its id. -/
def Stage.storeSprite {σ : Type} (s : Stage σ) (sprite : Sprite) : Stage σ :=
  { s with sprites := s.sprites.store sprite }

namespace Host

variable {σ : Type}

/-- The host with another stage. -/
def put (h : Host σ) (s : Stage σ) : Host σ := { h with stage := s }

@[simp] theorem stage_put (h : Host σ) (s : Stage σ) : (h.put s).stage = s := rfl

variable [EventSink σ]

/-- The stage after a press of a button was handed to the sink. -/
def pressed (s : Stage σ) (id : Ident) : Stage σ :=
  { s with sink := ((EventSink.deliver (.buttonPress id) : Attempt σ Unit).runOn s.sink).2 }

/-- The ways in which a call goes through: what it replies, and which host it leaves. -/
inductive Accepts (h : Host σ) : Call → Reply → Host σ → Prop where
  | createTextView (text : String) :
    Accepts h (.createTextView text) (.id (h.stage.counters.next .textView))
      (h.put { h.stage with
        counters := h.stage.counters.advance .textView
        textViews := h.stage.textViews.insert (h.stage.counters.next .textView) text
        column := h.stage.column.push (.textView (h.stage.counters.next .textView)) })
  | modifyTextView {id : Ident} {old : String} (found : h.stage.textViews.find? id = some old)
      (text : String) :
    Accepts h (.modifyTextView id text) .done
      (h.put { h.stage with textViews := h.stage.textViews.insert id text })
  | removeTextView {id : Ident} {old : String} (found : h.stage.textViews.find? id = some old) :
    Accepts h (.removeTextView id) .done
      (h.put { h.stage with
        textViews := h.stage.textViews.erase id
        column := h.stage.column.erase (.textView id) })
  | removeNoTextView {id : Ident} (absent : h.stage.textViews.find? id = none) :
    Accepts h (.removeTextView id) .done h
  | createButton (label : String) :
    Accepts h (.createButton label) (.id (h.stage.counters.next .button))
      (h.put { h.stage with
        counters := h.stage.counters.advance .button
        buttons := h.stage.buttons.insert (h.stage.counters.next .button) label
        column := h.stage.column.push (.button (h.stage.counters.next .button)) })
  | createCanvas {width height : Int32}
      (within : Extent.Within h.stage.settings.limit width height) :
    Accepts h (.createCanvas width height) (.id (h.stage.counters.next .canvas))
      (h.put { h.stage with
        counters := h.stage.counters.advance .canvas
        canvases := h.stage.canvases.insert (h.stage.counters.next .canvas)
          (.blank (h.stage.counters.next .canvas) ⟨width.toUInt32, height.toUInt32⟩)
        column := h.stage.column.push (.canvas (h.stage.counters.next .canvas)) })
  | createBitmap {width height : Int32}
      (within : Extent.Within h.stage.settings.limit width height) :
    Accepts h (.createBitmap width height) (.id (h.stage.counters.next .sprite))
      (h.put ({ h.stage with counters := h.stage.counters.advance .sprite }.storeSprite
        { id := h.stage.counters.next .sprite
          figure := .bitmap (.blank ⟨width.toUInt32, height.toUInt32⟩) }))
  | createText {fontSize : Int32} (positive : 0 < fontSize.toInt) (text : String) (color : Argb) :
    Accepts h (.createText text color fontSize) (.id (h.stage.counters.next .sprite))
      (h.put ({ h.stage with counters := h.stage.counters.advance .sprite }.storeSprite
        { id := h.stage.counters.next .sprite
          figure := .text ⟨text, color, fontSize.toUInt32⟩ }))
  | setText {id : Ident} {s : Sprite} {t : Label} (found : h.stage.sprites.find? id = some s)
      (shape : s.figure = .text t) (text : String) :
    Accepts h (.setText id text) .done
      (h.put (h.stage.storeSprite { s with figure := .text { t with content := text } }))
  | modifyBitmap {id : Ident} {s : Sprite} {b b' : Bitmap} {x y : Int32} {color : Argb}
      (found : h.stage.sprites.find? id = some s) (shape : s.figure = .bitmap b)
      (inside : b.setPixel? x y color = some b') :
    Accepts h (.modifyBitmap id x y color) .done
      (h.put (h.stage.storeSprite { s with figure := .bitmap b' }))
  | bitmapSetPixels {id : Ident} {s : Sprite} {b : Bitmap} {words : List UInt32}
      (found : h.stage.sprites.find? id = some s) (shape : s.figure = .bitmap b)
      (count : words.length = b.pixels.size) :
    Accepts h (.bitmapSetPixels id words) .done
      (h.put (h.stage.storeSprite
        { s with figure := .bitmap { b with pixels := (words.map Argb.mk).toArray } }))
  | bitmapSetPosition {id : Ident} {s : Sprite} (found : h.stage.sprites.find? id = some s)
      (left top : Int32) :
    Accepts h (.bitmapSetPosition id left top) .done
      (h.put (h.stage.storeSprite { s with left, top }))
  | bitmapSetZIndex {id : Ident} {s : Sprite} (found : h.stage.sprites.find? id = some s)
      (z : Int32) :
    Accepts h (.bitmapSetZIndex id z) .done (h.put (h.stage.storeSprite { s with z }))
  | canvasAddBitmap {canvas sprite : Ident} {s : Sprite} {c : Canvas}
      (live : h.stage.sprites.find? sprite = some s)
      (found : h.stage.canvases.find? canvas = some c) :
    Accepts h (.canvasAddBitmap canvas sprite) .done
      (h.put (h.stage.storeCanvas canvas (c.attach sprite)))
  | canvasRemoveBitmap {canvas : Ident} {c : Canvas}
      (found : h.stage.canvases.find? canvas = some c) (sprite : Ident) :
    Accepts h (.canvasRemoveBitmap canvas sprite) .done
      (h.put (h.stage.storeCanvas canvas (c.detach sprite)))
  | canvasDeleteBitmap (sprite : Ident) :
    Accepts h (.canvasDeleteBitmap sprite) .done
      (h.put { h.stage with sprites := h.stage.sprites.delete sprite })
  | canvasRedraw {canvas : Ident} {c : Canvas} (found : h.stage.canvases.find? canvas = some c) :
    Accepts h (.canvasRedraw canvas) (.redrawn canvas (c.raster.frame + 1))
      (h.put (h.stage.storeCanvas canvas (c.redrawn h.stage.sprites h.stage.settings.clear)))
  | registerOnClick {id : Ident} {label : String} (found : h.stage.buttons.find? id = some label)
      (callback : Callback) :
    Accepts h (.registerOnClick id callback) .done
      { h with handlers := h.handlers.onClick id callback }
  | registerOnTick (callback : Callback) :
    Accepts h (.registerOnTick callback) .done { h with handlers := h.handlers.onTick callback }
  | pressButton {id : Ident} {label : String} (found : h.stage.buttons.find? id = some label) :
    Accepts h (.pressButton id) .done (h.put (pressed h.stage id))

/-- The ways in which a call fails, and with which fault. -/
inductive Refuses (h : Host σ) : Call → Fault → Prop where
  | noTextView {id : Ident} (absent : h.stage.textViews.find? id = none) (text : String) :
    Refuses h (.modifyTextView id text) (.notFound .textView id)
  | canvasSize {width height : Int32}
      (beyond : ¬ Extent.Within h.stage.settings.limit width height) :
    Refuses h (.createCanvas width height) (.invalidDimensions width.toInt height.toInt)
  | bitmapSize {width height : Int32}
      (beyond : ¬ Extent.Within h.stage.settings.limit width height) :
    Refuses h (.createBitmap width height) (.invalidDimensions width.toInt height.toInt)
  | fontSize {size : Int32} (small : size.toInt ≤ 0) (text : String) (color : Argb) :
    Refuses h (.createText text color size) (.rejected (.fontSize size))
  | noText {id : Ident}
      (other : ∀ s t, h.stage.sprites.find? id = some s → s.figure ≠ .text t) (text : String) :
    Refuses h (.setText id text) (.notFound .sprite id)
  | noBitmap {id : Ident}
      (other : ∀ s b, h.stage.sprites.find? id = some s → s.figure ≠ .bitmap b) (x y : Int32)
      (color : Argb) :
    Refuses h (.modifyBitmap id x y color) (.notFound .sprite id)
  | outside {id : Ident} {s : Sprite} {b : Bitmap} {x y : Int32}
      (found : h.stage.sprites.find? id = some s) (shape : s.figure = .bitmap b)
      (out : ¬ b.extent.Covers x.toInt y.toInt) (color : Argb) :
    Refuses h (.modifyBitmap id x y color)
      (.outOfBounds id x y b.extent.width b.extent.height)
  | noBitmapForPixels {id : Ident}
      (other : ∀ s b, h.stage.sprites.find? id = some s → s.figure ≠ .bitmap b)
      (words : List UInt32) :
    Refuses h (.bitmapSetPixels id words) (.notFound .sprite id)
  | pixelCount {id : Ident} {s : Sprite} {b : Bitmap} {words : List UInt32}
      (found : h.stage.sprites.find? id = some s) (shape : s.figure = .bitmap b)
      (count : words.length ≠ b.pixels.size) :
    Refuses h (.bitmapSetPixels id words)
      (.rejected (.pixelCount b.pixels.size words.length))
  | noSpriteToMove {id : Ident} (absent : h.stage.sprites.find? id = none) (left top : Int32) :
    Refuses h (.bitmapSetPosition id left top) (.notFound .sprite id)
  | noSpriteToLift {id : Ident} (absent : h.stage.sprites.find? id = none) (z : Int32) :
    Refuses h (.bitmapSetZIndex id z) (.notFound .sprite id)
  | noSpriteToAttach {sprite : Ident} (absent : h.stage.sprites.find? sprite = none)
      (canvas : Ident) :
    Refuses h (.canvasAddBitmap canvas sprite) (.notFound .sprite sprite)
  | noCanvasToAttach {canvas sprite : Ident} {s : Sprite}
      (live : h.stage.sprites.find? sprite = some s)
      (absent : h.stage.canvases.find? canvas = none) :
    Refuses h (.canvasAddBitmap canvas sprite) (.notFound .canvas canvas)
  | noCanvasToDetach {canvas : Ident} (absent : h.stage.canvases.find? canvas = none)
      (sprite : Ident) :
    Refuses h (.canvasRemoveBitmap canvas sprite) (.notFound .canvas canvas)
  | noCanvasToRedraw {canvas : Ident} (absent : h.stage.canvases.find? canvas = none) :
    Refuses h (.canvasRedraw canvas) (.notFound .canvas canvas)
  | noButtonToRoute {id : Ident} (absent : h.stage.buttons.find? id = none)
      (callback : Callback) :
    Refuses h (.registerOnClick id callback) (.notFound .button id)
  | noButtonToPress {id : Ident} (absent : h.stage.buttons.find? id = none) :
    Refuses h (.pressButton id) (.notFound .button id)

/-! ## A call as a step -/

-- the operation of a call is read off whenever the call is known
attribute [simp] dispatch

/-- What a call answers on a host, and the host that it leaves. -/
def step (h : Host σ) (c : Call) : Except Fault Reply × Host σ := (dispatch c).runOn h

/-- What a call answers on a host. -/
def answer (h : Host σ) (c : Call) : Except Fault Reply := (h.step c).1

/-- The host that a call leaves. -/
def after (h : Host σ) (c : Call) : Host σ := (h.step c).2

omit [EventSink σ] in
@[simp] theorem runOn_onStage {α : Type} (x : Attempt (Stage σ) α) (h : Host σ) :
    (onStage x).runOn h = ((x.runOn h.stage).1, h.put (x.runOn h.stage).2) := rfl

omit [EventSink σ] in
@[simp] theorem put_stage (h : Host σ) : h.put h.stage = h := rfl

omit [EventSink σ] in
@[simp] theorem runOn_changeHandlers (change : Handlers → Handlers) (h : Host σ) :
    (changeHandlers change : Attempt (Host σ) Unit).runOn h =
      (.ok (), { h with handlers := change h.handlers }) := rfl

end Host

/-! ## Look-ups in the sprite table -/

namespace SpriteTable

variable {s : SpriteTable} {id : Ident} {sprite : Sprite}

theorem get_of_find? (h : s.find? id = some sprite) : s.get id = .ok sprite := by
  rw [get, h]

theorem get_of_absent (h : s.find? id = none) : s.get id = .error (.notFound .sprite id) := by
  rw [get, h]

theorem getBitmap_of_find? {b : Bitmap} (h : s.find? id = some sprite)
    (hf : sprite.figure = .bitmap b) : s.getBitmap id = .ok (sprite, b) := by
  simp [getBitmap, get_of_find? h, Sprite.bitmap?, hf]

theorem getText_of_find? {t : Label} (h : s.find? id = some sprite)
    (hf : sprite.figure = .text t) : s.getText id = .ok (sprite, t) := by
  simp [getText, get_of_find? h, Sprite.text?, hf]

/-- Whatever is not a live bitmap sprite is reported as missing. -/
theorem getBitmap_of_other
    (h : ∀ sprite b, s.find? id = some sprite → sprite.figure ≠ .bitmap b) :
    s.getBitmap id = .error (.notFound .sprite id) := by
  cases hfind : s.find? id with
  | none => simp [getBitmap, get_of_absent hfind]
  | some sprite =>
    cases hf : sprite.figure with
    | bitmap b => exact absurd hf (h sprite b hfind)
    | text t => simp [getBitmap, get_of_find? hfind, Sprite.bitmap?, hf]

/-- Whatever is not a live text sprite is reported as missing. -/
theorem getText_of_other
    (h : ∀ sprite t, s.find? id = some sprite → sprite.figure ≠ .text t) :
    s.getText id = .error (.notFound .sprite id) := by
  cases hfind : s.find? id with
  | none => simp [getText, get_of_absent hfind]
  | some sprite =>
    cases hf : sprite.figure with
    | text t => exact absurd hf (h sprite t hfind)
    | bitmap b => simp [getText, get_of_find? hfind, Sprite.text?, hf]

/-- An id either names a live bitmap sprite or it does not. -/
theorem bitmap_or_other (s : SpriteTable) (id : Ident) :
    (∃ sprite b, s.find? id = some sprite ∧ sprite.figure = .bitmap b) ∨
      ∀ sprite b, s.find? id = some sprite → sprite.figure ≠ .bitmap b := by
  by_cases h : ∃ sprite b, s.find? id = some sprite ∧ sprite.figure = .bitmap b
  · exact .inl h
  · exact .inr fun sprite b hfind hf => h ⟨sprite, b, hfind, hf⟩

/-- An id either names a live text sprite or it does not. -/
theorem text_or_other (s : SpriteTable) (id : Ident) :
    (∃ sprite t, s.find? id = some sprite ∧ sprite.figure = .text t) ∨
      ∀ sprite t, s.find? id = some sprite → sprite.figure ≠ .text t := by
  by_cases h : ∃ sprite t, s.find? id = some sprite ∧ sprite.figure = .text t
  · exact .inl h
  · exact .inr fun sprite t hfind hf => h ⟨sprite, t, hfind, hf⟩

/-! ## Changes of the sprite table -/

variable {b : Bitmap} {t : Label}

theorem setText_of_text (h : s.find? id = some sprite) (hf : sprite.figure = .text t)
    (text : String) :
    s.setText id text = .ok (s.store { sprite with figure := .text { t with content := text } }) := by
  rw [setText, getText_of_find? h hf]
  rfl

theorem setText_of_other (h : ∀ sprite t, s.find? id = some sprite → sprite.figure ≠ .text t)
    (text : String) : s.setText id text = .error (.notFound .sprite id) := by
  rw [setText, getText_of_other h]
  rfl

theorem setPixel_of_bitmap {b' : Bitmap} {x y : Int32} {color : Argb}
    (h : s.find? id = some sprite) (hf : sprite.figure = .bitmap b)
    (hset : b.setPixel? x y color = some b') :
    s.setPixel id x y color = .ok (s.store { sprite with figure := .bitmap b' }) := by
  simp only [setPixel, getBitmap_of_find? h hf, Attempt.ok_bind, hset]
  rfl

theorem setPixel_outside {x y : Int32} {color : Argb} (h : s.find? id = some sprite)
    (hf : sprite.figure = .bitmap b) (hset : b.setPixel? x y color = none) :
    s.setPixel id x y color = .error (.outOfBounds id x y b.extent.width b.extent.height) := by
  simp only [setPixel, getBitmap_of_find? h hf, Attempt.ok_bind, hset]

theorem setPixel_of_other
    (h : ∀ sprite b, s.find? id = some sprite → sprite.figure ≠ .bitmap b) (x y : Int32)
    (color : Argb) : s.setPixel id x y color = .error (.notFound .sprite id) := by
  rw [setPixel, getBitmap_of_other h]
  rfl

theorem upload_of_bitmap {words : List UInt32} (h : s.find? id = some sprite)
    (hf : sprite.figure = .bitmap b) (hcount : words.length = b.pixels.size) :
    s.upload id words = .ok (s.store
      { sprite with figure := .bitmap { b with pixels := (words.map Argb.mk).toArray } }) := by
  simp only [upload, getBitmap_of_find? h hf, Attempt.ok_bind, Bitmap.upload, if_pos hcount]
  rfl

theorem upload_of_count {words : List UInt32} (h : s.find? id = some sprite)
    (hf : sprite.figure = .bitmap b) (hcount : words.length ≠ b.pixels.size) :
    s.upload id words = .error (.rejected (.pixelCount b.pixels.size words.length)) := by
  simp only [upload, getBitmap_of_find? h hf, Attempt.ok_bind, Bitmap.upload, if_neg hcount]
  rfl

theorem upload_of_other (h : ∀ sprite b, s.find? id = some sprite → sprite.figure ≠ .bitmap b)
    (words : List UInt32) : s.upload id words = .error (.notFound .sprite id) := by
  rw [upload, getBitmap_of_other h]
  rfl

theorem setPosition_of_find? (h : s.find? id = some sprite) (left top : Int32) :
    s.setPosition id left top = .ok (s.store { sprite with left, top }) := by
  rw [setPosition, get_of_find? h]
  rfl

theorem setPosition_of_absent (h : s.find? id = none) (left top : Int32) :
    s.setPosition id left top = .error (.notFound .sprite id) := by
  rw [setPosition, get_of_absent h]
  rfl

theorem setDepth_of_find? (h : s.find? id = some sprite) (z : Int32) :
    s.setDepth id z = .ok (s.store { sprite with z }) := by
  rw [setDepth, get_of_find? h]
  rfl

theorem setDepth_of_absent (h : s.find? id = none) (z : Int32) :
    s.setDepth id z = .error (.notFound .sprite id) := by
  rw [setDepth, get_of_absent h]
  rfl

end SpriteTable

/-! ## Every call is accepted or refused -/

namespace Host

variable {σ : Type} [EventSink σ] {h : Host σ}

/-- Calls that are accepted, or else refused on an unchanged host. -/
def Decides (h : Host σ) (c : Call) : Prop :=
  (∃ reply h', h.step c = (.ok reply, h') ∧ h.Accepts c reply h') ∨
    ∃ fault, h.step c = (.error fault, h) ∧ h.Refuses c fault

/-! ### Text views -/

theorem decides_modifyTextView (id : Ident) (text : String) :
    h.Decides (.modifyTextView id text) := by
  cases hfind : h.stage.textViews.find? id with
  | none =>
    refine .inr ⟨_, ?_, .noTextView hfind text⟩
    simp [step, Stage.modifyTextView, Stage.textView, hfind]
  | some old =>
    refine .inl ⟨_, _, ?_, .modifyTextView hfind text⟩
    simp [step, Stage.modifyTextView, Stage.textView, hfind]

theorem decides_removeTextView (id : Ident) : h.Decides (.removeTextView id) := by
  cases hfind : h.stage.textViews.find? id with
  | none =>
    refine .inl ⟨_, _, ?_, .removeNoTextView hfind⟩
    simp [step, Stage.removeTextView, Table.contains, hfind]
  | some old =>
    refine .inl ⟨_, _, ?_, .removeTextView hfind⟩
    simp [step, Stage.removeTextView, Table.contains, hfind]

/-! ### Buttons and callbacks -/

theorem decides_registerOnClick (id : Ident) (callback : Callback) :
    h.Decides (.registerOnClick id callback) := by
  cases hfind : h.stage.buttons.find? id with
  | none =>
    refine .inr ⟨_, ?_, .noButtonToRoute hfind callback⟩
    simp [step, Stage.button, hfind]
  | some label =>
    refine .inl ⟨_, _, ?_, .registerOnClick hfind callback⟩
    simp [step, Stage.button, hfind]

theorem decides_pressButton (id : Ident) : h.Decides (.pressButton id) := by
  cases hfind : h.stage.buttons.find? id with
  | none =>
    refine .inr ⟨_, ?_, .noButtonToPress hfind⟩
    simp [step, Stage.pressButton, Stage.button, hfind]
  | some label =>
    refine .inl ⟨_, _, ?_, .pressButton hfind⟩
    simp [step, Stage.pressButton, Stage.button, hfind]
    rfl

/-! ### Canvases -/

theorem decides_createCanvas (width height : Int32) : h.Decides (.createCanvas width height) := by
  by_cases hsize : Extent.Within h.stage.settings.limit width height
  · refine .inl ⟨_, _, ?_, .createCanvas hsize⟩
    simp [step, Stage.createCanvas, Extent.request_eq, hsize, Counters.issue,
      Counters.next]
  · refine .inr ⟨_, ?_, .canvasSize hsize⟩
    simp [step, Stage.createCanvas, Extent.request_eq, hsize]

theorem decides_canvasAddBitmap (canvas sprite : Ident) :
    h.Decides (.canvasAddBitmap canvas sprite) := by
  -- the sprite is looked for before the canvas
  cases hlive : h.stage.sprites.find? sprite with
  | none =>
    refine .inr ⟨_, ?_, .noSpriteToAttach hlive canvas⟩
    simp [step, Stage.attachSprite, SpriteTable.get_of_absent hlive]
  | some s =>
    have hget := SpriteTable.get_of_find? hlive
    cases hfind : h.stage.canvases.find? canvas with
    | none =>
      refine .inr ⟨_, ?_, .noCanvasToAttach hlive hfind⟩
      simp [step, Stage.attachSprite, hget, Stage.canvas, hfind]
    | some c =>
      refine .inl ⟨_, _, ?_, .canvasAddBitmap hlive hfind⟩
      simp [step, Stage.attachSprite, hget, Stage.canvas, hfind]

theorem decides_canvasRemoveBitmap (canvas sprite : Ident) :
    h.Decides (.canvasRemoveBitmap canvas sprite) := by
  cases hfind : h.stage.canvases.find? canvas with
  | none =>
    refine .inr ⟨_, ?_, .noCanvasToDetach hfind sprite⟩
    simp [step, Stage.detachSprite, Stage.canvas, hfind]
  | some c =>
    refine .inl ⟨_, _, ?_, .canvasRemoveBitmap hfind sprite⟩
    simp [step, Stage.detachSprite, Stage.canvas, hfind]

theorem decides_canvasRedraw (hs : h.stage.Sound) (canvas : Ident) :
    h.Decides (.canvasRedraw canvas) := by
  cases hfind : h.stage.canvases.find? canvas with
  | none =>
    refine .inr ⟨_, ?_, .noCanvasToRedraw hfind⟩
    simp [step, Stage.redrawCanvas, Stage.canvas, hfind]
  | some c =>
    -- once the canvas is found, a redraw of a sound stage has no way left to fail
    refine .inl ⟨_, _, ?_, .canvasRedraw hfind⟩
    simp [step, Stage.runOn_redrawCanvas hs hfind]

/-! ### Sprites -/

theorem decides_createBitmap (hs : h.stage.Sound) (width height : Int32) :
    h.Decides (.createBitmap width height) := by
  by_cases hsize : Extent.Within h.stage.settings.limit width height
  · refine .inl ⟨_, _, ?_, .createBitmap hsize⟩
    simp [step, Stage.createBitmap, Stage.addSprite, SpriteTable.createBitmap,
      SpriteTable.add, hs.limit_eq, Extent.request_eq, hsize, Counters.issue, Counters.next,
      Stage.storeSprite]
  · refine .inr ⟨_, ?_, .bitmapSize hsize⟩
    simp [step, Stage.createBitmap, Stage.addSprite, SpriteTable.createBitmap,
      hs.limit_eq, Extent.request_eq, hsize]

theorem decides_createText (text : String) (color : Argb) (size : Int32) :
    h.Decides (.createText text color size) := by
  by_cases hsize : size ≤ 0
  · refine .inr ⟨_, ?_, .fontSize (Int32.le_iff_toInt_le.mp hsize) text color⟩
    simp [step, Stage.createText, Stage.addSprite, SpriteTable.createText, hsize]
  · have hpositive : 0 < size.toInt :=
      Int.not_le.mp fun hle => hsize (Int32.le_iff_toInt_le.mpr hle)
    refine .inl ⟨_, _, ?_, .createText hpositive text color⟩
    simp [step, Stage.createText, Stage.addSprite, SpriteTable.createText, hsize,
      SpriteTable.add, Counters.issue, Counters.next, Stage.storeSprite]

section Change

variable {c : Call} {change : SpriteTable → Except Fault SpriteTable}

/-- A call that changes the sprite table is accepted where the change goes through. -/
theorem decides_of_change
    (hc : dispatch c = (do onStage (Stage.changeSprites change); return .done : Attempt (Host σ) _))
    {sprites : SpriteTable} (hok : change h.stage.sprites = .ok sprites)
    (ha : h.Accepts c .done (h.put { h.stage with sprites })) : h.Decides c := by
  refine .inl ⟨_, _, ?_, ha⟩
  rw [step, hc]
  simp [Stage.changeSprites, hok]

/-- A call that changes the sprite table is refused where the change fails. -/
theorem decides_of_fault
    (hc : dispatch c = (do onStage (Stage.changeSprites change); return .done : Attempt (Host σ) _))
    {fault : Fault} (herror : change h.stage.sprites = .error fault) (hr : h.Refuses c fault) :
    h.Decides c := by
  refine .inr ⟨_, ?_, hr⟩
  rw [step, hc]
  simp [Stage.changeSprites, herror]

end Change

theorem decides_setText (id : Ident) (text : String) : h.Decides (.setText id text) := by
  rcases h.stage.sprites.text_or_other id with ⟨s, t, hfind, hf⟩ | hother
  · exact decides_of_change rfl (SpriteTable.setText_of_text hfind hf text) (.setText hfind hf text)
  · exact decides_of_fault rfl (SpriteTable.setText_of_other hother text) (.noText hother text)

theorem decides_modifyBitmap (id : Ident) (x y : Int32) (color : Argb) :
    h.Decides (.modifyBitmap id x y color) := by
  rcases h.stage.sprites.bitmap_or_other id with ⟨s, b, hfind, hf⟩ | hother
  · by_cases hin : b.extent.Covers x.toInt y.toInt
    · have hset := (Bitmap.setPixel?_eq b x y color).trans (if_pos hin)
      exact decides_of_change rfl (SpriteTable.setPixel_of_bitmap hfind hf hset)
        (.modifyBitmap hfind hf hset)
    · have hset := (Bitmap.setPixel?_eq b x y color).trans (if_neg hin)
      exact decides_of_fault rfl (SpriteTable.setPixel_outside hfind hf hset)
        (.outside hfind hf hin color)
  · exact decides_of_fault rfl (SpriteTable.setPixel_of_other hother x y color)
      (.noBitmap hother x y color)

theorem decides_bitmapSetPixels (id : Ident) (words : List UInt32) :
    h.Decides (.bitmapSetPixels id words) := by
  rcases h.stage.sprites.bitmap_or_other id with ⟨s, b, hfind, hf⟩ | hother
  · by_cases hcount : words.length = b.pixels.size
    · exact decides_of_change rfl (SpriteTable.upload_of_bitmap hfind hf hcount)
        (.bitmapSetPixels hfind hf hcount)
    · exact decides_of_fault rfl (SpriteTable.upload_of_count hfind hf hcount)
        (.pixelCount hfind hf hcount)
  · exact decides_of_fault rfl (SpriteTable.upload_of_other hother words)
      (.noBitmapForPixels hother words)

theorem decides_bitmapSetPosition (id : Ident) (left top : Int32) :
    h.Decides (.bitmapSetPosition id left top) := by
  cases hfind : h.stage.sprites.find? id with
  | none =>
    exact decides_of_fault rfl (SpriteTable.setPosition_of_absent hfind left top)
      (.noSpriteToMove hfind left top)
  | some s =>
    exact decides_of_change rfl (SpriteTable.setPosition_of_find? hfind left top)
      (.bitmapSetPosition hfind left top)

theorem decides_bitmapSetZIndex (id : Ident) (z : Int32) : h.Decides (.bitmapSetZIndex id z) := by
  cases hfind : h.stage.sprites.find? id with
  | none =>
    exact decides_of_fault rfl (SpriteTable.setDepth_of_absent hfind z) (.noSpriteToLift hfind z)
  | some s =>
    exact decides_of_change rfl (SpriteTable.setDepth_of_find? hfind z) (.bitmapSetZIndex hfind z)

/-! ### All calls -/

/-- **What a call can do.** On a sound host every call is accepted, with the reply and the host that
`Accepts` lists, or refused, with the fault that `Refuses` lists and on an unchanged host. -/
theorem step_cases (hs : h.stage.Sound) (c : Call) : h.Decides c := by
  cases c with
  | createTextView text => exact .inl ⟨_, _, rfl, .createTextView text⟩
  | modifyTextView id text => exact decides_modifyTextView id text
  | removeTextView id => exact decides_removeTextView id
  | createButton label => exact .inl ⟨_, _, rfl, .createButton label⟩
  | createCanvas width height => exact decides_createCanvas width height
  | createBitmap width height => exact decides_createBitmap hs width height
  | createText text color size => exact decides_createText text color size
  | setText id text => exact decides_setText id text
  | modifyBitmap id x y color => exact decides_modifyBitmap id x y color
  | bitmapSetPixels id words => exact decides_bitmapSetPixels id words
  | bitmapSetPosition id left top => exact decides_bitmapSetPosition id left top
  | bitmapSetZIndex id z => exact decides_bitmapSetZIndex id z
  | canvasAddBitmap canvas sprite => exact decides_canvasAddBitmap canvas sprite
  | canvasRemoveBitmap canvas sprite => exact decides_canvasRemoveBitmap canvas sprite
  | canvasDeleteBitmap sprite => exact .inl ⟨_, _, rfl, .canvasDeleteBitmap sprite⟩
  | canvasRedraw canvas => exact decides_canvasRedraw hs canvas
  | registerOnClick id callback => exact decides_registerOnClick id callback
  | registerOnTick callback => exact .inl ⟨_, _, rfl, .registerOnTick callback⟩
  | pressButton id => exact decides_pressButton id

/-- A call that is accepted is not refused as well. -/
theorem Accepts.not_refuses {c : Call} {reply : Reply} {h' : Host σ}
    (ha : h.Accepts c reply h') (fault : Fault) : ¬ h.Refuses c fault := by
  intro hr
  cases hr with
  | noTextView absent text => cases ha; simp_all
  | canvasSize beyond => cases ha; contradiction
  | bitmapSize beyond => cases ha; contradiction
  | fontSize small text color => cases ha; omega
  | noText other text =>
    cases ha with
    | setText found shape => exact other _ _ found shape
  | noBitmap other x y color =>
    cases ha with
    | modifyBitmap found shape inside => exact other _ _ found shape
  | outside found shape out color =>
    cases ha with
    | modifyBitmap found' shape' inside =>
      simp_all [Bitmap.setPixel?_eq]
  | noBitmapForPixels other words =>
    cases ha with
    | bitmapSetPixels found shape count => exact other _ _ found shape
  | pixelCount found shape count => cases ha; simp_all
  | noSpriteToMove absent => cases ha; simp_all
  | noSpriteToLift absent => cases ha; simp_all
  | noSpriteToAttach absent => cases ha; simp_all
  | noCanvasToAttach live absent => cases ha; simp_all
  | noCanvasToDetach absent => cases ha; simp_all
  | noCanvasToRedraw absent => cases ha; simp_all
  | noButtonToRoute absent => cases ha; simp_all
  | noButtonToPress absent => cases ha; simp_all

omit [EventSink σ] in
/-- A call that is refused is refused with one fault. -/
theorem Refuses.unique {c : Call} {fault fault' : Fault} (hr : h.Refuses c fault)
    (hr' : h.Refuses c fault') : fault = fault' := by
  cases hr with
  | noBitmap other =>
    cases hr' with
    | noBitmap => rfl
    | outside found shape => exact absurd shape (other _ _ found)
  | outside found shape out =>
    cases hr' with
    | noBitmap other => exact absurd shape (other _ _ found)
    | outside found' shape' => simp_all
  | noBitmapForPixels other =>
    cases hr' with
    | noBitmapForPixels => rfl
    | pixelCount found shape => exact absurd shape (other _ _ found)
  | pixelCount found shape =>
    cases hr' with
    | noBitmapForPixels other => exact absurd shape (other _ _ found)
    | pixelCount found' shape' => simp_all
  | noSpriteToAttach absent =>
    cases hr' with
    | noSpriteToAttach => rfl
    | noCanvasToAttach live => simp_all
  | noCanvasToAttach live =>
    cases hr' with
    | noSpriteToAttach absent => simp_all
    | noCanvasToAttach => rfl
  | _ => cases hr'; rfl

/-- A call that is accepted is accepted in one way. -/
theorem Accepts.unique {c : Call} {reply reply' : Reply} {h' h'' : Host σ}
    (ha : h.Accepts c reply h') (ha' : h.Accepts c reply' h'') : reply = reply' ∧ h' = h'' := by
  cases ha with
  | removeTextView found =>
    cases ha' with
    | removeTextView => exact ⟨rfl, rfl⟩
    | removeNoTextView absent => cases absent.symm.trans found
  | removeNoTextView absent =>
    cases ha' with
    | removeTextView found => cases absent.symm.trans found
    | removeNoTextView => exact ⟨rfl, rfl⟩
  | setText found | modifyBitmap found | bitmapSetPixels found | bitmapSetPosition found
  | bitmapSetZIndex found | canvasAddBitmap live found | canvasRemoveBitmap found
  | canvasRedraw found =>
    -- both ways found the same sprite or canvas
    cases ha'
    simp_all
  | _ =>
    cases ha'
    exact ⟨rfl, rfl⟩

/-- A call does what it is accepted with. -/
theorem step_of_accepts (hs : h.stage.Sound) {c : Call} {reply : Reply} {h' : Host σ}
    (ha : h.Accepts c reply h') : h.step c = (.ok reply, h') := by
  rcases step_cases hs c with ⟨reply', h'', hstep, ha'⟩ | ⟨fault, -, hr⟩
  · obtain ⟨rfl, rfl⟩ := ha.unique ha'
    exact hstep
  · exact absurd hr (ha.not_refuses fault)

/-- What a call answers, and the host that it leaves, are what it is accepted with, or else the fault
that it is refused with and the same host. -/
theorem answer_cases (hs : h.stage.Sound) (c : Call) :
    (∃ reply, h.answer c = .ok reply ∧ h.Accepts c reply (h.after c)) ∨
      ∃ fault, h.answer c = .error fault ∧ h.after c = h ∧ h.Refuses c fault := by
  rw [answer, after]
  rcases step_cases hs c with ⟨reply, h', hstep, ha⟩ | ⟨fault, hstep, hr⟩
  · rw [hstep]
    exact .inl ⟨reply, rfl, ha⟩
  · rw [hstep]
    exact .inr ⟨fault, rfl, rfl, hr⟩

/-- A call fails exactly if it is refused. -/
theorem answer_eq_error_iff (hs : h.stage.Sound) {c : Call} {fault : Fault} :
    h.answer c = .error fault ↔ h.Refuses c fault := by
  rcases answer_cases hs c with ⟨reply, hanswer, hacc⟩ | ⟨fault', hanswer, -, href⟩
  · rw [hanswer]
    exact iff_of_false nofun (hacc.not_refuses fault)
  · rw [hanswer]
    constructor
    · rintro ⟨⟩
      exact href
    · intro h
      rw [href.unique h]

/-- A call that fails leaves the host as it was. -/
theorem after_of_error (hs : h.stage.Sound) {c : Call} {fault : Fault}
    (hf : h.answer c = .error fault) : h.after c = h := by
  rcases answer_cases hs c with ⟨reply, hanswer, -⟩ | ⟨fault', -, hafter, -⟩
  · rw [hanswer] at hf
    cases hf
  · exact hafter

end Host

end SpriteStage
