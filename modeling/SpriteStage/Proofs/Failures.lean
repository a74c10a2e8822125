/-
When calls fail.

Whether a call fails, and how, follows from its arguments, from the size limit and from what the
history says about the elements that it names (`FailsAfter`). A rule of this relation never looks at
a stage. Which elements there are is said by creations and removals, and the size of a bitmap is the
one that its creation asked for. `Host.fails_iff` says that the relation is exact: a call that fails
does so by one of the rules, with the fault of that rule, and a call for which there is no rule never
fails.
-/
import SpriteStage.Proofs.LastWriter

set_option autoImplicit false

namespace SpriteStage

/-! ## Live texts and live bitmaps -/

/-- Ids of live sprites whose last creation was that of a text. -/
def LiveText (id : Ident) (past : List Entry) : Prop :=
  ∃ before origin since, Lineage .sprite id past before origin since ∧
    ∃ content color size, origin.call = .createText content color size

/-- Ids of live sprites whose last creation was that of a bitmap, with the dimensions asked for. -/
def LiveBitmap (id : Ident) (width height : Int32) (past : List Entry) : Prop :=
  ∃ before origin since, Lineage .sprite id past before origin since ∧
    origin.call = .createBitmap width height

/-- A sprite is created as a text or as a bitmap. -/
theorem Entry.text_or_bitmap {e : Entry} {id : Ident} (h : e.created? = some (.sprite, id)) :
    (∃ content color size, e.call = .createText content color size) ∨
      ∃ width height, e.call = .createBitmap width height := by
  obtain ⟨c, result⟩ := e
  cases c with
  | createText content color size => exact .inl ⟨content, color, size, rfl⟩
  | createBitmap width height => exact .inr ⟨width, height, rfl⟩
  | createTextView | createButton | createCanvas =>
    cases result with
    | error fault => cases h
    | ok reply => cases reply <;> cases h
  | _ => cases h

/-! ## What a history tells of a stage -/

/-- Histories that tell which elements a stage has, and of which sort and size its sprites are. -/
structure Tells {σ : Type} (past : List Entry) (s : Stage σ) : Prop where
  textView : ∀ id, ¬ Live .textView id past ↔ s.textViews.find? id = none
  sprite : ∀ id, ¬ Live .sprite id past ↔ s.sprites.find? id = none
  canvas : ∀ id, (∀ e ∈ past, e.created? ≠ some (.canvas, id)) ↔ s.canvases.find? id = none
  button : ∀ id, (∀ e ∈ past, e.created? ≠ some (.button, id)) ↔ s.buttons.find? id = none
  text : ∀ id, LiveText id past ↔ ∃ sp t, s.sprites.find? id = some sp ∧ sp.figure = .text t
  bitmap : ∀ {id sp b}, s.sprites.find? id = some sp → sp.figure = .bitmap b →
    ∃ width height, LiveBitmap id width height past ∧
      b.extent.width.toNat = width.toInt ∧ b.extent.height.toNat = height.toInt
  bitmapFound : ∀ {id width height}, LiveBitmap id width height past →
    ∃ sp b, s.sprites.find? id = some sp ∧ sp.figure = .bitmap b ∧
      b.extent.width.toNat = width.toInt ∧ b.extent.height.toNat = height.toInt

namespace Host

variable {σ : Type} [EventSink σ] (settings : Settings) (sink : σ) (calls : List Call)

/-- A lineage of a sprite is that of the sprite that is found. -/
theorem find?_of_lineage {id : Ident} {before since : List Entry} {origin : Entry}
    (hl : Lineage .sprite id ((start settings sink).history calls) before origin since) :
    ∃ s, ((start settings sink).run calls).stage.sprites.find? id = some s ∧
      s.Follows origin.call (writesTo id since) := by
  obtain ⟨s, hfind⟩ :=
    Option.isSome_iff_exists.mp ((has_run_iff settings sink calls .sprite id).mpr hl.live)
  obtain ⟨before', origin', since', hl', hf⟩ := follows_run settings sink calls hfind
  obtain ⟨rfl, rfl⟩ := hl.unique hl'
  exact ⟨s, hfind, hf⟩

/-- Canvases and buttons are absent only if they were never created. -/
theorem never_created_iff {k : Kind} (hk : k = .canvas ∨ k = .button) (id : Ident) :
    (∀ e ∈ (start settings sink).history calls, e.created? ≠ some (k, id)) ↔
      ¬ ((start settings sink).run calls).stage.has k id := by
  rw [has_run_iff, live_iff_created hk]
  push Not
  rfl

/-- **The history of a run tells of the stage at its end.** -/
theorem tells_run :
    Tells ((start settings sink).history calls) ((start settings sink).run calls).stage where
  textView id :=
    (has_run_iff settings sink calls .textView id).not.symm.trans Option.not_isSome_iff_eq_none
  sprite id :=
    (has_run_iff settings sink calls .sprite id).not.symm.trans Option.not_isSome_iff_eq_none
  canvas id :=
    (never_created_iff settings sink calls (.inl rfl) id).trans Option.not_isSome_iff_eq_none
  button id :=
    (never_created_iff settings sink calls (.inr rfl) id).trans Option.not_isSome_iff_eq_none
  text id := by
    constructor
    · rintro ⟨before, origin, since, hl, content, color, size, hcall⟩
      obtain ⟨s, hfind, hf⟩ := find?_of_lineage settings sink calls hl
      obtain ⟨t, ht, -⟩ := hf.text hcall
      exact ⟨s, t, hfind, ht⟩
    · rintro ⟨s, t, hfind, ht⟩
      obtain ⟨before, origin, since, hl, hf⟩ := follows_run settings sink calls hfind
      rcases Entry.text_or_bitmap hl.created with htext | ⟨width, height, hcall⟩
      · exact ⟨before, origin, since, hl, htext⟩
      · obtain ⟨b, hb, -⟩ := hf.bitmap hcall
        cases ht.symm.trans hb
  bitmap := by
    intro id s b hfind hb
    obtain ⟨before, origin, since, hl, hf⟩ := follows_run settings sink calls hfind
    rcases Entry.text_or_bitmap hl.created with ⟨content, color, size, hcall⟩ | ⟨w, h, hcall⟩
    · obtain ⟨t, ht, -⟩ := hf.text hcall
      cases hb.symm.trans ht
    · obtain ⟨b', hb', hwidth, hheight, -⟩ := hf.bitmap hcall
      obtain rfl := Figure.bitmap.inj (hb.symm.trans hb')
      exact ⟨w, h, ⟨before, origin, since, hl, hcall⟩, hwidth, hheight⟩
  bitmapFound := by
    rintro id width height ⟨before, origin, since, hl, hcall⟩
    obtain ⟨s, hfind, hf⟩ := find?_of_lineage settings sink calls hl
    obtain ⟨b, hb, hwidth, hheight, -⟩ := hf.bitmap hcall
    exact ⟨s, b, hfind, hb, hwidth, hheight⟩

end Host

namespace Tells

variable {σ : Type} {past : List Entry} {s : Stage σ}

theorem notText (ht : Tells past s) (id : Ident) :
    ¬ LiveText id past ↔ ∀ sp t, s.sprites.find? id = some sp → sp.figure ≠ .text t := by
  rw [ht.text]
  push Not
  rfl

theorem notBitmap (ht : Tells past s) (id : Ident) :
    (∀ width height, ¬ LiveBitmap id width height past) ↔
      ∀ sp b, s.sprites.find? id = some sp → sp.figure ≠ .bitmap b := by
  constructor
  · intro hgone sp b hfind hb
    obtain ⟨width, height, hl, -⟩ := ht.bitmap hfind hb
    exact hgone width height hl
  · intro hother width height hl
    obtain ⟨sp, b, hfind, hb, -⟩ := ht.bitmapFound hl
    exact hother sp b hfind hb

end Tells

/-! ## The rules of failure -/

/-- The ways in which a call fails after a history, and with which fault. -/
inductive FailsAfter (limit : UInt32) (past : List Entry) : Call → Fault → Prop where
  | canvasSize {width height : Int32} (beyond : ¬ Extent.Within limit width height) :
    FailsAfter limit past (.createCanvas width height)
      (.invalidDimensions width.toInt height.toInt)
  | bitmapSize {width height : Int32} (beyond : ¬ Extent.Within limit width height) :
    FailsAfter limit past (.createBitmap width height)
      (.invalidDimensions width.toInt height.toInt)
  | fontSize {size : Int32} (small : size.toInt ≤ 0) (text : String) (color : Argb) :
    FailsAfter limit past (.createText text color size) (.rejected (.fontSize size))
  | modifyTextView {id : Ident} (gone : ¬ Live .textView id past) (text : String) :
    FailsAfter limit past (.modifyTextView id text) (.notFound .textView id)
  | setText {id : Ident} (gone : ¬ LiveText id past) (text : String) :
    FailsAfter limit past (.setText id text) (.notFound .sprite id)
  | modifyBitmap {id : Ident} (gone : ∀ width height, ¬ LiveBitmap id width height past)
      (x y : Int32) (color : Argb) :
    FailsAfter limit past (.modifyBitmap id x y color) (.notFound .sprite id)
  | outside {id : Ident} {width height x y : Int32} (live : LiveBitmap id width height past)
      (out : ¬ ((0 ≤ x.toInt ∧ x.toInt < width.toInt) ∧ 0 ≤ y.toInt ∧ y.toInt < height.toInt))
      (color : Argb) :
    FailsAfter limit past (.modifyBitmap id x y color)
      (.outOfBounds id x y width.toUInt32 height.toUInt32)
  | bitmapSetPixels {id : Ident} (gone : ∀ width height, ¬ LiveBitmap id width height past)
      (words : List UInt32) :
    FailsAfter limit past (.bitmapSetPixels id words) (.notFound .sprite id)
  | pixelCount {id : Ident} {width height : Int32} {words : List UInt32}
      (live : LiveBitmap id width height past)
      (count : (words.length : Int) ≠ width.toInt * height.toInt) :
    FailsAfter limit past (.bitmapSetPixels id words)
      (.rejected (.pixelCount (width.toInt * height.toInt).toNat words.length))
  | bitmapSetPosition {id : Ident} (gone : ¬ Live .sprite id past) (left top : Int32) :
    FailsAfter limit past (.bitmapSetPosition id left top) (.notFound .sprite id)
  | bitmapSetZIndex {id : Ident} (gone : ¬ Live .sprite id past) (z : Int32) :
    FailsAfter limit past (.bitmapSetZIndex id z) (.notFound .sprite id)
  | attachedSprite {sprite : Ident} (gone : ¬ Live .sprite sprite past) (canvas : Ident) :
    FailsAfter limit past (.canvasAddBitmap canvas sprite) (.notFound .sprite sprite)
  | attachingCanvas {canvas sprite : Ident} (live : Live .sprite sprite past)
      (never : ∀ e ∈ past, e.created? ≠ some (.canvas, canvas)) :
    FailsAfter limit past (.canvasAddBitmap canvas sprite) (.notFound .canvas canvas)
  | canvasRemoveBitmap {canvas : Ident} (never : ∀ e ∈ past, e.created? ≠ some (.canvas, canvas))
      (sprite : Ident) :
    FailsAfter limit past (.canvasRemoveBitmap canvas sprite) (.notFound .canvas canvas)
  | canvasRedraw {canvas : Ident} (never : ∀ e ∈ past, e.created? ≠ some (.canvas, canvas)) :
    FailsAfter limit past (.canvasRedraw canvas) (.notFound .canvas canvas)
  | registerOnClick {id : Ident} (never : ∀ e ∈ past, e.created? ≠ some (.button, id))
      (callback : Callback) :
    FailsAfter limit past (.registerOnClick id callback) (.notFound .button id)
  | pressButton {id : Ident} (never : ∀ e ∈ past, e.created? ≠ some (.button, id)) :
    FailsAfter limit past (.pressButton id) (.notFound .button id)

namespace Extent

/-- Dimensions that are those of a request are the words that were requested. -/
theorem eq_of_toInt {e : Extent} {width height : Int32} (hwidth : e.width.toNat = width.toInt)
    (hheight : e.height.toNat = height.toInt) :
    e.width = width.toUInt32 ∧ e.height = height.toUInt32 := by
  have hword {n : UInt32} {v : Int32} (h : n.toNat = v.toInt) : n = v.toUInt32 := by
    have hnat : v.toUInt32.toNat = v.toInt.toNat := toNat_toUInt32_of_nonneg (by omega)
    exact UInt32.toNat_inj.mp (by omega)
  exact ⟨hword hwidth, hword hheight⟩

theorem covers_iff_of_toInt {e : Extent} {width height : Int32}
    (hwidth : e.width.toNat = width.toInt) (hheight : e.height.toNat = height.toInt) (x y : Int) :
    e.Covers x y ↔ (0 ≤ x ∧ x < width.toInt) ∧ 0 ≤ y ∧ y < height.toInt := by
  unfold Covers
  omega

theorem area_of_toInt {e : Extent} {width height : Int32} (hwidth : e.width.toNat = width.toInt)
    (hheight : e.height.toNat = height.toInt) : (e.area : Int) = width.toInt * height.toInt := by
  rw [area, Int.natCast_mul, hwidth, hheight]

end Extent

namespace Host

variable {σ : Type} {h : Host σ} {past : List Entry} {c : Call} {fault : Fault}

/-- A refusal by what is found on the stage is one by what the history tells. -/
theorem Refuses.failsAfter (hr : h.Refuses c fault) (hs : h.stage.Sound)
    (ht : Tells past h.stage) : FailsAfter h.stage.settings.limit past c fault := by
  cases hr with
  | noTextView absent text => exact .modifyTextView ((ht.textView _).mpr absent) text
  | canvasSize beyond => exact .canvasSize beyond
  | bitmapSize beyond => exact .bitmapSize beyond
  | fontSize small text color => exact .fontSize small text color
  | noText other text => exact .setText ((ht.notText _).mpr other) text
  | noBitmap other x y color => exact .modifyBitmap ((ht.notBitmap _).mpr other) x y color
  | outside found shape out color =>
    -- the bitmap has the dimensions that its creation asked for
    obtain ⟨width, height, hl, hwidth, hheight⟩ := ht.bitmap found shape
    obtain ⟨ew, eh⟩ := Extent.eq_of_toInt hwidth hheight
    rw [Extent.covers_iff_of_toInt hwidth hheight] at out
    rw [ew, eh]
    exact .outside hl out color
  | noBitmapForPixels other words => exact .bitmapSetPixels ((ht.notBitmap _).mpr other) words
  | pixelCount found shape count =>
    -- and as many pixels as these dimensions have points
    obtain ⟨width, height, hl, hwidth, hheight⟩ := ht.bitmap found shape
    have harea := Extent.area_of_toInt hwidth hheight
    rw [(hs.sprite found).size_eq _ shape] at count ⊢
    have hnat := congrArg Int.toNat harea
    rw [Int.toNat_natCast] at hnat
    rw [hnat]
    exact .pixelCount hl (by omega)
  | noSpriteToMove absent left top => exact .bitmapSetPosition ((ht.sprite _).mpr absent) left top
  | noSpriteToLift absent z => exact .bitmapSetZIndex ((ht.sprite _).mpr absent) z
  | noSpriteToAttach absent canvas => exact .attachedSprite ((ht.sprite _).mpr absent) canvas
  | noCanvasToAttach live absent =>
    -- the sprite was found first, so it is live
    refine .attachingCanvas ?_ ((ht.canvas _).mpr absent)
    by_contra hgone
    rw [(ht.sprite _).mp hgone] at live
    cases live
  | noCanvasToDetach absent sprite => exact .canvasRemoveBitmap ((ht.canvas _).mpr absent) sprite
  | noCanvasToRedraw absent => exact .canvasRedraw ((ht.canvas _).mpr absent)
  | noButtonToRoute absent callback => exact .registerOnClick ((ht.button _).mpr absent) callback
  | noButtonToPress absent => exact .pressButton ((ht.button _).mpr absent)

/-- A failure by what the history tells is a refusal by what is found on the stage. -/
theorem refuses_of_failsAfter (hf : FailsAfter h.stage.settings.limit past c fault)
    (hs : h.stage.Sound) (ht : Tells past h.stage) : h.Refuses c fault := by
  cases hf with
  | canvasSize beyond => exact .canvasSize beyond
  | bitmapSize beyond => exact .bitmapSize beyond
  | fontSize small text color => exact .fontSize small text color
  | modifyTextView gone text => exact .noTextView ((ht.textView _).mp gone) text
  | setText gone text => exact .noText ((ht.notText _).mp gone) text
  | modifyBitmap gone x y color => exact .noBitmap ((ht.notBitmap _).mp gone) x y color
  | outside live out color =>
    obtain ⟨s, b, found, shape, hwidth, hheight⟩ := ht.bitmapFound live
    obtain ⟨ew, eh⟩ := Extent.eq_of_toInt hwidth hheight
    rw [← Extent.covers_iff_of_toInt hwidth hheight] at out
    rw [← ew, ← eh]
    exact .outside found shape out color
  | bitmapSetPixels gone words => exact .noBitmapForPixels ((ht.notBitmap _).mp gone) words
  | pixelCount live count =>
    obtain ⟨s, b, found, shape, hwidth, hheight⟩ := ht.bitmapFound live
    have harea := Extent.area_of_toInt hwidth hheight
    rw [← harea] at count ⊢
    rw [Int.toNat_natCast, ← (hs.sprite found).size_eq _ shape]
    refine .pixelCount found shape ?_
    rw [(hs.sprite found).size_eq _ shape]
    omega
  | bitmapSetPosition gone left top => exact .noSpriteToMove ((ht.sprite _).mp gone) left top
  | bitmapSetZIndex gone z => exact .noSpriteToLift ((ht.sprite _).mp gone) z
  | attachedSprite gone canvas => exact .noSpriteToAttach ((ht.sprite _).mp gone) canvas
  | attachingCanvas live never =>
    obtain ⟨s, hfind⟩ := Option.ne_none_iff_exists'.mp fun hnone => (ht.sprite _).mpr hnone live
    exact .noCanvasToAttach hfind ((ht.canvas _).mp never)
  | canvasRemoveBitmap never sprite => exact .noCanvasToDetach ((ht.canvas _).mp never) sprite
  | canvasRedraw never => exact .noCanvasToRedraw ((ht.canvas _).mp never)
  | registerOnClick never callback => exact .noButtonToRoute ((ht.button _).mp never) callback
  | pressButton never => exact .noButtonToPress ((ht.button _).mp never)

/-- **Exactly these failures.** After every run a call fails with a fault exactly if a rule of
`FailsAfter` says so, under the limit of the settings and after the history of the run. -/
theorem fails_iff [EventSink σ] (settings : Settings) (sink : σ) (calls : List Call) (c : Call)
    (fault : Fault) :
    ((start settings sink).run calls).answer c = .error fault ↔
      FailsAfter settings.limit ((start settings sink).history calls) c fault := by
  have hs := sound_run settings sink calls
  have ht := tells_run settings sink calls
  rw [answer_eq_error_iff hs, ← congrArg Settings.limit (settings_run settings sink calls)]
  exact ⟨fun hr => hr.failsAfter hs ht, fun hf => refuses_of_failsAfter hf hs ht⟩

end Host

end SpriteStage
