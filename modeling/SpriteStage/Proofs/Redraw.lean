/-
What a redraw shows.

A redraw resolves the references of a canvas, sorts what is left and draws it on the raster of the
canvas, over whatever the raster held. The raster then shows the scene: one layer for every
reference that resolves, by depth and then by order of creation, the bitmaps composited pixel by
pixel and the texts in a list. The number of the frame goes up by one, and nothing else changes.
Because the scene does not mention what was there before, the same plan on a new raster gives the
same picture.
-/
import SpriteStage.Proofs.History

set_option autoImplicit false

namespace SpriteStage

/-- Rasters that show what a canvas has to show. The layers are the sprites of the references that
resolve, each as often as it is referred to and in painting order. -/
structure Canvas.ShownBy (c : Canvas) (sprites : SpriteTable) (clear : Argb) (layers : List Sprite)
    (r : Raster) : Prop where
  layers_perm : layers.Perm (c.references.filterMap sprites.find?)
  layers_live : ∀ l ∈ layers, sprites.find? l.id = some l
  painting_order : layers.Pairwise Sprite.PaintedBefore
  extent_eq : r.extent = c.extent
  pixel : ∀ x y : UInt32, x < c.extent.width → y < c.extent.height →
    r.readback.pixel? x y = some (layers.foldl (Sprite.paint x.toNat y.toNat) clear.premultiply)
  runs_eq : r.runs.toList = layers.filterMap Sprite.textRun?

/-- A raster that holds the picture and the texts of its plan shows a canvas. -/
theorem Canvas.shownBy_picture {σ : Type} {s : Stage σ} (hs : s.Sound) (c : Canvas) (clear : Argb)
    (frame : UInt64) :
    c.ShownBy s.sprites clear (c.plan s.sprites clear).ops
      ⟨c.extent, (c.plan s.sprites clear).picture c.extent, (c.plan s.sprites clear).runs,
        frame⟩ where
  layers_perm := c.ops_perm s.sprites clear
  layers_live := by
    intro l hl
    obtain ⟨id, -, hfind⟩ := mem_ops.mp hl
    rw [(hs.sprite hfind).id_eq]
    exact hfind
  painting_order := c.ops_pairwise s.sprites clear
  extent_eq := rfl
  pixel := by
    intro x y hx hy
    exact Raster.pixel?_of_picture (p := c.plan s.sprites clear) rfl hx hy
  runs_eq := rfl

theorem Raster.filled_blank {e : Extent} (he : e.area < 2 ^ 63) : (Raster.blank e).Filled :=
  ⟨Array.size_replicate, he⟩

namespace Stage

variable {σ : Type} [EventSink σ] {s : Stage σ}

/-- **A redraw presents the scene.** On every stage that a run can end on, redrawing a canvas answers
with the next number of its frame. Its raster then shows the canvas, and nothing else has changed.
Carrying out the plan of the canvas on a new raster of its extent gives the same picture and the
same texts. -/
theorem redraw_presents_scene (hs : s.Reachable) {id : Ident} {c : Canvas}
    (hc : s.canvases.find? id = some c) :
    ∃ layers r,
      c.ShownBy s.sprites s.settings.clear layers r ∧
      r.frame = c.raster.frame + 1 ∧
      (redrawCanvas id).runOn s =
        (.ok (c.raster.frame + 1), s.storeCanvas id { c with raster := r }) ∧
      ∃ plan, s.planOf id = .ok plan ∧
        (Plan.execute plan).runOn (Raster.blank c.extent) = (.ok 1, { r with frame := 1 }) := by
  have hsound := hs.sound
  have hcanvas := hsound.canvas hc
  -- the layers are the operations of the plan, and the raster is the one of the redrawn canvas
  refine ⟨(c.plan s.sprites s.settings.clear).ops,
    (c.redrawn s.sprites s.settings.clear).raster, ?_, rfl, runOn_redrawCanvas hsound hc,
    c.plan s.sprites s.settings.clear, ?_, ?_⟩
  · rw [Canvas.redrawn, hcanvas.raster_extent]
    exact c.shownBy_picture hsound s.settings.clear (c.raster.frame + 1)
  · rw [planOf, canvas, hc]
    rfl
  · -- a new raster fills its extent too, and that is all that a plan asks of a raster
    rw [Canvas.runOn_execute hsound c s.settings.clear
      (Raster.filled_blank hcanvas.extent.area_lt), Canvas.redrawn, hcanvas.raster_extent]
    rfl

/-- A canvas that refers twice to one bitmap, once to a text and once to a deleted sprite shows three
layers on its first redraw. -/
theorem redraw_three_layers :
    let s : Stage Recorder := ((Host.start {} {}).run
      [.createCanvas 3 2, .createBitmap 1 1, .createBitmap 2 2, .createText "hi" .black 12,
        .bitmapSetPixels 1 [0x80ff0000], .bitmapSetPosition 1 2 1, .canvasAddBitmap 1 3,
        .canvasAddBitmap 1 1, .canvasAddBitmap 1 2, .canvasAddBitmap 1 1,
        .canvasDeleteBitmap 2]).stage
    ∃ c layers r, s.canvases.find? 1 = some c ∧ layers.length = 3 ∧
      c.ShownBy s.sprites s.settings.clear layers r ∧
      (redrawCanvas 1).runOn s = (.ok 1, s.storeCanvas 1 { c with raster := r }) := by
  intro s
  have hs : s.Reachable := ⟨{}, {}, _, rfl⟩
  have hc : s.canvases.find? 1 =
      some { Canvas.blank 1 ⟨3, 2⟩ with references := [3, 1, 2, 1] } := by decide +kernel
  have hcount : (([3, 1, 2, 1] : List Ident).filterMap s.sprites.find?).length = 3 := by
    decide +kernel
  obtain ⟨layers, r, hshown, -, hredraw, -⟩ := redraw_presents_scene hs hc
  exact ⟨_, layers, r, hc, hshown.layers_perm.length_eq.trans hcount, hshown, hredraw⟩

end Stage

end SpriteStage
