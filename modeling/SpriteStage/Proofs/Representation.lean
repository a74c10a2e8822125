/-
How a stage is represented, and why nothing on it is ever addressed out of range.

Tables, flat arrays and counters depend on one another: what stands under an id has that id, the id
was issued, a bitmap has one color for each point, a raster one pixel, and a canvas refers to ids
that were issued. Every run keeps all of it (`Host.run_represented`). The parts that speak about one
element are `Sprite.Sound` and `Canvas.Sound`; the parts that compare ids with the counters are
`Stage.Numbered`, and hold as long as no counter has gone around.

The indices that the operations compute then lie in the arrays that they are used on. For the pixels
of a bitmap or of a frame this is one comparison. For a redraw it is one for each row of each blit,
at the moment when the row is composited (`Raster.BlitInside`): the positions are computed in signed
words, none of which is negative, the two runs end inside, and they have the same length.
-/
import SpriteStage.Proofs.References

set_option autoImplicit false

namespace SpriteStage

/-! ## The rows of a blit -/

namespace Clip

variable {target source : Extent} {left top : Int32}

/-- Rows of a window for which no negative word is computed. -/
structure NonNegative (c : Clip) (target source : Extent) (left top : Int32) (row : Int64) :
    Prop where
  source : 0 ≤ row * widen source.width + c.x0
  target : 0 ≤ (row + top.toInt64) * widen target.width + c.x0 + left.toInt64
  count : 0 ≤ c.x1 - c.x0

/-- The span of a row is the one of that row of the window, and the spans before it are those of the
rows above. -/
theorem getElem?_spans {k : Nat} {s : Span} (h : (spans target source left top)[k]? = some s) :
    let c := visible target source left top
    lower left < upper target.width source.width left ∧
      lower top + k < upper target.height source.height top ∧
      s = c.span target source left top (c.y0 + Int64.ofNat k) ∧
      (spans target source left top).take k =
        (List.range k).map fun i => c.span target source left top (c.y0 + Int64.ofNat i) := by
  intro c
  by_cases hempty : c.isEmpty = true
  · have hnil : spans target source left top = [] := if_pos hempty
    rw [hnil] at h
    cases h
  · have hspans : spans target source left top = (List.range (c.y1 - c.y0).toNatClampNeg).map
        fun i => c.span target source left top (c.y0 + Int64.ofNat i) := if_neg hempty
    rw [isEmpty_visible, not_or] at hempty
    rw [rows_visible (by omega)] at hspans
    rw [hspans, List.getElem?_map, Option.map_eq_some_iff] at h
    obtain ⟨i, hi, rfl⟩ := h
    obtain ⟨hk, rfl⟩ := List.getElem?_eq_some_iff.mp hi
    rw [List.length_range] at hk
    rw [List.getElem_range, hspans, ← List.map_take, List.take_range, Nat.min_eq_left (by omega)]
    exact ⟨by omega, by omega, rfl, rfl⟩

end Clip

namespace Raster

/-- Blits that stay inside. Each row is computed without a negative word. When its turn comes, its
runs lie inside the pixels of the bitmap and of the raster, and have the same length. -/
def BlitInside (r : Raster) (left top : Int32) (b : Bitmap) : Prop :=
  let c := Clip.visible r.extent b.extent left top
  let spans := Clip.spans r.extent b.extent left top
  ∀ k s, spans[k]? = some s →
    (∃ row, s = c.span r.extent b.extent left top row ∧
      c.NonNegative r.extent b.extent left top row) ∧
    ∃ r' pixels, (blendSpans b.pixels (spans.take k)).runOn r = (.ok (), r') ∧
      s.source + s.count ≤ b.pixels.size ∧ s.target + s.count ≤ r'.pixels.size ∧
      overRow (r'.pixels.extract s.target (s.target + s.count))
        ((b.pixels.extract s.source (s.source + s.count)).map Argb.premultiply) = .ok pixels

/-- Runs of the same length inside their arrays can be composited. -/
theorem overRow_of_inside {pixels : Array Rgba} {colors : Array Argb} {s : Span}
    (hs : s.source + s.count ≤ colors.size) (ht : s.target + s.count ≤ pixels.size) :
    ∃ row, overRow (pixels.extract s.target (s.target + s.count))
      ((colors.extract s.source (s.source + s.count)).map Argb.premultiply) = .ok row := by
  refine ⟨_, if_pos ?_⟩
  simp only [Array.size_extract, Array.size_map]
  omega

/-- **No blit leaves its arrays.** -/
theorem blitInside {r : Raster} (hr : r.Filled) (left top : Int32) {b : Bitmap} (hb : b.Filled) :
    r.BlitInside left top b := by
  intro k s hk
  obtain ⟨hcols, hrows, hs, htake⟩ := Clip.getElem?_spans hk
  obtain ⟨hsource, htarget⟩ : s.source + s.count ≤ b.pixels.size ∧
      s.target + s.count ≤ r.pixels.size := by
    rw [hs.trans (Clip.span_eq hr.fits hb.fits hcols hrows), hb.size_eq, hr.size_eq]
    exact Clip.row_inside hcols hrows
  refine ⟨⟨_, hs, ?_⟩, ?_⟩
  · obtain ⟨hfrom, hto, hcount⟩ := Clip.toInt_row hr.fits hb.fits hcols hrows
    refine ⟨?_, ?_, ?_⟩
    · rw [Int64.le_iff_toInt_le, hfrom]
      exact Int.natCast_nonneg _
    · rw [Int64.le_iff_toInt_le, hto]
      exact Int.natCast_nonneg _
    · rw [Int64.le_iff_toInt_le, hcount]
      exact Int.natCast_nonneg _
  · -- the rows above have changed pixels, but not their number
    have hbefore := runOn_blendSpans hr hb hcols k (Int.le_of_lt hrows)
    rw [← htake] at hbefore
    rw [← size_recolor] at htarget
    obtain ⟨row, hrow⟩ := overRow_of_inside hsource htarget
    exact ⟨_, row, hbefore, hsource, htarget, hrow⟩

/-- Whatever sprites have been drawn, the raster has the shape that it had before the background. -/
theorem runOn_clear_drawAll {r : Raster} (hr : r.Filled) (color : Argb) {drawn : List Sprite}
    (hdrawn : ∀ s ∈ drawn, s.Drawable) :
    ∃ r', (do Surface.clear color; Plan.drawAll drawn : Attempt Raster Unit).runOn r = (.ok (), r') ∧
      r'.extent = r.extent ∧ r'.Filled := by
  have hclear : (Surface.clear color : Attempt Raster Unit) = modify (fill color) := rfl
  have hfilled := hr.fill color
  refine ⟨((r.fill color).recolor fun x y p => drawn.foldl (Sprite.paint x y) p).addRuns
    (drawn.filterMap Sprite.textRun?), ?_, rfl, (hfilled.recolor _).addRuns _⟩
  simp only [Attempt.runOn_bind, hclear, Attempt.runOn_modify, runOn_drawAll hfilled hdrawn]

end Raster

/-! ## Ids and counters -/

/-- Stages on which every id is one that was issued: it lies between one and the counter. -/
structure Stage.Numbered {σ : Type} (s : Stage σ) : Prop where
  sprite : ∀ {id sp}, s.sprites.find? id = some sp → 1 ≤ id ∧ id ≤ s.counters.last .sprite
  canvas : ∀ {id c}, s.canvases.find? id = some c → 1 ≤ id ∧ id ≤ s.counters.last .canvas
  reference : ∀ {id c}, s.canvases.find? id = some c →
    ∀ ref ∈ c.references, 1 ≤ ref ∧ ref ≤ s.counters.last .sprite

namespace Host

variable {σ : Type} [EventSink σ] {settings : Settings} {sink : σ} {calls : List Call}

theorem bounds_of_issued (hfew : Unexhausted ((start settings sink).history calls)) {k : Kind}
    {id : Ident} (hid : id ∈ issued k ((start settings sink).history calls)) :
    1 ≤ id ∧ id ≤ ((start settings sink).run calls).stage.counters.last k := by
  -- the ids issued are the first numbers, as many as there were creations
  rw [issued_eq_numbered] at hid
  obtain ⟨i, hi⟩ := List.mem_iff_getElem?.mp hid
  have hlt := (List.getElem?_eq_some_iff.mp hi).1
  rw [length_numbered] at hlt
  have hnat := toNat_of_numbered (hfew k) hi
  have hone : (1 : Ident).toNat = 1 := rfl
  rw [UInt32.le_iff_toNat_le, UInt32.le_iff_toNat_le, toNat_last_run hfew k, hnat, hone]
  omega

theorem numbered_run (hfew : Unexhausted ((start settings sink).history calls)) :
    ((start settings sink).run calls).stage.Numbered where
  sprite := by
    intro id sp hfind
    have hlive := (has_run_iff settings sink calls .sprite id).mp (Option.isSome_of_eq_some hfind)
    exact bounds_of_issued hfew (mem_issued_of_live hlive)
  canvas := by
    intro id c hfind
    have hlive := (has_run_iff settings sink calls .canvas id).mp (Option.isSome_of_eq_some hfind)
    exact bounds_of_issued hfew (mem_issued_of_live hlive)
  reference := by
    intro id c hfind ref href
    rw [← Stage.references_of_find? hfind] at href
    exact bounds_of_issued hfew (mem_issued_of_reference settings sink calls id ref href)

end Host

/-! ## Indices -/

/-- Stages on which nothing is addressed out of range: no pixel of a bitmap, no byte of a frame, and
no row of a blit while a canvas is redrawn, so that the redraw goes through. -/
structure Stage.InBounds {σ : Type} (s : Stage σ) : Prop where
  pixel : ∀ {id sp b x y i}, s.sprites.find? id = some sp → sp.figure = .bitmap b →
    b.extent.index? x y = some i → i < b.pixels.size
  frame : ∀ {id c} {x y : UInt32}, s.canvases.find? id = some c →
    x < c.extent.width → y < c.extent.height →
      (y.toNat * c.extent.width.toNat + x.toNat) * 4 + 3 < c.raster.readback.data.size
  row : ∀ {id c plan}, s.canvases.find? id = some c → s.planOf id = .ok plan →
    ∀ {drawn sp rest}, plan.ops = drawn ++ sp :: rest →
      ∃ r, (do Surface.clear plan.clear; Plan.drawAll drawn : Attempt Raster Unit).runOn c.raster =
          (.ok (), r) ∧
        r.pixels.size = c.extent.area ∧
        ∀ {b}, sp.figure = .bitmap b → r.BlitInside sp.left sp.top b
  redraw : ∀ {id c}, s.canvases.find? id = some c →
    ((redrawCanvas id).runOn s).1 = .ok (c.raster.frame + 1)

namespace Stage

variable {σ : Type} {s : Stage σ} {id : Ident} {c : Canvas}

theorem planOf_of_find? (hfind : s.canvases.find? id = some c) :
    s.planOf id = .ok (c.plan s.sprites s.settings.clear) := by
  rw [planOf, canvas, hfind]
  rfl

theorem Sound.size_readback (hs : s.Sound) (hfind : s.canvases.find? id = some c) :
    c.raster.readback.data.size = 4 * c.extent.area := by
  have hsize : c.raster.readback.data.size = 4 * c.raster.pixels.size := Frame.size_bytesOf _
  rw [hsize, (hs.canvas hfind).raster_size]

/-- **A sound stage is in bounds.** -/
theorem Sound.inBounds (hs : s.Sound) : s.InBounds where
  pixel := by
    intro id sp b x y i hfind hf hi
    rw [Extent.index?_eq] at hi
    split at hi
    · next hcovers =>
      cases hi
      rw [(hs.sprite hfind).size_eq b hf]
      exact hcovers.index_lt
    · cases hi
  frame := by
    intro id c x y hfind hx hy
    have hlt := Extent.rowMajor_lt_area hx hy
    rw [hs.size_readback hfind]
    omega
  row := by
    intro id c plan hfind hplan drawn sp rest hsplit
    rw [planOf_of_find? hfind] at hplan
    cases hplan
    have hdrawable : ∀ t ∈ drawn ++ sp :: rest, t.Drawable := by
      rw [← hsplit]
      exact Canvas.drawable_of_mem_ops hs
    have hcanvas := hs.canvas hfind
    obtain ⟨r, hrun, hextent, hr⟩ := Raster.runOn_clear_drawAll hcanvas.filled s.settings.clear
      fun t ht => hdrawable t (List.mem_append_left _ ht)
    refine ⟨r, hrun, ?_, ?_⟩
    · rw [hr.size_eq, hextent, hcanvas.raster_extent]
    · intro b hb
      have hsp := hdrawable sp (List.mem_append_right _ List.mem_cons_self)
      exact Raster.blitInside hr sp.left sp.top (hsp b hb)
  redraw := by
    intro id c hfind
    rw [runOn_redrawCanvas hs hfind]

end Stage

namespace Host

variable {σ : Type} [EventSink σ]

/-- **The representation of a stage.** After every run, sprites and canvases stand under their own
ids and are as they were checked when they were created, with one color for each point of a bitmap
and four bytes for each point of a frame. A plan has the dimensions of its canvas. All ids, those of
references too, lie between one and their counter, as long as no counter has gone around. And
nothing is addressed out of range, whatever is read, written or redrawn next. -/
theorem run_represented (settings : Settings) (sink : σ) (calls : List Call) :
    let s := ((start settings sink).run calls).stage
    (∀ {id sp}, s.sprites.find? id = some sp → sp.Sound settings.limit id) ∧
    (∀ {id c}, s.canvases.find? id = some c → c.Sound settings.limit id ∧
      c.raster.readback.data.size = 4 * (c.extent.width.toNat * c.extent.height.toNat) ∧
      ∃ plan, s.planOf id = .ok plan ∧ plan.extent = c.extent) ∧
    (Unexhausted ((start settings sink).history calls) → s.Numbered) ∧
    s.InBounds := by
  intro s
  have hs : s.Sound := sound_run settings sink calls
  have hsettings : s.settings = settings := settings_run settings sink calls
  refine ⟨?_, ?_, numbered_run, hs.inBounds⟩
  · intro id sp hfind
    rw [← hsettings]
    exact hs.sprite hfind
  · intro id c hfind
    rw [← hsettings]
    exact ⟨hs.canvas hfind, hs.size_readback hfind, _, Stage.planOf_of_find? hfind, rfl⟩

/-- A canvas of three by two points refers to a bitmap that sticks out at its upper right corner and
to a text. Its frame has 24 bytes, the references are ids that were issued, and the redraw goes
through. -/
theorem run_represented_corner :
    let calls : List Call := [.createCanvas 3 2, .createBitmap 2 2, .createText "hi" .black 12,
      .canvasAddBitmap 1 1, .canvasAddBitmap 1 2, .bitmapSetPosition 1 2 (-1)]
    let s : Stage Recorder := ((start {} {}).run calls).stage
    ∃ c, s.canvases.find? 1 = some c ∧ c.references = [1, 2] ∧
      (∀ ref ∈ c.references, 1 ≤ ref ∧ ref ≤ s.counters.last .sprite) ∧
      c.raster.readback.data.size = 24 ∧ ((Stage.redrawCanvas 1).runOn s).1 = .ok 1 := by
  intro calls s
  have hfew : Unexhausted ((start {} {} : Host Recorder).history calls) := by
    intro k
    cases k <;> decide +kernel
  obtain ⟨-, hcanvases, hnumbered, hbounds⟩ := run_represented {} ({} : Recorder) calls
  have hcanvas : (s.canvases.find? 1).map (fun c => (c.extent, c.references, c.raster.frame)) =
      some (⟨3, 2⟩, [1, 2], 0) := by decide +kernel
  obtain ⟨c, hfind, hfields⟩ := Option.map_eq_some_iff.mp hcanvas
  obtain ⟨hextent, hreferences, hframe⟩ : c.extent = ⟨3, 2⟩ ∧ c.references = [1, 2] ∧
      c.raster.frame = 0 := by simpa using hfields
  obtain ⟨-, hbytes, -⟩ := hcanvases hfind
  have hredraw := hbounds.redraw hfind
  rw [hextent] at hbytes
  rw [hframe] at hredraw
  exact ⟨c, hfind, hreferences, (hnumbered hfew).reference hfind, hbytes, hredraw⟩

end Host

end SpriteStage
