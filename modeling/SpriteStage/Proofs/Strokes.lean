/-
Strokes: the drawing calls of a surface as data, and what every raster has in common that they lead
to.

A raster starts transparent and is then filled, composited upon, written upon and presented, in any
order and any number of times. Its shape never changes, and neither does anything that transparent
black and the pixel of every color have and that compositing a color keeps (`Raster.Holds.strokes`).
No bitmap has to be well formed for that: a blit that fails half way has composited what it has
composited.

The property that this file is after is that pixels stay premultiplied. It is what the holds at 255
in the arithmetic of pixels are there to make sure of, and since it is kept anyway, they never change
a value (`Raster.strokes_premultiplied`).
-/
import Mathlib.Data.List.Induction
import SpriteStage.Proofs.Picture
import SpriteStage.Proofs.Rounding

set_option autoImplicit false

namespace SpriteStage

/-- A drawing call on a surface. -/
inductive Stroke where
  | clear (color : Argb)
  | blit (left top : Int32) (b : Bitmap)
  | text (left top : Int32) (t : Label)
  | present

/-- Makes a drawing call. -/
def Stroke.perform {σ : Type} [Surface σ] : Stroke → Attempt σ Unit
  | .clear color => Surface.clear color
  | .blit left top b => Surface.blit left top b
  | .text left top t => Surface.drawText left top t
  | .present => do let _ ← (Surface.present : Attempt σ UInt64); return ()

namespace Raster

/-- The raster that a drawing call leaves, whether or not the call goes through. -/
def stroke (r : Raster) (s : Stroke) : Raster := ((s.perform : Attempt Raster Unit).runOn r).2

/-- The raster that drawing calls leave, one after the other. -/
def strokes (r : Raster) (ss : List Stroke) : Raster := ss.foldl stroke r

theorem stroke_clear (color : Argb) (r : Raster) : r.stroke (.clear color) = r.fill color := rfl

theorem stroke_blit (left top : Int32) (b : Bitmap) (r : Raster) :
    r.stroke (.blit left top b) =
      ((blendSpans b.pixels (Clip.spans r.extent b.extent left top)).runOn r).2 := by
  have hperform : ((Stroke.blit left top b).perform : Attempt Raster Unit) = blit left top b := rfl
  rw [stroke, hperform]
  simp only [blit, Attempt.runOn_bind, Attempt.runOn_get]

theorem stroke_text (left top : Int32) (t : Label) (r : Raster) :
    r.stroke (.text left top t) = r.addRun left top t := rfl

theorem runOn_present (r : Raster) :
    (Surface.present : Attempt Raster UInt64).runOn r =
      (.ok (r.frame + 1), { r with frame := r.frame + 1 }) := by
  have hpresent : (Surface.present : Attempt Raster UInt64) =
      (do modify fun r => { r with frame := r.frame + 1 }; return (← get).frame) := rfl
  rw [hpresent]
  simp only [Attempt.runOn_bind, Attempt.runOn_modify, Attempt.runOn_get, Attempt.runOn_pure]

theorem stroke_present (r : Raster) : r.stroke .present = { r with frame := r.frame + 1 } := by
  have hperform : (Stroke.present.perform : Attempt Raster Unit) =
      (Surface.present : Attempt Raster UInt64) >>= fun _ => pure () := rfl
  rw [stroke, hperform]
  simp only [Attempt.runOn_bind, runOn_present, Attempt.runOn_pure]

/-! ## What drawing calls keep -/

/-- Rasters of an extent on which every pixel has a property. -/
structure Holds (e : Extent) (P : Rgba → Prop) (r : Raster) : Prop where
  extent_eq : r.extent = e
  size_eq : r.pixels.size = e.area
  pixel : ∀ p ∈ r.pixels, P p

theorem mem_write {pixels : Array Rgba} {i : Nat} {ps : List Rgba} {p : Rgba}
    (h : p ∈ write pixels i ps) : p ∈ pixels ∨ p ∈ ps := by
  induction ps generalizing pixels i with
  | nil => exact .inl h
  | cons q rest ih =>
    rw [write] at h
    rcases ih h with hset | hrest
    · rcases Array.mem_or_eq_of_mem_setIfInBounds hset with hold | rfl
      · exact .inl hold
      · exact .inr List.mem_cons_self
    · exact .inr (List.mem_cons_of_mem q hrest)

/-- A pixel of a composited row is a color over a pixel of the row before. -/
theorem mem_zipWith_sourceOver {dst : Array Rgba} {src : Array Argb} {p : Rgba}
    (h : p ∈ Array.zipWith Rgba.sourceOver dst (src.map Argb.premultiply)) :
    ∃ d ∈ dst, ∃ c : Argb, p = d.sourceOver c.premultiply := by
  obtain ⟨i, hi, rfl⟩ := Array.mem_iff_getElem.mp h
  rw [Array.size_zipWith, Array.size_map] at hi
  rw [Array.getElem_zipWith, Array.getElem_map]
  exact ⟨_, Array.getElem_mem _, _, rfl⟩

namespace Holds

variable {e : Extent} {P : Rgba → Prop} {r : Raster}

theorem blendSpan (h : r.Holds e P)
    (blended : ∀ p (c : Argb), P p → P (p.sourceOver c.premultiply)) (source : Array Argb)
    (s : Span) : ((blendSpan source s).runOn r).2.Holds e P := by
  simp only [Raster.blendSpan, Attempt.runOn_bind, Attempt.runOn_get, overRow]
  split
  · next row hrow =>
    -- the row was composited: what is written is a color over some pixel of the raster
    split at hrow
    · cases hrow
      refine ⟨h.extent_eq, (size_write _ _ _).trans h.size_eq, ?_⟩
      intro p hp
      rcases mem_write hp with hold | hnew
      · exact h.pixel p hold
      · obtain ⟨d, hd, c, rfl⟩ := mem_zipWith_sourceOver (Array.mem_toList_iff.mp hnew)
        obtain ⟨k, hk, rfl⟩ := Array.mem_extract_iff_getElem.mp hd
        exact blended _ c (h.pixel _ (Array.getElem_mem _))
    · cases hrow
  · next hrow =>
    split at hrow
    · cases hrow
    · cases hrow
      exact h

theorem blendSpans (h : r.Holds e P)
    (blended : ∀ p (c : Argb), P p → P (p.sourceOver c.premultiply)) (source : Array Argb)
    (spans : List Span) : ((blendSpans source spans).runOn r).2.Holds e P := by
  induction spans generalizing r with
  | nil => exact h
  | cons s rest ih =>
    have hspan := h.blendSpan blended source s
    rw [Raster.blendSpans, Attempt.runOn_bind]
    split
    · next heq =>
      rw [heq] at hspan
      exact ih hspan
    · next heq =>
      rw [heq] at hspan
      exact hspan

/-- One drawing call keeps what every color has and compositing keeps. -/
theorem stroke (h : r.Holds e P) (color : ∀ c : Argb, P c.premultiply)
    (blended : ∀ p (c : Argb), P p → P (p.sourceOver c.premultiply)) (s : Stroke) :
    (r.stroke s).Holds e P := by
  cases s with
  | clear c =>
    rw [stroke_clear]
    refine ⟨h.extent_eq, Array.size_replicate.trans h.size_eq, ?_⟩
    intro p hp
    rw [Array.eq_of_mem_replicate hp]
    exact color c
  | blit left top b =>
    rw [stroke_blit]
    exact h.blendSpans blended b.pixels _
  | text left top t =>
    rw [stroke_text]
    exact ⟨h.extent_eq, h.size_eq, h.pixel⟩
  | present =>
    rw [stroke_present]
    exact ⟨h.extent_eq, h.size_eq, h.pixel⟩

/-- **Drawing calls keep their invariants.** What transparent black and the pixel of every color
have, and what compositing a color keeps, every pixel has after any drawing calls. -/
theorem strokes (clear : P .clear) (color : ∀ c : Argb, P c.premultiply)
    (blended : ∀ p (c : Argb), P p → P (p.sourceOver c.premultiply)) (e : Extent)
    (ss : List Stroke) : ((blank e).strokes ss).Holds e P := by
  -- the last call acts on the raster that the calls before it left
  induction ss using List.reverseRecOn with
  | nil =>
    refine ⟨rfl, Array.size_replicate, ?_⟩
    intro p hp
    rw [Array.eq_of_mem_replicate hp]
    exact clear
  | append_singleton ss s ih =>
    rw [Raster.strokes, List.foldl_append]
    exact ih.stroke color blended s

end Holds

/-- Every pixel is premultiplied after any drawing calls. -/
theorem holds_premultiplied (e : Extent) (ss : List Stroke) :
    ((blank e).strokes ss).Holds e Rgba.Premultiplied :=
  Holds.strokes Rgba.premultiplied_clear Argb.premultiplied_premultiply
    (fun _ c hp => hp.sourceOver c.premultiplied_premultiply) e ss

/-! ## Pixels of frames -/

/-- A pixel that can be read is one that the raster holds at a point inside. -/
theorem mem_of_pixel?_readback {r : Raster} {x y : UInt32} {p : Rgba}
    (h : r.readback.pixel? x y = some p) :
    (x < r.extent.width ∧ y < r.extent.height) ∧ p ∈ r.pixels := by
  have hin : x < r.extent.width ∧ y < r.extent.height := by
    rw [Frame.pixel?] at h
    split at h
    · next hin => exact hin
    · cases h
  rw [pixel?_readback hin.1 hin.2] at h
  refine ⟨hin, ?_⟩
  exact Array.mem_of_getElem? h

/-- A pixelwise change of a raster, seen at one point. -/
theorem pixel?_recolor {r : Raster} (f : Nat → Nat → Rgba → Rgba) {x y : UInt32}
    (hx : x < r.extent.width) (hy : y < r.extent.height) :
    (r.recolor f).readback.pixel? x y =
      (r.readback.pixel? x y).map (f x.toNat y.toNat) := by
  have hcolumn := UInt32.lt_iff_toNat_lt.mp hx
  rw [pixel?_readback hx hy, pixel?_readback (by exact hx) (by exact hy), recolor,
    Array.getElem?_mapIdx, rowMajor_div _ hcolumn, rowMajor_mod _ hcolumn]

/-- The straight form of a frame divides every pixel by its alpha. -/
theorem pixel?_toStraight (r : Raster) (x y : UInt32) :
    r.readback.toStraight.pixel? x y = (r.readback.pixel? x y).map Rgba.unpremultiply := by
  have hframe : r.readback.toStraight.pixel? x y =
      ({ r with pixels := r.pixels.map Rgba.unpremultiply } : Raster).readback.pixel? x y := by
    rw [toStraight_readback]
    rfl
  rw [hframe]
  by_cases hin : x < r.extent.width ∧ y < r.extent.height
  · rw [pixel?_readback hin.1 hin.2, pixel?_readback (by exact hin.1) (by exact hin.2),
      Array.getElem?_map]
  · rw [Frame.pixel?, if_neg (by exact hin), Frame.pixel?, if_neg (by exact hin), Option.map_none]

/-! ## No value is cut off -/

/-- **Pixels stay premultiplied, and no value is cut off.** After any drawing calls the colors of a
pixel do not exceed its alpha. Whatever color is composited over a pixel, each channel gets the exact
sum of the source and what the source lets through, which is at most 255. A blit composites the
colors of a bitmap over the pixels under it, wherever the bitmap is put. The straight form of the
frame has the exact quotients by the alpha, which are at most 255 too. -/
theorem strokes_premultiplied (e : Extent) (ss : List Stroke) :
    let r := (blank e).strokes ss
    (∀ p ∈ r.pixels, p.r ≤ p.a ∧ p.g ≤ p.a ∧ p.b ≤ p.a) ∧
    (∀ dst ∈ r.pixels, ∀ (color : Argb) k,
      (color.premultiply.channel k).toNat +
        scale (dst.channel k).toNat (255 - color.alpha.toNat) ≤ 255 ∧
      ((dst.sourceOver color.premultiply).channel k).toNat =
        (color.premultiply.channel k).toNat +
          scale (dst.channel k).toNat (255 - color.alpha.toNat)) ∧
    (e.area < 2 ^ 63 → ∀ left top b, b.Filled → ∃ r', (blit left top b).runOn r = (.ok (), r') ∧
      ∀ x y dst color, r.readback.pixel? x y = some dst →
        b.at? (x.toNat - left.toInt) (y.toNat - top.toInt) = some color →
        dst ∈ r.pixels ∧ r'.readback.pixel? x y = some (dst.sourceOver color.premultiply)) ∧
    ∀ x y p, r.readback.pixel? x y = some p →
      ∃ q, r.readback.toStraight.pixel? x y = some q ∧ q.a = p.a ∧ (p.a = 0 → q = .clear) ∧
        (p.a ≠ 0 → ∀ k ≠ .alpha, unscale (p.channel k).toNat p.a.toNat ≤ 255 ∧
          (q.channel k).toNat = unscale (p.channel k).toNat p.a.toNat) := by
  intro r
  obtain ⟨hextent, hsize, hpixel⟩ := holds_premultiplied e ss
  refine ⟨?_, ?_, ?_, ?_⟩
  · intro p hp
    exact ⟨(hpixel p hp).red, (hpixel p hp).green, (hpixel p hp).blue⟩
  · intro dst _ color k
    have hsum := Rgba.toNat_channel_sourceOver color.premultiplied_premultiply dst k
    exact ⟨hsum ▸ Rgba.toNat_le_255 _, hsum⟩
  · intro hfits left top b hb
    have hr : r.Filled := ⟨by rw [hextent]; exact hsize, by rw [hextent]; exact hfits⟩
    refine ⟨_, runOn_blit left top hr hb, ?_⟩
    intro x y dst color hdst hcolor
    obtain ⟨hin, hmem⟩ := mem_of_pixel?_readback hdst
    refine ⟨hmem, ?_⟩
    rw [pixel?_recolor _ hin.1 hin.2, hdst, hcolor]
    rfl
  · intro x y p hp
    have hpre := hpixel p (mem_of_pixel?_readback hp).2
    refine ⟨p.unpremultiply, ?_, p.a_unpremultiply, ?_, ?_⟩
    · rw [pixel?_toStraight, hp]
      rfl
    · intro ha
      rw [Rgba.unpremultiply, if_pos ha]
    · intro ha k hk
      have hquotient := hpre.toNat_channel_unpremultiply ha hk
      exact ⟨hquotient ▸ Rgba.toNat_le_255 _, hquotient⟩

/-- Green of a quarter alpha over red of half alpha: the sums are 96 of red and 160 of alpha. -/
theorem blit_green_over_red :
    let r := (blank ⟨1, 1⟩).strokes [.clear ⟨0x80ff0000⟩, .present]
    ∃ r' out, (blit 0 0 ⟨⟨1, 1⟩, #[⟨0x4000ff00⟩]⟩).runOn r = (.ok (), r') ∧
      r'.readback.pixel? 0 0 = some out ∧ (out.channel .red).toNat = 96 ∧
      (out.channel .alpha).toNat = 160 := by
  intro r
  obtain ⟨-, hsum, hblit, -⟩ := strokes_premultiplied ⟨1, 1⟩ [.clear ⟨0x80ff0000⟩, .present]
  obtain ⟨r', hrun, hpixel⟩ :=
    hblit (by decide) 0 0 ⟨⟨1, 1⟩, #[⟨0x4000ff00⟩]⟩ ⟨rfl, by decide⟩
  have hdst : r.readback.pixel? 0 0 = some ⟨128, 0, 0, 128⟩ := by decide +kernel
  obtain ⟨hmem, hout⟩ := hpixel 0 0 _ ⟨0x4000ff00⟩ hdst (by decide +kernel)
  refine ⟨r', _, hrun, hout, ?_, ?_⟩
  · exact (hsum _ hmem _ .red).2.trans (by decide)
  · exact (hsum _ hmem _ .alpha).2.trans (by decide)

end Raster

end SpriteStage
