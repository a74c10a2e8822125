/-
What a plan looks like.

A plan is carried out step by step on whatever its surface holds. On a raster the outcome can be said
without the steps and without the surface: the pixel in column `x` and row `y` is the background with
every sprite of the plan that covers the point composited over it in painting order (`Plan.pixel`),
the text runs are the texts of the plan (`Plan.runs`), and the frame number is one more than before.
That is `Raster.runOn_execute`. It also says that carrying out a plan never fails, and that nothing
of the frame before shines through.
-/
import SpriteStage.Proofs.Blit

set_option autoImplicit false

namespace SpriteStage

/-! ## Sprites as changes of pixels -/

namespace Sprite

/-- A pixel with a sprite painted over it. A text has no pixels of its own. -/
def paint (x y : Nat) (p : Rgba) (s : Sprite) : Rgba :=
  match s.figure with
  | .bitmap b => p.overlay (b.at? (x - s.left.toInt) (y - s.top.toInt))
  | .text _ => p

/-- The color that a sprite puts on a point, if it covers the point. -/
def colorAt? (x y : Nat) (s : Sprite) : Option Argb :=
  s.bitmap?.bind fun b => b.at? (x - s.left.toInt) (y - s.top.toInt)

/-- Painting a sprite over a pixel is compositing its color there. -/
theorem paint_eq_overlay (x y : Nat) (p : Rgba) (s : Sprite) :
    s.paint x y p = p.overlay (s.colorAt? x y) := by
  cases hf : s.figure with
  | bitmap b => simp only [paint, colorAt?, bitmap?, hf, Option.bind_some]
  | text t => simp only [paint, colorAt?, bitmap?, hf, Option.bind_none, Rgba.overlay]

/-- The run that a text sprite leaves on a raster. -/
def textRun? (s : Sprite) : Option TextRun := s.text?.map fun t => ⟨s.left, s.top, t⟩

/-- Sprites whose bitmap, if they have one, fills its extent. -/
def Drawable (s : Sprite) : Prop := ∀ b, s.figure = .bitmap b → b.Filled

instance (s : Sprite) : Decidable s.Drawable :=
  match h : s.figure with
  | .bitmap b => decidable_of_iff b.Filled
      ⟨fun hb b' h' => by rw [h] at h'; cases h'; exact hb, fun hs => hs b h⟩
  | .text _ => isTrue fun b h' => by rw [h] at h'; cases h'

end Sprite

/-! ## Plans as pictures -/

namespace Plan

/-- The pixel of a point: the background, under all sprites of the plan in painting order. -/
def pixel (p : Plan) (x y : Nat) : Rgba := p.ops.foldl (Sprite.paint x y) p.clear.premultiply

/-- The colors that the sprites of the plan put on a point, in painting order. -/
def colors (p : Plan) (x y : Nat) : List Argb := p.ops.filterMap (Sprite.colorAt? x y)

/-- The pixel of a point is the background with the colors on the point composited over it. -/
theorem pixel_eq_foldl (p : Plan) (x y : Nat) :
    p.pixel x y =
      (p.colors x y).foldl (fun q c => q.sourceOver c.premultiply) p.clear.premultiply := by
  rw [pixel, colors]
  generalize p.clear.premultiply = q
  induction p.ops generalizing q with
  | nil => rfl
  | cons s rest ih =>
    rw [List.foldl_cons, ih, Sprite.paint_eq_overlay]
    cases hc : s.colorAt? x y with
    | none => rw [List.filterMap_cons_none hc, Rgba.overlay]
    | some c => rw [List.filterMap_cons_some hc, List.foldl_cons, Rgba.overlay]

/-- The texts of the plan in painting order. -/
def runs (p : Plan) : Array TextRun := (p.ops.filterMap Sprite.textRun?).toArray

/-- The pixels of an extent, row by row. -/
def picture (p : Plan) (e : Extent) : Array Rgba :=
  Array.ofFn fun i : Fin e.area => p.pixel (i % e.width.toNat) (i / e.width.toNat)

@[simp] theorem size_picture (p : Plan) (e : Extent) : (p.picture e).size = e.area :=
  Array.size_ofFn

/-- The entry at the index of a point is the pixel of the point. -/
theorem getElem?_picture (p : Plan) {e : Extent} {x y : Nat} (hx : x < e.width.toNat)
    (hy : y < e.height.toNat) : (p.picture e)[y * e.width.toNat + x]? = some (p.pixel x y) := by
  have hi : y * e.width.toNat + x < e.area := rowMajor_lt hx hy
  unfold picture
  rw [Array.getElem?_eq_getElem (by rw [Array.size_ofFn]; exact hi), Array.getElem_ofFn,
    rowMajor_mod y hx, rowMajor_div y hx]

end Plan

/-! ## Carrying out a plan -/

namespace Raster

/-- The raster with texts added to the record. -/
def addRuns (ts : List TextRun) (r : Raster) : Raster := { r with runs := r.runs ++ ts.toArray }

theorem addRuns_nil (r : Raster) : r.addRuns [] = r := by
  rw [addRuns, Array.append_empty]

theorem addRuns_addRuns (ts us : List TextRun) (r : Raster) :
    (r.addRuns ts).addRuns us = r.addRuns (ts ++ us) := by
  simp only [addRuns, Array.append_assoc, List.append_toArray]

theorem Filled.addRuns {r : Raster} (hr : r.Filled) (ts : List TextRun) : (r.addRuns ts).Filled :=
  ⟨hr.size_eq, hr.fits⟩

theorem Filled.fill {r : Raster} (hr : r.Filled) (color : Argb) : (r.fill color).Filled :=
  ⟨by rw [Raster.fill, Array.size_replicate, hr.size_eq], hr.fits⟩

/-- Drawing a sprite paints it over every pixel and records its text. -/
theorem runOn_draw {s : Sprite} {r : Raster} (hr : r.Filled) (hs : s.Drawable) :
    (Plan.draw s : Attempt Raster Unit).runOn r =
      (.ok (), (r.recolor fun x y p => s.paint x y p).addRuns s.textRun?.toList) := by
  cases hf : s.figure with
  | bitmap b =>
    have htext : s.textRun? = none := by rw [Sprite.textRun?, Sprite.text?, hf]; rfl
    have hdraw : (Plan.draw s : Attempt Raster Unit) = blit s.left s.top b := by
      rw [Plan.draw, hf]
      rfl
    rw [hdraw, runOn_blit s.left s.top hr (hs b hf), htext, Option.toList_none, addRuns_nil]
    simp only [Sprite.paint, hf]
  | text t =>
    have htext : s.textRun? = some ⟨s.left, s.top, t⟩ := by
      rw [Sprite.textRun?, Sprite.text?, hf]
      rfl
    have hdraw : (Plan.draw s : Attempt Raster Unit) = modify (addRun s.left s.top t) := by
      rw [Plan.draw, hf]
      rfl
    have hkeep : (r.recolor fun x y p => s.paint x y p) = r :=
      recolor_id hr fun x y p _ _ => by rw [Sprite.paint, hf]
    rw [hdraw, hkeep, htext, Attempt.runOn_modify]
    rfl

/-- Drawing sprites paints them over every pixel, one after the other, and records their texts. -/
theorem runOn_drawAll {ops : List Sprite} {r : Raster} (hr : r.Filled)
    (hops : ∀ s ∈ ops, s.Drawable) :
    (Plan.drawAll ops : Attempt Raster Unit).runOn r =
      (.ok (), (r.recolor fun x y p => ops.foldl (Sprite.paint x y) p).addRuns
        (ops.filterMap Sprite.textRun?)) := by
  induction ops generalizing r with
  | nil =>
    have hkeep : (r.recolor fun x y p => [].foldl (Sprite.paint x y) p) = r :=
      recolor_id hr fun x y p _ _ => rfl
    rw [hkeep]
    simp only [Plan.drawAll, Attempt.runOn_pure, List.filterMap_nil, addRuns_nil]
  | cons s rest ih =>
    have hs := hops s List.mem_cons_self
    have hrest := fun t ht => hops t (List.mem_cons_of_mem s ht)
    have htexts : s.textRun?.toList ++ rest.filterMap Sprite.textRun? =
        (s :: rest).filterMap Sprite.textRun? := by
      rw [List.filterMap_cons]
      cases s.textRun? <;> rfl
    simp only [Plan.drawAll, Attempt.runOn_bind, runOn_draw hr hs]
    rw [ih ((hr.recolor _).addRuns _) hrest, ← htexts, ← addRuns_addRuns]
    -- the texts do not take part in the pixels, so the two changes of the pixels meet
    have hmeet := recolor_recolor (fun x y p => s.paint x y p)
      (fun x y p => rest.foldl (Sprite.paint x y) p) r
    simp only [List.foldl_cons, ← hmeet]
    rfl

/-- **A plan on a raster.** Carrying a plan out never fails. What the raster holds afterwards is the
picture of the plan and its texts, whatever it held before. -/
theorem runOn_execute {p : Plan} {r : Raster} (hr : r.Filled) (hops : ∀ s ∈ p.ops, s.Drawable) :
    (Plan.execute p : Attempt Raster UInt64).runOn r =
      (.ok (r.frame + 1), ⟨r.extent, p.picture r.extent, p.runs, r.frame + 1⟩) := by
  have hclear : (Surface.clear p.clear : Attempt Raster Unit) = modify (fill p.clear) := rfl
  have hpresent : (Surface.present : Attempt Raster UInt64) =
      (do modify fun r => { r with frame := r.frame + 1 }; return (← get).frame) := rfl
  have hfilled := hr.fill p.clear
  simp only [Plan.execute, Attempt.runOn_bind, hclear, Attempt.runOn_modify,
    runOn_drawAll hfilled hops, hpresent, Attempt.runOn_get, Attempt.runOn_pure]
  -- the background is the same everywhere, so the fold starts from it at every point
  have hpixels : ((r.fill p.clear).recolor fun x y q => p.ops.foldl (Sprite.paint x y) q).pixels =
      p.picture r.extent := by
    refine Array.ext (by rw [size_recolor, hfilled.size_eq, Plan.size_picture]; rfl) fun i _ _ => ?_
    simp only [recolor, fill, Array.getElem_mapIdx, Array.getElem_replicate, Plan.picture,
      Array.getElem_ofFn, Plan.pixel]
  rw [addRuns, hpixels]
  simp only [extent_recolor, runs_recolor, frame_recolor, fill, Plan.runs, Array.empty_append]

/-! ## Reading a raster back -/

/-- The pixel that a frame has at a point is the one that the raster had there. -/
theorem pixel?_readback {r : Raster} {x y : UInt32} (hx : x < r.extent.width)
    (hy : y < r.extent.height) :
    r.readback.pixel? x y = r.pixels[y.toNat * r.extent.width.toNat + x.toNat]? := by
  have hbyte (i : Nat) {k : Nat} (hk : k < 4) :
      (Frame.bytesOf r.pixels)[i * 4 + k]? = r.pixels[i]?.bind fun p => p.bytes[k]? := by
    have h := Frame.getElem?_flatMap_bytes r.pixels.toList i hk
    rw [← Frame.toList_bytesOf, Array.getElem?_toList, Array.getElem?_toList, Nat.mul_comm] at h
    exact h
  rw [Frame.pixel?, if_pos ⟨hx, hy⟩]
  simp only [readback]
  generalize y.toNat * r.extent.width.toNat + x.toNat = i
  have hbyte0 := hbyte i (k := 0) (by decide)
  rw [Nat.add_zero] at hbyte0
  simp only [hbyte0, hbyte i (k := 1) (by decide), hbyte i (k := 2) (by decide),
    hbyte i (k := 3) (by decide)]
  cases r.pixels[i]? with
  | none => rfl
  | some p => rfl

/-- The straight form of the frame that a raster shows. -/
theorem toStraight_readback (r : Raster) :
    r.readback.toStraight = ⟨r.extent.width, r.extent.height,
      Frame.bytesOf (r.pixels.map Rgba.unpremultiply), false⟩ := by
  simp only [Frame.toStraight, readback, Frame.pixelsOf_bytesOf, if_true]

/-- A raster that holds the picture of a plan is read back as the pixels of the plan. -/
theorem pixel?_of_picture {p : Plan} {r : Raster} (h : r.pixels = p.picture r.extent) {x y : UInt32}
    (hx : x < r.extent.width) (hy : y < r.extent.height) :
    r.readback.pixel? x y = some (p.pixel x.toNat y.toNat) := by
  rw [pixel?_readback hx hy, h]
  exact p.getElem?_picture (UInt32.lt_iff_toNat_lt.mp hx) (UInt32.lt_iff_toNat_lt.mp hy)

end Raster

end SpriteStage
