/-
Culling: sprites that a frame does not need.

Source-over is exact at both ends of alpha. A transparent color leaves the pixel under it as it is,
and an opaque one replaces it whatever it was. So a bitmap shows nothing if, at every point of the
surface, its color is transparent or a sprite painted later puts an opaque color there. Which sprite
that is may differ from point to point. Such a bitmap can be left out of the plan: the raster that
the plan leaves is the same (`Plan.execute_without_hidden`).

A text is never left out like this. It has no pixels, but it has an entry in the list of texts.
-/
import SpriteStage.Proofs.Picture
import SpriteStage.Proofs.Rounding

set_option autoImplicit false

namespace SpriteStage

/-! ## Hidden sprites -/

namespace Plan

/-- The plan without one of its sprites. -/
def without (p : Plan) (i : Nat) : Plan := { p with ops := p.ops.eraseIdx i }

/-- Whether a sprite that is painted after the `i`-th one puts an opaque color on a point. -/
def CoveredAfter (p : Plan) (i x y : Nat) : Prop :=
  ∃ j t c, i < j ∧ p.ops[j]? = some t ∧ t.colorAt? x y = some c ∧ c.alpha = 255

variable {p : Plan} {i x y : Nat} {s : Sprite}

/-- Nothing of what was painted before shows through an opaque color. -/
theorem foldl_paint_of_covered (h : p.CoveredAfter i x y) (q q' : Rgba) :
    (p.ops.drop (i + 1)).foldl (Sprite.paint x y) q =
      (p.ops.drop (i + 1)).foldl (Sprite.paint x y) q' := by
  obtain ⟨j, t, c, hij, ht, hcolor, hopaque⟩ := h
  have hmem : t ∈ p.ops.drop (i + 1) := by
    refine List.mem_of_getElem? (i := j - (i + 1)) ?_
    rw [List.getElem?_drop, ← ht]
    congr 1
    omega
  obtain ⟨earlier, later, hsplit⟩ := List.append_of_mem hmem
  -- before the opaque sprite the two pixels may differ, after it they do not
  have hpaint (p : Rgba) : t.paint x y p = c.premultiply := by
    rw [Sprite.paint_eq_overlay, hcolor]
    exact Rgba.sourceOver_of_solid hopaque p
  rw [hsplit, List.foldl_append, List.foldl_append, List.foldl_cons, List.foldl_cons, hpaint, hpaint]

theorem ops_eq_of_getElem? (hi : p.ops[i]? = some s) :
    p.ops = p.ops.take i ++ s :: p.ops.drop (i + 1) := by
  obtain ⟨hlt, rfl⟩ := List.getElem?_eq_some_iff.mp hi
  rw [← List.drop_eq_getElem_cons hlt, List.take_append_drop]

theorem ops_without (p : Plan) (i : Nat) :
    (p.without i).ops = p.ops.take i ++ p.ops.drop (i + 1) :=
  List.eraseIdx_eq_take_drop_succ p.ops i

/-- Where the color of a sprite is transparent or covered, the pixel is the one without it. -/
theorem pixel_without (hi : p.ops[i]? = some s)
    (h : ∀ c, s.colorAt? x y = some c → c.alpha = 0 ∨ p.CoveredAfter i x y) :
    (p.without i).pixel x y = p.pixel x y := by
  have hclear : (p.without i).clear = p.clear := rfl
  have hpixel : p.pixel x y = (p.ops.drop (i + 1)).foldl (Sprite.paint x y)
      (s.paint x y ((p.ops.take i).foldl (Sprite.paint x y) p.clear.premultiply)) := by
    refine (congrArg (List.foldl _ _) (ops_eq_of_getElem? hi)).trans ?_
    rw [List.foldl_append, List.foldl_cons]
  -- the two sides differ in one step, the sprite, between the same sprites before and after it
  rw [hpixel, pixel, ops_without, List.foldl_append, hclear, Sprite.paint_eq_overlay]
  cases hcolor : s.colorAt? x y with
  | none => rw [Rgba.overlay]
  | some c =>
    rcases h c hcolor with htransparent | hcovered
    · rw [Rgba.overlay, Rgba.sourceOver_of_transparent htransparent]
    · exact foldl_paint_of_covered hcovered _ _

theorem runs_without {b : Bitmap} (hi : p.ops[i]? = some s) (hb : s.figure = .bitmap b) :
    (p.without i).runs = p.runs := by
  -- a bitmap has no part in the texts
  have htext : s.textRun? = none := by
    rw [Sprite.textRun?, Sprite.text?, hb]
    rfl
  have hruns : p.ops.filterMap Sprite.textRun? = (p.without i).ops.filterMap Sprite.textRun? := by
    refine (congrArg (List.filterMap _) (ops_eq_of_getElem? hi)).trans ?_
    rw [ops_without, List.filterMap_append, List.filterMap_append, List.filterMap_cons_none htext]
  rw [runs, runs, hruns]

theorem picture_congr {p p' : Plan} {e : Extent}
    (h : ∀ x y, x < e.width.toNat → y < e.height.toNat → p.pixel x y = p'.pixel x y) :
    p.picture e = p'.picture e := by
  refine Array.ext (by rw [size_picture, size_picture]) fun k hk _ => ?_
  rw [size_picture] at hk
  obtain ⟨hx, hy, -⟩ := exists_rowMajor hk
  simp only [picture, Array.getElem_ofFn]
  exact h _ _ hx hy

/-- **Culling is sound.** Take a plan and a bitmap sprite of it whose color is transparent or covered
by a later sprite at every point of the surface. Carrying the plan out with the sprite and without it
leaves the same raster, pixels and texts alike, and gives the same answer. -/
theorem execute_without_hidden {r : Raster} (hr : r.Filled) (hops : ∀ t ∈ p.ops, t.Drawable)
    {b : Bitmap} (hi : p.ops[i]? = some s) (hb : s.figure = .bitmap b)
    (hidden : ∀ x y c, x < r.extent.width.toNat → y < r.extent.height.toNat →
      s.colorAt? x y = some c → c.alpha = 0 ∨ p.CoveredAfter i x y) :
    ∃ r', (execute p).runOn r = (.ok (r.frame + 1), r') ∧
      (execute (p.without i)).runOn r = (.ok (r.frame + 1), r') := by
  have hopsWithout : ∀ t ∈ (p.without i).ops, t.Drawable := by
    intro t ht
    exact hops t (List.mem_of_mem_eraseIdx ht)
  have hpicture : (p.without i).picture r.extent = p.picture r.extent := by
    refine picture_congr fun x y hx hy => pixel_without hi fun c hc => ?_
    exact hidden x y c hx hy hc
  refine ⟨_, Raster.runOn_execute hr hops, ?_⟩
  rw [Raster.runOn_execute hr hopsWithout, hpicture, runs_without hi hb]

/-- A bitmap of two points is not seen: one point is transparent, and the other lies under a later
bitmap that is opaque there and transparent elsewhere. -/
theorem execute_without_underlay :
    let below : Sprite := { id := 1, figure := .bitmap ⟨⟨2, 1⟩, #[⟨0x00ff0000⟩, ⟨0x80ff0000⟩]⟩ }
    let above : Sprite := { id := 2, left := 1, figure := .bitmap ⟨⟨2, 1⟩, #[⟨0xff00ff00⟩, ⟨0⟩]⟩ }
    let p : Plan := ⟨⟨3, 1⟩, .black, [below, above]⟩
    ∃ r', (execute p).runOn (Raster.blank ⟨3, 1⟩) = (.ok 1, r') ∧
      (execute (p.without 0)).runOn (Raster.blank ⟨3, 1⟩) = (.ok 1, r') := by
  intro below above p
  have hops : ∀ t ∈ p.ops, t.Drawable := by decide
  refine execute_without_hidden (s := below) ⟨rfl, by decide⟩ hops rfl rfl fun x y c hx hy hc => ?_
  obtain rfl : y = 0 := Nat.lt_one_iff.mp hy
  rcases Nat.lt_trichotomy x 1 with hlt | rfl | hgt
  · obtain rfl : x = 0 := Nat.lt_one_iff.mp hlt
    obtain rfl : (⟨0x00ff0000⟩ : Argb) = c := Option.some.inj hc
    exact .inl (by decide)
  · exact .inr ⟨1, above, ⟨0xff00ff00⟩, by decide, rfl, by decide +kernel, by decide⟩
  · obtain rfl : x = 2 := Nat.le_antisymm (Nat.le_of_lt_succ hx) hgt
    cases hc

end Plan

end SpriteStage
