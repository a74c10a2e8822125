/-
What a blit does to each pixel.

A raster composites a bitmap in rows: it cuts the bitmap to a window, computes for every row of the
window a run in the bitmap and a run in the raster, both in signed 64-bit words, and overwrites the
run. This file shows that none of this can be seen from outside. A blit never fails, and it is the
pixelwise rule (`runOn_blit`): the pixel in column `x` and row `y` gets the color that the bitmap has
at `(x - left, y - top)` composited over it, and stays as it is where the bitmap has none.

The work is in three places. The words are exact: every intermediate value fits (`toInt_visible`,
`span_eq`). A run of a row is that row at some columns (`runOn_blendSpan` and `rowMajor_mem_run`).
And after the first `n` rows of the window exactly the rows above the next one have been composited,
which is the invariant that the induction over the rows carries (`runOn_blendSpans`).
-/
import SpriteStage.Raster
import SpriteStage.Proofs.Attempt
import SpriteStage.Proofs.Grid

set_option autoImplicit false

namespace SpriteStage

/-! ## Pixelwise changes -/

/-- A pixel with a color composited over it, if there is one. -/
def Rgba.overlay (p : Rgba) : Option Argb → Rgba
  | some color => p.sourceOver color.premultiply
  | none => p

namespace Raster

/-- Rasters whose pixels fill their extent, which is one that fits into memory. -/
structure Filled (r : Raster) : Prop where
  size_eq : r.pixels.size = r.extent.area
  fits : r.extent.area < 2 ^ 63

/-- The raster with every pixel changed as its column and row say. -/
def recolor (f : Nat → Nat → Rgba → Rgba) (r : Raster) : Raster :=
  { r with
    pixels := r.pixels.mapIdx fun i p => f (i % r.extent.width.toNat) (i / r.extent.width.toNat) p }

@[simp] theorem extent_recolor (f : Nat → Nat → Rgba → Rgba) (r : Raster) :
    (r.recolor f).extent = r.extent := rfl

@[simp] theorem runs_recolor (f : Nat → Nat → Rgba → Rgba) (r : Raster) :
    (r.recolor f).runs = r.runs := rfl

@[simp] theorem frame_recolor (f : Nat → Nat → Rgba → Rgba) (r : Raster) :
    (r.recolor f).frame = r.frame := rfl

@[simp] theorem size_recolor (f : Nat → Nat → Rgba → Rgba) (r : Raster) :
    (r.recolor f).pixels.size = r.pixels.size := Array.size_mapIdx

theorem Filled.recolor {r : Raster} (hr : r.Filled) (f : Nat → Nat → Rgba → Rgba) :
    (r.recolor f).Filled :=
  ⟨by rw [size_recolor, extent_recolor, hr.size_eq], hr.fits⟩

/-- Changing every pixel twice is changing every pixel once, by both changes. -/
theorem recolor_recolor (f g : Nat → Nat → Rgba → Rgba) (r : Raster) :
    (r.recolor f).recolor g = r.recolor fun x y p => g x y (f x y p) := by
  simp only [recolor, Array.mapIdx_mapIdx]
  rfl

/-- Two changes that agree at every point inside do the same to a raster that fills its extent. -/
theorem recolor_congr {r : Raster} (hr : r.Filled)
    {f g : Nat → Nat → Rgba → Rgba}
    (h : ∀ x y p, x < r.extent.width.toNat → y < r.extent.height.toNat → f x y p = g x y p) :
    r.recolor f = r.recolor g := by
  have hpix : (r.recolor f).pixels = (r.recolor g).pixels := by
    refine Array.ext (by simp only [size_recolor]) fun i hi _ => ?_
    rw [size_recolor, hr.size_eq, Extent.area] at hi
    obtain ⟨hx, hy, -⟩ := exists_rowMajor hi
    simp only [recolor, Array.getElem_mapIdx]
    exact h _ _ _ hx hy
  simp only [recolor] at hpix ⊢
  rw [hpix]

/-- A change that keeps every pixel keeps the raster. -/
theorem recolor_id {r : Raster} (hr : r.Filled)
    {f : Nat → Nat → Rgba → Rgba}
    (h : ∀ x y p, x < r.extent.width.toNat → y < r.extent.height.toNat → f x y p = p) :
    r.recolor f = r := by
  rw [recolor_congr hr (g := fun _ _ p => p) h]
  have hid : (r.pixels.mapIdx fun _ p => p) = r.pixels :=
    Array.ext (by simp) fun i _ _ => by simp
  simp only [recolor, hid]

/-! ## One run of a row -/

@[simp] theorem size_write (pixels : Array Rgba) (i : Nat) (ps : List Rgba) :
    (write pixels i ps).size = pixels.size := by
  induction ps generalizing pixels i with
  | nil => rfl
  | cons p rest ih => rw [write, ih, Array.size_setIfInBounds]

/-- A written run stands where it was written, and everything else is as it was. -/
theorem getElem?_write (pixels : Array Rgba) (i : Nat) (ps : List Rgba) (j : Nat)
    (hfit : i + ps.length ≤ pixels.size) :
    (write pixels i ps)[j]? = if i ≤ j ∧ j < i + ps.length then ps[j - i]? else pixels[j]? := by
  induction ps generalizing pixels i with
  | nil => rw [write, if_neg (by simp only [List.length_nil]; omega)]
  | cons p rest ih =>
    rw [List.length_cons] at hfit ⊢
    rw [write, ih _ _ (by rw [Array.size_setIfInBounds]; omega)]
    rcases Nat.lt_trichotomy j i with hlt | heq | hgt
    · rw [if_neg (by omega), if_neg (by omega), Array.getElem?_setIfInBounds_ne (by omega)]
    · subst heq
      rw [if_neg (by omega), if_pos (by omega), Nat.sub_self,
        Array.getElem?_setIfInBounds_self_of_lt (by omega)]
      rfl
    · rw [Array.getElem?_setIfInBounds_ne (by omega)]
      have hsucc : j - i = (j - (i + 1)) + 1 := by omega
      by_cases hin : j < i + (rest.length + 1)
      · rw [if_pos (by omega), if_pos (by omega), hsucc, List.getElem?_cons_succ]
      · rw [if_neg (by omega), if_neg (by omega)]

/-- Compositing one run never fails when both runs are inside: it writes the row that comes out of
compositing the one over the other. -/
theorem runOn_blendSpan_write {source : Array Argb} {s : Span} {r : Raster}
    (hs : s.source + s.count ≤ source.size) (ht : s.target + s.count ≤ r.pixels.size) :
    (blendSpan source s).runOn r = (.ok (), { r with
      pixels := write r.pixels s.target (Array.zipWith Rgba.sourceOver
        (r.pixels.extract s.target (s.target + s.count))
        ((source.extract s.source (s.source + s.count)).map Argb.premultiply)).toList }) := by
  have hsize : (r.pixels.extract s.target (s.target + s.count)).size =
      ((source.extract s.source (s.source + s.count)).map Argb.premultiply).size := by
    simp only [Array.size_extract, Array.size_map]
    omega
  simp only [blendSpan, Attempt.runOn_bind, Attempt.runOn_get, overRow, if_pos hsize,
    Attempt.runOn_liftM, Attempt.runOn_modify]

/-- Pixel by pixel, this composites the colors of the bitmap over the pixels of the run. -/
theorem runOn_blendSpan {source : Array Argb} {s : Span} {r : Raster}
    (hs : s.source + s.count ≤ source.size) (ht : s.target + s.count ≤ r.pixels.size) :
    (blendSpan source s).runOn r = (.ok (), { r with
      pixels := r.pixels.mapIdx fun i p =>
        if s.target ≤ i ∧ i < s.target + s.count then p.overlay source[s.source + (i - s.target)]?
        else p }) := by
  rw [runOn_blendSpan_write hs ht]
  congr 2
  refine Array.ext_getElem? fun j => ?_
  rw [getElem?_write _ _ _ _ (by
    simp only [Array.length_toList, Array.size_zipWith, Array.size_extract, Array.size_map]
    omega), Array.getElem?_mapIdx]
  simp only [Array.length_toList, Array.size_zipWith, Array.size_extract, Array.size_map]
  by_cases hj : s.target ≤ j ∧ j < s.target + s.count
  · -- inside the run: one pixel of the row
    have hjt : j < r.pixels.size := by omega
    have hjs : s.source + (j - s.target) < source.size := by omega
    rw [if_pos (by omega), Array.getElem?_toList, Array.getElem?_eq_getElem hjt,
      Array.getElem?_zipWith, Array.getElem?_map, Array.getElem?_extract_of_lt,
      Array.getElem?_extract_of_lt]
    · have hidx : s.target + (j - s.target) = j := by omega
      simp only [hidx, Option.map_some, if_pos hj, Array.getElem?_eq_getElem hjs, Rgba.overlay]
    · omega
    · omega
  · rw [if_neg (by omega)]
    cases r.pixels[j]? with
    | none => rfl
    | some p => rw [Option.map_some, if_neg hj]

/-- A run of one row, as a pixelwise change: the columns `a` up to `a + n` of row `row`. -/
theorem runOn_blendSpan_row {source : Array Argb} {r : Raster} {start row a n : Nat}
    (hr : r.Filled) (hs : start + n ≤ source.size)
    (ha : a + n ≤ r.extent.width.toNat) (hrow : row < r.extent.height.toNat) :
    (blendSpan source ⟨start, row * r.extent.width.toNat + a, n⟩).runOn r =
      (.ok (), r.recolor fun x y p =>
        if y = row ∧ a ≤ x ∧ x < a + n then p.overlay source[start + (x - a)]? else p) := by
  have ht : row * r.extent.width.toNat + a + n ≤ r.pixels.size := by
    have hle : (row + 1) * r.extent.width.toNat ≤ r.extent.height.toNat * r.extent.width.toNat :=
      Nat.mul_le_mul_right _ hrow
    rw [Nat.add_mul, Nat.one_mul] at hle
    rw [hr.size_eq, Extent.area, Nat.mul_comm r.extent.width.toNat]
    omega
  rw [runOn_blendSpan hs ht, recolor]
  congr 2
  refine Array.ext (by simp only [Array.size_mapIdx]) fun i hi _ => ?_
  rw [Array.size_mapIdx, hr.size_eq, Extent.area] at hi
  obtain ⟨hx, -, hi'⟩ := exists_rowMajor hi
  have hmem := rowMajor_mem_run (y := i / r.extent.width.toNat) (r := row) hx ha
  rw [hi'] at hmem
  simp only [Array.getElem_mapIdx, hmem]
  by_cases h : i / r.extent.width.toNat = row ∧ a ≤ i % r.extent.width.toNat ∧
      i % r.extent.width.toNat < a + n
  · rw [if_pos h, if_pos h]
    obtain ⟨rfl, hlo, -⟩ := h
    have hoff : i - (i / r.extent.width.toNat * r.extent.width.toNat + a) =
        i % r.extent.width.toNat - a := by omega
    rw [hoff]
  · rw [if_neg h, if_neg h]

end Raster

/-! ## The window in exact arithmetic -/

namespace Clip

theorem toInt_widen (n : UInt32) : (widen n).toInt = n.toNat := by
  have hn : n.toNat < 2 ^ 32 := n.toNat_lt
  have hword : n.toUInt64 = UInt64.ofNat n.toNat :=
    UInt64.toNat_inj.mp (by
      rw [UInt32.toNat_toUInt64, UInt64.toNat_ofNat_of_lt' (Nat.lt_trans hn (by decide))])
  rw [widen, hword, UInt64.toInt64_ofNat', Int64.toInt_ofNat_of_lt (by omega)]

theorem toInt_max (a b : Int64) : (max a b).toInt = max a.toInt b.toInt := by
  rw [show max a b = if a ≤ b then b else a from rfl]
  split
  · next h => rw [Int64.le_iff_toInt_le] at h; omega
  · next h => rw [Int64.le_iff_toInt_le] at h; omega

theorem toInt_min (a b : Int64) : (min a b).toInt = min a.toInt b.toInt := by
  rw [show min a b = if a ≤ b then a else b from rfl]
  split
  · next h => rw [Int64.le_iff_toInt_le] at h; omega
  · next h => rw [Int64.le_iff_toInt_le] at h; omega

theorem toInt_add_of_fits {a b : Int64} (hlo : -2 ^ 63 ≤ a.toInt + b.toInt)
    (hhi : a.toInt + b.toInt < 2 ^ 63) : (a + b).toInt = a.toInt + b.toInt := by
  rw [Int64.toInt_add]
  exact Int.bmod_eq_of_le (by omega) (by omega)

theorem toInt_sub_of_fits {a b : Int64} (hlo : -2 ^ 63 ≤ a.toInt - b.toInt)
    (hhi : a.toInt - b.toInt < 2 ^ 63) : (a - b).toInt = a.toInt - b.toInt := by
  rw [Int64.toInt_sub]
  exact Int.bmod_eq_of_le (by omega) (by omega)

theorem toInt_mul_of_fits {a b : Int64} (hlo : -2 ^ 63 ≤ a.toInt * b.toInt)
    (hhi : a.toInt * b.toInt < 2 ^ 63) : (a * b).toInt = a.toInt * b.toInt := by
  rw [Int64.toInt_mul]
  exact Int.bmod_eq_of_le (by omega) (by omega)

/-- The first visible column or row of a bitmap that lies at an offset. -/
def lower (offset : Int32) : Int := max (-offset.toInt) 0

/-- The column or row after the last visible one, for a bitmap and a surface of given lengths. -/
def upper (target source : UInt32) (offset : Int32) : Int :=
  min (target.toNat - offset.toInt) source.toNat

/-- The four bounds of the window are computed without overflow. -/
theorem toInt_visible (target source : Extent) (left top : Int32) :
    (visible target source left top).x0.toInt = lower left ∧
    (visible target source left top).x1.toInt = upper target.width source.width left ∧
    (visible target source left top).y0.toInt = lower top ∧
    (visible target source left top).y1.toInt = upper target.height source.height top := by
  have hlower (o : Int32) : (max (-o.toInt64) 0).toInt = lower o := by
    have := o.le_toInt
    have := o.toInt_lt
    rw [toInt_max, Int64.toInt_neg, Int32.toInt_toInt64, Int.bmod_eq_of_le (by omega) (by omega)]
    rfl
  have hupper (t s : UInt32) (o : Int32) :
      (min (widen t - o.toInt64) (widen s)).toInt = upper t s o := by
    have := o.le_toInt
    have := o.toInt_lt
    have := t.toNat_lt
    rw [toInt_min, toInt_sub_of_fits, toInt_widen, toInt_widen, Int32.toInt_toInt64, upper] <;>
      rw [toInt_widen, Int32.toInt_toInt64] <;> omega
  exact ⟨hlower left, hupper _ _ left, hlower top, hupper _ _ top⟩

/-- A point of the surface lies under the bitmap exactly if it lies in the window. -/
theorem covers_iff {target : Extent} (source : Extent) (left top : Int32) {x y : Nat}
    (hx : x < target.width.toNat) (hy : y < target.height.toNat) :
    source.Covers (x - left.toInt) (y - top.toInt) ↔
      (lower left ≤ x - left.toInt ∧ x - left.toInt < upper target.width source.width left) ∧
      lower top ≤ y - top.toInt ∧ y - top.toInt < upper target.height source.height top := by
  unfold Extent.Covers lower upper
  omega

/-- A column or row of the window lies in either grid. -/
theorem window_bounds {target source : UInt32} {offset : Int32} {k : Int}
    (hlo : lower offset ≤ k) (hhi : k < upper target source offset) :
    0 ≤ k ∧ k < source.toNat ∧ 0 ≤ k + offset.toInt ∧ k + offset.toInt < target.toNat := by
  unfold lower at hlo
  unfold upper at hhi
  omega

theorem lower_bounds (offset : Int32) : 0 ≤ lower offset ∧ lower offset ≤ 2 ^ 31 := by
  have := offset.le_toInt
  unfold lower
  omega

theorem upper_le (target source : UInt32) (offset : Int32) :
    upper target source offset ≤ source.toNat := by
  unfold upper
  omega

/-- The product of a row and the width fits into a signed word because the area does. -/
theorem toInt_rowStart {e : Extent} (harea : e.area < 2 ^ 63) {row : Int64} (hlo : 0 ≤ row.toInt)
    (hhi : row.toInt < e.height.toNat) :
    (row * widen e.width).toInt = row.toInt * e.width.toNat := by
  have hprod : row.toInt * (widen e.width).toInt = ↑(row.toInt.toNat * e.width.toNat) := by
    rw [toInt_widen, Int.natCast_mul, Int.toNat_of_nonneg hlo]
  have hle : row.toInt.toNat * e.width.toNat ≤ e.height.toNat * e.width.toNat :=
    Nat.mul_le_mul_right _ (by omega)
  rw [Extent.area, Nat.mul_comm] at harea
  rw [← toInt_widen]
  refine toInt_mul_of_fits ?_ ?_ <;> rw [hprod] <;> omega

/-- With a column added, it is the index of the point. -/
theorem toInt_index {e : Extent} (harea : e.area < 2 ^ 63) (row column : Int64)
    (h : e.Covers column.toInt row.toInt) :
    (row * widen e.width + column).toInt = e.indexAt column.toInt row.toInt := by
  have hlt := h.index_lt
  have hsum : (row * widen e.width).toInt + column.toInt = e.indexAt column.toInt row.toInt := by
    rw [toInt_rowStart harea h.2.2.1 h.2.2.2, h.natCast_indexAt]
  rw [toInt_add_of_fits, hsum] <;> rw [hsum] <;> omega

/-- A row of the window, as a row of the bitmap and of the surface. -/
theorem toInt_windowRow {target source : Extent} (left : Int32) {top : Int32} {i : Nat}
    (hrow : lower top + i < upper target.height source.height top) :
    let row := (visible target source left top).y0 + Int64.ofNat i
    row.toInt = lower top + i ∧ (row + top.toInt64).toInt = lower top + i + top.toInt := by
  obtain ⟨-, -, hy0, -⟩ := toInt_visible target source left top
  obtain ⟨hrow0, hrowS, hrowL, hrowT⟩ := window_bounds (by omega) hrow
  have hh := source.height.toNat_lt
  have ht := target.height.toNat_lt
  have htop := lower_bounds top
  intro row
  have hi : (Int64.ofNat i).toInt = i := Int64.toInt_ofNat_of_lt (by omega)
  have hrow' : row.toInt = lower top + i := by
    rw [toInt_add_of_fits, hy0, hi] <;> rw [hy0, hi] <;> omega
  refine ⟨hrow', ?_⟩
  rw [toInt_add_of_fits, hrow', Int32.toInt_toInt64] <;> rw [hrow', Int32.toInt_toInt64] <;> omega

/-- **The words of a window row.** The three words from which the run of a row is computed are exact,
and none of them is negative. -/
theorem toInt_row {target source : Extent} {left top : Int32} (htarget : target.area < 2 ^ 63)
    (hsource : source.area < 2 ^ 63) (hcols : lower left < upper target.width source.width left)
    {i : Nat} (hrow : lower top + i < upper target.height source.height top) :
    let c := visible target source left top
    let row := c.y0 + Int64.ofNat i
    (row * widen source.width + c.x0).toInt = source.indexAt (lower left) (lower top + i) ∧
    ((row + top.toInt64) * widen target.width + c.x0 + left.toInt64).toInt =
      target.indexAt (lower left + left.toInt) (lower top + i + top.toInt) ∧
    (c.x1 - c.x0).toInt = (upper target.width source.width left - lower left).toNat := by
  obtain ⟨hx0, hx1, -, -⟩ := toInt_visible target source left top
  obtain ⟨hrow', hrowTop⟩ := toInt_windowRow left hrow
  obtain ⟨hcol0, hcolS, hcolL, hcolT⟩ := window_bounds (Int.le_refl _) hcols
  obtain ⟨hrow0, hrowS, hrowL, hrowT⟩ := window_bounds (by omega) hrow
  have hw := source.width.toNat_lt
  have hl := left.toInt_lt
  have hlow := lower_bounds left
  have hupp := upper_le target.width source.width left
  generalize visible target source left top = c at *
  dsimp only at *
  -- the column of the run in the surface, and the length of the run
  have hcolLeft : (c.x0 + left.toInt64).toInt = lower left + left.toInt := by
    rw [toInt_add_of_fits, hx0, Int32.toInt_toInt64] <;> rw [hx0, Int32.toInt_toInt64] <;> omega
  have hcount : (c.x1 - c.x0).toInt = (upper target.width source.width left - lower left).toNat := by
    rw [Int.toNat_of_nonneg (by omega), toInt_sub_of_fits, hx0, hx1] <;> rw [hx0, hx1] <;> omega
  have hfrom := toInt_index hsource (c.y0 + Int64.ofNat i) c.x0
    (by rw [hrow', hx0]; exact ⟨hcol0, hcolS, hrow0, hrowS⟩)
  have hto := toInt_index htarget (c.y0 + Int64.ofNat i + top.toInt64) (c.x0 + left.toInt64)
    (by rw [hrowTop, hcolLeft]; exact ⟨hcolL, hcolT, hrowL, hrowT⟩)
  rw [hrow', hx0] at hfrom
  rw [hrowTop, hcolLeft, ← Int64.add_assoc] at hto
  exact ⟨hfrom, hto, hcount⟩

/-- **The runs of a window row.** The run in the bitmap starts at the first visible column of the
row, and the run in the surface at that point moved by the position. -/
theorem span_eq {target source : Extent} {left top : Int32} (htarget : target.area < 2 ^ 63)
    (hsource : source.area < 2 ^ 63) (hcols : lower left < upper target.width source.width left)
    {i : Nat} (hrow : lower top + i < upper target.height source.height top) :
    (visible target source left top).span target source left top
        ((visible target source left top).y0 + Int64.ofNat i) =
      ⟨source.indexAt (lower left) (lower top + i),
        target.indexAt (lower left + left.toInt) (lower top + i + top.toInt),
        (upper target.width source.width left - lower left).toNat⟩ := by
  obtain ⟨hfrom, hto, hcount⟩ := toInt_row htarget hsource hcols hrow
  simp only [span, Int64.toNatClampNeg, hfrom, hto, hcount, Int.toNat_natCast]

/-- **A window row lies inside.** Its run ends in the bitmap, and in the surface, by the end of the
row that it starts in. -/
theorem row_inside {target source : Extent} {left top : Int32}
    (hcols : lower left < upper target.width source.width left) {i : Nat}
    (hrow : lower top + i < upper target.height source.height top) :
    source.indexAt (lower left) (lower top + i) +
        (upper target.width source.width left - lower left).toNat ≤ source.area ∧
      target.indexAt (lower left + left.toInt) (lower top + i + top.toInt) +
        (upper target.width source.width left - lower left).toNat ≤ target.area := by
  obtain ⟨hcol0, hcolS, hcolL, hcolT⟩ := window_bounds (Int.le_refl _) hcols
  obtain ⟨hrow0, hrowS, hrowL, hrowT⟩ := window_bounds (by omega) hrow
  have hright : upper target.width source.width left ≤ source.width.toNat ∧
      upper target.width source.width left + left.toInt ≤ target.width.toNat := by
    unfold upper
    omega
  constructor
  · have hfirst : source.Covers (lower left) (lower top + i) := ⟨hcol0, hcolS, hrow0, hrowS⟩
    exact hfirst.index_add_le (by omega)
  · have hfirst : target.Covers (lower left + left.toInt) (lower top + i + top.toInt) :=
      ⟨hcolL, hcolT, hrowL, hrowT⟩
    exact hfirst.index_add_le (by omega)

theorem isEmpty_visible {target source : Extent} {left top : Int32} :
    (visible target source left top).isEmpty = true ↔
      upper target.width source.width left ≤ lower left ∨
      upper target.height source.height top ≤ lower top := by
  obtain ⟨hx0, hx1, hy0, hy1⟩ := toInt_visible target source left top
  rw [isEmpty, Bool.or_eq_true, decide_eq_true_iff, decide_eq_true_iff, Int64.le_iff_toInt_le,
    Int64.le_iff_toInt_le, hx0, hx1, hy0, hy1]

/-- The number of rows of a window that is not empty. -/
theorem rows_visible {target source : Extent} {left top : Int32}
    (h : lower top ≤ upper target.height source.height top) :
    ((visible target source left top).y1 - (visible target source left top).y0).toNatClampNeg =
      (upper target.height source.height top - lower top).toNat := by
  obtain ⟨-, -, hy0, hy1⟩ := toInt_visible target source left top
  have htop := lower_bounds top
  have hupp := upper_le target.height source.height top
  have hh := source.height.toNat_lt
  rw [Int64.toNatClampNeg, toInt_sub_of_fits, hy0, hy1] <;> rw [hy0, hy1] <;> omega

end Clip

/-! ## The whole window -/

namespace Raster

theorem runOn_blendSpans_append (source : Array Argb) (first rest : List Span) (r : Raster) :
    (blendSpans source (first ++ rest)).runOn r =
      match (blendSpans source first).runOn r with
      | (.ok (), r') => (blendSpans source rest).runOn r'
      | (.error fault, r') => (.error fault, r') := by
  induction first generalizing r with
  | nil => rfl
  | cons s first ih =>
    simp only [List.cons_append, blendSpans, Attempt.runOn_bind]
    rcases (blendSpan source s).runOn r with ⟨result, r'⟩
    cases result with
    | error fault => rfl
    | ok u => exact ih r'

/-- **One row of a window** is the pixelwise rule, held to that row. -/
theorem runOn_blendSpan_visible {b : Bitmap} {r : Raster} {left : Int32}
    (hr : r.Filled) (hb : b.Filled)
    (hcols : Clip.lower left < Clip.upper r.extent.width b.extent.width left) (top : Int32) (n : Nat)
    (hn : Clip.lower top + n < Clip.upper r.extent.height b.extent.height top) :
    (blendSpan b.pixels ((Clip.visible r.extent b.extent left top).span r.extent b.extent left top
        ((Clip.visible r.extent b.extent left top).y0 + Int64.ofNat n))).runOn r =
      (.ok (), r.recolor fun x y p =>
        if (y : Int) - top.toInt = Clip.lower top + n then
          p.overlay (b.at? (x - left.toInt) (y - top.toInt))
        else p) := by
  obtain ⟨hcol0, -, hcolL, -⟩ := Clip.window_bounds (Int.le_refl _) hcols
  obtain ⟨hrow0, -, hrowL, hrowT⟩ := Clip.window_bounds (by omega) hn
  have hright : Clip.upper r.extent.width b.extent.width left + left.toInt ≤
      r.extent.width.toNat := by
    unfold Clip.upper
    omega
  have hrun : b.extent.indexAt (Clip.lower left) (Clip.lower top + n) +
      (Clip.upper r.extent.width b.extent.width left - Clip.lower left).toNat ≤ b.pixels.size := by
    rw [hb.size_eq]
    exact (Clip.row_inside hcols hn).1
  rw [Clip.span_eq hr.fits hb.fits hcols hn, Extent.indexAt.eq_def r.extent,
    runOn_blendSpan_row hr hrun (by omega) (by omega)]
  refine congrArg (Prod.mk _) (recolor_congr hr fun x y p hx hy => ?_)
  have hcov := Clip.covers_iff b.extent left top hx hy
  by_cases hrow : (y : Int) - top.toInt = Clip.lower top + n
  · rw [if_pos hrow]
    by_cases hc : b.extent.Covers (x - left.toInt) (y - top.toInt)
    · have hin := hcov.mp hc
      have hidx : b.extent.indexAt (Clip.lower left) (Clip.lower top + n) +
          (x - (Clip.lower left + left.toInt).toNat) =
            b.extent.indexAt (x - left.toInt) (y - top.toInt) := by
        rw [← hrow]
        unfold Extent.indexAt
        omega
      rw [if_pos ⟨by omega, by omega, by omega⟩, hidx, Bitmap.at?, if_pos hc]
    · rw [if_neg fun h => hc (hcov.mpr (by omega)), Bitmap.at?_of_not_covers hc, Rgba.overlay]
  · rw [if_neg hrow, if_neg (by omega)]

/-- **The rows of a window.** After the first `n` rows, the pixels above the next one have the color
of the bitmap composited over them, where it has one, and no other pixel has changed. -/
theorem runOn_blendSpans {b : Bitmap} {r : Raster} {left top : Int32}
    (hr : r.Filled) (hb : b.Filled)
    (hcols : Clip.lower left < Clip.upper r.extent.width b.extent.width left) (n : Nat)
    (hn : Clip.lower top + n ≤ Clip.upper r.extent.height b.extent.height top) :
    (blendSpans b.pixels ((List.range n).map fun i =>
        (Clip.visible r.extent b.extent left top).span r.extent b.extent left top
          ((Clip.visible r.extent b.extent left top).y0 + Int64.ofNat i))).runOn r =
      (.ok (), r.recolor fun x y p =>
        if (y : Int) - top.toInt < Clip.lower top + n then
          p.overlay (b.at? (x - left.toInt) (y - top.toInt))
        else p) := by
  induction n with
  | zero =>
    refine (congrArg (Prod.mk _) (recolor_id hr fun x y p hx hy => ?_)).symm
    split
    · next h =>
      rw [Bitmap.at?_of_not_covers fun hc => ?_, Rgba.overlay]
      have := (Clip.covers_iff _ _ _ hx hy).mp hc
      omega
    · rfl
  | succ n ih =>
    rw [List.range_succ, List.map_append, runOn_blendSpans_append, ih (by omega)]
    simp only [List.map_cons, List.map_nil, blendSpans, Attempt.runOn_bind]
    have hrow := runOn_blendSpan_visible
      (hr.recolor fun x y p =>
        if (y : Int) - top.toInt < Clip.lower top + n then
          p.overlay (b.at? (x - left.toInt) (y - top.toInt)) else p)
      hb hcols top n (by rw [extent_recolor]; omega)
    rw [extent_recolor] at hrow
    simp only [hrow, Attempt.runOn_pure, recolor_recolor]
    refine congrArg (Prod.mk _) (recolor_congr hr fun x y p hx hy => ?_)
    rcases Int.lt_trichotomy (y - top.toInt) (Clip.lower top + n) with hlt | heq | hgt
    · rw [if_neg (by omega), if_pos hlt, if_pos (by omega)]
    · rw [if_pos heq, if_neg (by omega), if_pos (by omega)]
    · rw [if_neg (by omega), if_neg (by omega), if_neg (by omega)]

/-- **A blit is the pixelwise rule.** It never fails. Every pixel that lies under the bitmap gets the
color of the bitmap there composited over it, and nothing else changes. -/
theorem runOn_blit {b : Bitmap} {r : Raster} (left top : Int32)
    (hr : r.Filled) (hb : b.Filled) :
    (blit left top b).runOn r =
      (.ok (), r.recolor fun x y p => p.overlay (b.at? (x - left.toInt) (y - top.toInt))) := by
  simp only [blit, Attempt.runOn_bind, Attempt.runOn_get, Clip.spans]
  split
  · next h =>
    -- an empty window: no pixel of the raster lies under the bitmap
    rw [Clip.isEmpty_visible] at h
    simp only [blendSpans, Attempt.runOn_pure]
    refine (congrArg (Prod.mk _) (recolor_id hr fun x y p hx hy => ?_)).symm
    rw [Bitmap.at?_of_not_covers fun hc => ?_, Rgba.overlay]
    have := (Clip.covers_iff _ _ _ hx hy).mp hc
    omega
  · next h =>
    rw [Clip.isEmpty_visible, not_or] at h
    rw [Clip.rows_visible (by omega),
      runOn_blendSpans hr hb (by omega) _ (by omega)]
    refine congrArg (Prod.mk _) (recolor_congr hr fun x y p hx hy => ?_)
    by_cases hlt : (y : Int) - top.toInt < Clip.lower top +
        (Clip.upper r.extent.height b.extent.height top - Clip.lower top).toNat
    · rw [if_pos hlt]
    · rw [if_neg hlt, Bitmap.at?_of_not_covers fun hc => ?_, Rgba.overlay]
      have := (Clip.covers_iff _ _ _ hx hy).mp hc
      omega

end Raster

end SpriteStage
