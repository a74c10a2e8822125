/-
Points of a grid in integer coordinates.

Positions on a canvas are signed, and the difference of two of them need not fit into the word that
holds either, so statements about what covers what are made over the integers. This file carries the
grids of the library over to them: an extent covers a point (`Extent.Covers`), a bitmap has a color
there (`Bitmap.at?`), and the operations that take signed words are these at their values
(`Extent.index?_eq`, `Bitmap.pixel?_eq_at?`).

The storage is row by row, and the one fact about it that everything rests on is that the index
tells the point: `y * width + x` with `x` below the width has `y` as quotient and `x` as remainder,
so a write at one point is never a write at another.
-/
import Mathlib.Algebra.Group.Int.Defs
import Mathlib.Algebra.Group.Nat.Defs
import SpriteStage.Sprite

set_option autoImplicit false

namespace SpriteStage

/-! ## Words as integers -/

/-- A signed word that is not negative keeps its value as an unsigned one. -/
theorem toNat_toUInt32_of_nonneg {x : Int32} (hx : 0 ≤ x.toInt) :
    x.toUInt32.toNat = x.toInt.toNat :=
  Int32.toNat_toUInt32_of_le (Int32.le_iff_toInt_le.mpr hx)

/-! ## Row-major indices -/

/-- A point inside has an index below the area. -/
theorem rowMajor_lt {w h x y : Nat} (hx : x < w) (hy : y < h) : y * w + x < w * h := by
  have hrow : (y + 1) * w ≤ h * w := Nat.mul_le_mul_right w hy
  rw [Nat.mul_comm w h]
  rw [Nat.add_mul, Nat.one_mul] at hrow
  omega

/-- The row of a point is the quotient of its index. -/
theorem rowMajor_div {w x : Nat} (y : Nat) (hx : x < w) : (y * w + x) / w = y := by
  rw [Nat.mul_comm, Nat.mul_add_div (by omega), Nat.div_eq_of_lt hx, Nat.add_zero]

/-- The column of a point is the remainder of its index. -/
theorem rowMajor_mod {w x : Nat} (y : Nat) (hx : x < w) : (y * w + x) % w = x := by
  rw [Nat.mul_comm, Nat.mul_add_mod, Nat.mod_eq_of_lt hx]

/-- Two points of one grid with the same index are the same point. -/
theorem rowMajor_inj {w x y x' y' : Nat} (hx : x < w) (hx' : x' < w)
    (h : y * w + x = y' * w + x') : x = x' ∧ y = y' := by
  constructor
  · rw [← rowMajor_mod y hx, h, rowMajor_mod y' hx']
  · rw [← rowMajor_div y hx, h, rowMajor_div y' hx']

/-- Every index below the area is the index of a point. -/
theorem exists_rowMajor {w h i : Nat} (hi : i < w * h) :
    i % w < w ∧ i / w < h ∧ i / w * w + i % w = i := by
  have hw : 0 < w := Nat.pos_of_ne_zero fun h0 => by simp [h0] at hi
  refine ⟨Nat.mod_lt i hw, Nat.div_lt_of_lt_mul hi, ?_⟩
  rw [Nat.mul_comm]
  exact Nat.div_add_mod i w

/-- An index lies in a run of one row exactly if its point does. The run starts at column `a` of row
`r` and may reach up to the end of the row. -/
theorem rowMajor_mem_run {w x y r a n : Nat} (hx : x < w) (ha : a + n ≤ w) :
    (r * w + a ≤ y * w + x ∧ y * w + x < r * w + a + n) ↔ y = r ∧ a ≤ x ∧ x < a + n := by
  constructor
  · rintro ⟨hlo, hhi⟩
    -- the run starts and ends in row `r`, so an index in it has quotient `r`
    have hrow : y = r := by
      rcases Nat.lt_trichotomy y r with hlt | heq | hgt
      · have : (y + 1) * w ≤ r * w := Nat.mul_le_mul_right w hlt
        rw [Nat.add_mul, Nat.one_mul] at this
        omega
      · exact heq
      · have : (r + 1) * w ≤ y * w := Nat.mul_le_mul_right w hgt
        rw [Nat.add_mul, Nat.one_mul] at this
        omega
    subst hrow
    exact ⟨rfl, by omega, by omega⟩
  · rintro ⟨rfl, hlo, hhi⟩
    exact ⟨by omega, by omega⟩

/-! ## Extents -/

namespace Extent

/-- Whether a point with integer coordinates lies inside. -/
def Covers (e : Extent) (x y : Int) : Prop :=
  0 ≤ x ∧ x < e.width.toNat ∧ 0 ≤ y ∧ y < e.height.toNat

instance (e : Extent) (x y : Int) : Decidable (e.Covers x y) := by
  unfold Covers
  infer_instance

/-- The index of a point with integer coordinates. -/
def indexAt (e : Extent) (x y : Int) : Nat := y.toNat * e.width.toNat + x.toNat

/-- A point given by unsigned words has an index below the area. -/
theorem rowMajor_lt_area {e : Extent} {x y : UInt32} (hx : x < e.width) (hy : y < e.height) :
    y.toNat * e.width.toNat + x.toNat < e.area :=
  rowMajor_lt (UInt32.lt_iff_toNat_lt.mp hx) (UInt32.lt_iff_toNat_lt.mp hy)

/-- The index of a point, from its coordinates as integers. -/
theorem index?_eq (e : Extent) (x y : Int32) :
    e.index? x y =
      if e.Covers x.toInt y.toInt then some (e.indexAt x.toInt y.toInt) else none := by
  have inside (v : Int32) (n : UInt32) (hv : 0 ≤ v.toInt) :
      v.toUInt32 < n ↔ v.toInt < n.toNat := by
    rw [UInt32.lt_iff_toNat_lt, toNat_toUInt32_of_nonneg hv]
    omega
  have hzero (v : Int32) : (0 : Int32) ≤ v ↔ 0 ≤ v.toInt := Int32.le_iff_toInt_le
  unfold index? indexAt
  by_cases h : e.Covers x.toInt y.toInt
  · obtain ⟨hx, hxw, hy, hyh⟩ := h
    rw [if_pos ⟨(hzero x).mpr hx, (hzero y).mpr hy, (inside x _ hx).mpr hxw,
      (inside y _ hy).mpr hyh⟩, if_pos ⟨hx, hxw, hy, hyh⟩, toNat_toUInt32_of_nonneg hx,
      toNat_toUInt32_of_nonneg hy]
  · rw [if_neg h, if_neg]
    rintro ⟨hx, hy, hxw, hyh⟩
    rw [hzero] at hx hy
    exact h ⟨hx, (inside x _ hx).mp hxw, hy, (inside y _ hy).mp hyh⟩

/-- The index of a point inside, as an integer. -/
theorem Covers.natCast_indexAt {e : Extent} {x y : Int} (h : e.Covers x y) :
    (e.indexAt x y : Int) = y * e.width.toNat + x := by
  obtain ⟨hx, -, hy, -⟩ := h
  rw [indexAt, Int.natCast_add, Int.natCast_mul, Int.toNat_of_nonneg hy, Int.toNat_of_nonneg hx]

/-- A point inside has an index below the area. -/
theorem Covers.index_lt {e : Extent} {x y : Int} (h : e.Covers x y) :
    e.indexAt x y < e.area := by
  obtain ⟨hx, hxw, hy, hyh⟩ := h
  exact rowMajor_lt (by omega) (by omega)

/-- A run from a point inside that does not go beyond the end of the row stays inside. -/
theorem Covers.index_add_le {e : Extent} {x y : Int} (h : e.Covers x y) {n : Nat}
    (hn : x + n ≤ e.width.toNat) : e.indexAt x y + n ≤ e.area := by
  obtain ⟨hx, -, hy, hyh⟩ := h
  have hrow : (y.toNat + 1) * e.width.toNat ≤ e.height.toNat * e.width.toNat :=
    Nat.mul_le_mul_right _ (by omega)
  rw [Nat.add_mul, Nat.one_mul, Nat.mul_comm e.height.toNat] at hrow
  rw [indexAt, area]
  omega

/-- Two points inside with the same index are the same point. -/
theorem Covers.index_inj {e : Extent} {x y x' y' : Int} (h : e.Covers x y) (h' : e.Covers x' y')
    (heq : e.indexAt x y = e.indexAt x' y') : x = x' ∧ y = y' := by
  obtain ⟨hx, hxw, hy, hyh⟩ := h
  obtain ⟨hx', hxw', hy', hyh'⟩ := h'
  obtain ⟨hxx, hyy⟩ := rowMajor_inj (by omega) (by omega) heq
  omega

end Extent

/-! ## Bitmaps -/

namespace Bitmap

/-- Bitmaps whose pixels fill their extent, which is one that fits into memory. -/
structure Filled (b : Bitmap) : Prop where
  size_eq : b.pixels.size = b.extent.area
  fits : b.extent.area < 2 ^ 63

instance (b : Bitmap) : Decidable b.Filled :=
  decidable_of_iff (b.pixels.size = b.extent.area ∧ b.extent.area < 2 ^ 63)
    ⟨fun h => ⟨h.1, h.2⟩, fun h => ⟨h.size_eq, h.fits⟩⟩

/-- The color of a point with integer coordinates, or `none` outside. -/
def at? (b : Bitmap) (x y : Int) : Option Argb :=
  if b.extent.Covers x y then b.pixels[b.extent.indexAt x y]? else none

/-- The color that a bitmap answers for two words is the color at their values. -/
theorem pixel?_eq_at? (b : Bitmap) (x y : Int32) : b.pixel? x y = b.at? x.toInt y.toInt := by
  unfold pixel? at?
  rw [Extent.index?_eq]
  split <;> rfl

/-- A bitmap has no color outside. -/
theorem at?_of_not_covers {b : Bitmap} {x y : Int} (h : ¬ b.extent.Covers x y) :
    b.at? x y = none := if_neg h

theorem Filled.exists_at? {b : Bitmap} (hb : b.Filled) {x y : Int} (h : b.extent.Covers x y) :
    ∃ color, b.at? x y = some color := by
  have hlt := h.index_lt
  rw [← hb.size_eq] at hlt
  rw [at?, if_pos h]
  exact ⟨_, Array.getElem?_eq_getElem hlt⟩

/-- A new bitmap is transparent throughout. -/
theorem pixel?_blank (e : Extent) (x y : Int32) :
    (blank e).pixel? x y = if e.Covers x.toInt y.toInt then some .transparent else none := by
  rw [pixel?_eq_at?, at?]
  by_cases h : e.Covers x.toInt y.toInt
  · rw [if_pos h, if_pos (by exact h)]
    rw [blank, Array.getElem?_replicate, if_pos h.index_lt]
  · rw [if_neg h, if_neg (by exact h)]

/-- Recoloring a point is possible exactly inside. -/
theorem setPixel?_eq (b : Bitmap) (x y : Int32) (color : Argb) :
    b.setPixel? x y color =
      if b.extent.Covers x.toInt y.toInt then
        some { b with pixels := b.pixels.setIfInBounds (b.extent.indexAt x.toInt y.toInt) color }
      else none := by
  unfold setPixel?
  rw [Extent.index?_eq]
  split <;> rfl

theorem extent_setPixel? {b b' : Bitmap} {x y : Int32} {color : Argb}
    (h : b.setPixel? x y color = some b') :
    b'.extent = b.extent ∧ b'.pixels.size = b.pixels.size := by
  rw [setPixel?_eq] at h
  split at h
  · cases h
    exact ⟨rfl, Array.size_setIfInBounds⟩
  · cases h

/-- **One recolored point.** The point has the new color, and every other point the one it had. -/
theorem pixel?_setPixel? {b b' : Bitmap} {x y : Int32} {color : Argb}
    (hb : b.Filled) (h : b.setPixel? x y color = some b') (x' y' : Int32) :
    b'.pixel? x' y' = if x' = x ∧ y' = y then some color else b.pixel? x' y' := by
  rw [setPixel?_eq] at h
  split at h
  · next hc =>
    rw [Option.some.injEq] at h
    subst h
    rw [pixel?_eq_at?, pixel?_eq_at?, at?, at?]
    have hlt := hc.index_lt
    rw [← hb.size_eq] at hlt
    by_cases hpt : x' = x ∧ y' = y
    · obtain ⟨rfl, rfl⟩ := hpt
      rw [if_pos (by exact hc), if_pos ⟨rfl, rfl⟩, Array.getElem?_setIfInBounds_self_of_lt hlt]
    · rw [if_neg hpt]
      by_cases hc' : b.extent.Covers x'.toInt y'.toInt
      · rw [if_pos (by exact hc'), if_pos hc']
        refine Array.getElem?_setIfInBounds_ne fun heq => hpt ?_
        obtain ⟨hx, hy⟩ := hc'.index_inj hc heq.symm
        exact ⟨Int32.toInt_inj.mp hx, Int32.toInt_inj.mp hy⟩
      · rw [if_neg (by exact hc'), if_neg hc']
  · exact absurd h (by simp)

/-- **All points recolored.** Each has the word that stands at its index. -/
theorem pixel?_words (b : Bitmap) (words : List UInt32) (x y : Int32) :
    ({ b with pixels := (words.map Argb.mk).toArray } : Bitmap).pixel? x y =
      if b.extent.Covers x.toInt y.toInt then
        (words[b.extent.indexAt x.toInt y.toInt]?).map Argb.mk
      else none := by
  rw [pixel?_eq_at?, at?]
  by_cases h : b.extent.Covers x.toInt y.toInt
  · rw [if_pos h, if_pos (by exact h)]
    simp only [List.getElem?_toArray, List.getElem?_map]
  · rw [if_neg h, if_neg (by exact h)]

end Bitmap

end SpriteStage
