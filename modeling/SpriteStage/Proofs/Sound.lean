/-
The invariant of a stage.

Whatever is on a stage was checked when it was created, and no operation undoes what was checked:
every sprite and every canvas stands under its own id, dimensions lie between one and the limit, a
bitmap has one color for each point and a raster one pixel. `Stage.Sound` collects this. It is what
makes a redraw go through: the pixels of every bitmap and of the raster fill an extent that fits
into memory, so a plan of a sound stage is carried out to its end (`Canvas.runOn_execute`).
-/
import SpriteStage.Stage
import SpriteStage.Proofs.PaintingOrder
import SpriteStage.Proofs.Picture

set_option autoImplicit false

namespace SpriteStage

/-! ## Dimensions -/

namespace Extent

/-- Whether a requested width and height both lie between one and a limit. -/
def Within (limit : UInt32) (width height : Int32) : Prop :=
  (1 ≤ width.toInt ∧ width.toInt ≤ limit.toNat) ∧ 1 ≤ height.toInt ∧ height.toInt ≤ limit.toNat

instance (limit : UInt32) (width height : Int32) : Decidable (Within limit width height) := by
  unfold Within
  infer_instance

/-- A request is granted exactly within the limit. -/
theorem request_eq (limit : UInt32) (width height : Int32) :
    request width height limit =
      if Within limit width height then .ok ⟨width.toUInt32, height.toUInt32⟩
      else .error (.invalidDimensions width.toInt height.toInt) := by
  have admitted (v : Int32) :
      (decide (0 < v) && decide (v.toUInt32 ≤ limit)) = true ↔
        1 ≤ v.toInt ∧ v.toInt ≤ limit.toNat := by
    have hpos : (0 : Int32) < v ↔ 0 < v.toInt := Int32.lt_iff_toInt_lt
    rw [Bool.and_eq_true, decide_eq_true_iff, decide_eq_true_iff, hpos, UInt32.le_iff_toNat_le]
    constructor
    · rintro ⟨hv, hle⟩
      rw [toNat_toUInt32_of_nonneg (by omega)] at hle
      omega
    · rintro ⟨hv, hle⟩
      rw [toNat_toUInt32_of_nonneg (by omega)]
      omega
  by_cases h : Within limit width height
  · rw [if_pos h]
    exact if_pos (Bool.and_eq_true_iff.mpr ⟨(admitted width).mpr h.1, (admitted height).mpr h.2⟩)
  · rw [if_neg h]
    refine if_neg fun hc => h ?_
    obtain ⟨hw, hh⟩ := Bool.and_eq_true_iff.mp hc
    exact ⟨(admitted width).mp hw, (admitted height).mp hh⟩

/-- Extents that something of the given limit can have. -/
structure Admitted (e : Extent) (limit : UInt32) : Prop where
  width_pos : 1 ≤ e.width.toNat
  width_le : e.width.toNat ≤ limit.toNat
  width_lt : e.width.toNat < 2 ^ 31
  height_pos : 1 ≤ e.height.toNat
  height_le : e.height.toNat ≤ limit.toNat
  height_lt : e.height.toNat < 2 ^ 31

theorem Within.admitted {limit : UInt32} {width height : Int32} (h : Within limit width height) :
    (⟨width.toUInt32, height.toUInt32⟩ : Extent).Admitted limit := by
  obtain ⟨⟨hw, hwl⟩, hh, hhl⟩ := h
  have hwt := width.toInt_lt
  have hht := height.toInt_lt
  have ew : width.toUInt32.toNat = width.toInt.toNat := toNat_toUInt32_of_nonneg (by omega)
  have eh : height.toUInt32.toNat = height.toInt.toNat := toNat_toUInt32_of_nonneg (by omega)
  constructor <;> simp only [ew, eh] <;> omega

/-- An admitted extent fits into memory. -/
theorem Admitted.area_lt {e : Extent} {limit : UInt32} (h : e.Admitted limit) :
    e.area < 2 ^ 63 := by
  have hle : e.area ≤ (2 ^ 31 - 1) * (2 ^ 31 - 1) :=
    Nat.mul_le_mul (Nat.le_sub_one_of_lt h.width_lt) (Nat.le_sub_one_of_lt h.height_lt)
  omega

end Extent

/-! ## Elements -/

/-- Sprites as the sprite table keeps them under an id. -/
structure Sprite.Sound (limit : UInt32) (id : Ident) (s : Sprite) : Prop where
  id_eq : s.id = id
  extent : ∀ b, s.figure = .bitmap b → b.extent.Admitted limit
  size_eq : ∀ b, s.figure = .bitmap b → b.pixels.size = b.extent.area
  fontSize : ∀ t, s.figure = .text t → 1 ≤ t.fontSize.toNat ∧ t.fontSize.toNat < 2 ^ 31

/-- Canvases as a stage keeps them under an id. -/
structure Canvas.Sound (limit : UInt32) (id : Ident) (c : Canvas) : Prop where
  id_eq : c.id = id
  extent : c.extent.Admitted limit
  raster_extent : c.raster.extent = c.extent
  raster_size : c.raster.pixels.size = c.extent.area

/-- Stages on which everything is as it was checked at its creation. -/
structure Stage.Sound {σ : Type} (s : Stage σ) : Prop where
  limit_eq : s.sprites.limit = s.settings.limit
  sprite : ∀ {id sp}, s.sprites.find? id = some sp → sp.Sound s.settings.limit id
  canvas : ∀ {id c}, s.canvases.find? id = some c → c.Sound s.settings.limit id

theorem Stage.Sound.keyed {σ : Type} {s : Stage σ} (hs : s.Sound) : s.sprites.Keyed := by
  intro id sp hfind
  exact (hs.sprite hfind).id_eq

theorem Sprite.Sound.filled {limit : UInt32} {id : Ident} {s : Sprite} (hs : s.Sound limit id)
    {b : Bitmap} (hf : s.figure = .bitmap b) : b.Filled :=
  ⟨hs.size_eq b hf, (hs.extent b hf).area_lt⟩

theorem Canvas.Sound.filled {limit : UInt32} {id : Ident} {c : Canvas} (hc : c.Sound limit id) :
    c.raster.Filled :=
  ⟨by rw [hc.raster_size, hc.raster_extent], by rw [hc.raster_extent]; exact hc.extent.area_lt⟩

/-! ## Redraws -/

namespace Canvas

/-- The canvas with the picture of its plan presented. -/
def redrawn (c : Canvas) (sprites : SpriteTable) (clear : Argb) : Canvas :=
  { c with raster :=
    ⟨c.raster.extent, (c.plan sprites clear).picture c.raster.extent, (c.plan sprites clear).runs,
      c.raster.frame + 1⟩ }

variable {σ : Type} {s : Stage σ}

/-- Everything that a plan of a sound stage lists can be drawn. -/
theorem drawable_of_mem_ops (hs : s.Sound) {c : Canvas} {clear : Argb} :
    ∀ sp ∈ (c.plan s.sprites clear).ops, sp.Drawable := by
  intro sp hsp b hb
  obtain ⟨id, -, hfind⟩ := mem_ops.mp hsp
  exact (hs.sprite hfind).filled hb

/-- On any raster that fills its extent, a plan of a sound stage is carried out to its end. -/
theorem runOn_execute (hs : s.Sound) (c : Canvas) (clear : Argb) {r : Raster} (hr : r.Filled) :
    (Plan.execute (c.plan s.sprites clear) : Attempt Raster UInt64).runOn r =
      (.ok (r.frame + 1), ⟨r.extent, (c.plan s.sprites clear).picture r.extent,
        (c.plan s.sprites clear).runs, r.frame + 1⟩) :=
  Raster.runOn_execute hr (drawable_of_mem_ops hs)

end Canvas

/-- Redrawing a canvas that exists presents the picture of its plan, and changes nothing else. -/
theorem Stage.runOn_redrawCanvas {σ : Type} {s : Stage σ} (hs : s.Sound) {id : Ident} {c : Canvas}
    (hc : s.canvases.find? id = some c) :
    (redrawCanvas id : Attempt (Stage σ) UInt64).runOn s =
      (.ok (c.raster.frame + 1), s.storeCanvas id (c.redrawn s.sprites s.settings.clear)) := by
  have hexec := Canvas.runOn_execute hs c s.settings.clear (hs.canvas hc).filled
  rw [Attempt.runOn] at hexec
  simp only [redrawCanvas, Attempt.runOn_bind, Attempt.runOn_get, Attempt.runOn_liftM, canvas, hc,
    hexec, Attempt.runOn_set]
  rfl

end SpriteStage
