/-
How far rounding moves a pixel.

Channels are whole numbers, so a color is rounded when it is premultiplied, and what it lets through
of the background is rounded when it is composited. Beside the pixel stands the rational number that
the same colors give without rounding (`Plan.exact`). Each color of partial alpha adds at most one
rounding of either sort to the distance of the two, and what was there before is only scaled down
(`Rgba.abs_sourceOver_sub_le`). Transparent and opaque colors add nothing.

A rounding is off by at most a half. The alpha of a color is not rounded when it is premultiplied, so
after `m` colors of partial alpha the alpha of a pixel is off by at most `m / 2`, and a color channel
by at most `m + 1 / 2`, of which the last half comes from the background
(`Plan.execute_near_exact`).
-/
import Mathlib.Algebra.Order.Field.Basic
import Mathlib.Algebra.Order.Ring.Rat
import Mathlib.Tactic.Linarith
import Mathlib.Tactic.NormNum
import Mathlib.Tactic.Ring
import SpriteStage.Proofs.Picture
import SpriteStage.Proofs.Rounding

set_option autoImplicit false

namespace SpriteStage

/-! ## Compositing without rounding -/

/-- The channel of the pixel of a color, as a fraction. -/
def Argb.exact (k : Rgba.Channel) (c : Argb) : ℚ := c.straight k * c.alpha.toNat / 255

/-- Source-over of a color in one channel, as a fraction. -/
def Argb.exactOver (k : Rgba.Channel) (e : ℚ) (c : Argb) : ℚ :=
  c.exact k + e * (255 - c.alpha.toNat) / 255

/-- Whether a color is neither transparent nor opaque. -/
def Argb.isTranslucent (c : Argb) : Bool := 0 < c.alpha && c.alpha < 255

namespace Plan

/-- The channel of the pixel of a point, as a fraction: the background under all colors of the plan
on the point. -/
def exact (p : Plan) (k : Rgba.Channel) (x y : Nat) : ℚ :=
  (p.colors x y).foldl (Argb.exactOver k) (p.clear.exact k)

/-- The number of colors of partial alpha on a point. -/
def blends (p : Plan) (x y : Nat) : Nat := (p.colors x y).countP Argb.isTranslucent

end Plan

/-! ## One rounding -/

theorem abs_scale_sub_le (x y : Nat) : |(scale x y : ℚ) - x * y / 255| ≤ 1 / 2 := by
  have hfloor : 255 * scale x y ≤ x * y + 127 ∧ x * y ≤ 255 * scale x y + 127 := by
    unfold scale
    generalize x * y = n
    omega
  have hlow : (255 : ℚ) * scale x y ≤ x * y + 127 := by exact_mod_cast hfloor.1
  have hhigh : (x * y : ℚ) ≤ 255 * scale x y + 127 := by exact_mod_cast hfloor.2
  rw [abs_le]
  constructor <;> linarith

/-- By how much a channel can be off when a color is premultiplied. -/
def Rgba.Channel.slack : Rgba.Channel → ℚ
  | .alpha => 0
  | _ => 1 / 2

namespace Argb

theorem exact_alpha (c : Argb) : c.exact .alpha = c.alpha.toNat := by
  rw [exact, straight, Nat.cast_ofNat, mul_div_assoc, mul_div_left_comm]
  norm_num

theorem abs_premultiply_sub_le (c : Argb) (k : Rgba.Channel) :
    |((c.premultiply.channel k).toNat : ℚ) - c.exact k| ≤ k.slack := by
  have hround := abs_scale_sub_le (c.straight k) c.alpha.toNat
  rw [toNat_channel_premultiply]
  cases k with
  | alpha =>
    rw [exact_alpha, straight, scale_comm, scale_255, sub_self, abs_zero]
    exact le_rfl
  | red => exact hround
  | green => exact hround
  | blue => exact hround

theorem exactOver_of_transparent {c : Argb} (hc : c.alpha = 0) (k : Rgba.Channel) (e : ℚ) :
    exactOver k e c = e := by
  have ha : c.alpha.toNat = 0 := congrArg UInt8.toNat hc
  rw [exactOver, exact, ha]
  norm_num

theorem exactOver_of_solid {c : Argb} (hc : c.alpha = 255) (k : Rgba.Channel) (e : ℚ) :
    exactOver k e c = c.straight k := by
  have ha : c.alpha.toNat = 255 := congrArg UInt8.toNat hc
  rw [exactOver, exact, ha]
  norm_num

end Argb

/-! ## One color -/

namespace Rgba

variable {k : Channel} {d : Rgba} {e δ : ℚ}

/-- What a color lets through of a background, rounded and not. The background is scaled down, so its
own distance does not grow. -/
theorem abs_scale_sub_through_le {v : Nat} (a : UInt8) (h : |(v : ℚ) - e| ≤ δ) :
    |(scale v (255 - a.toNat) : ℚ) - e * (255 - a.toNat) / 255| ≤ δ + 1 / 2 := by
  have hround := abs_scale_sub_le v (255 - a.toNat)
  have ha : (a.toNat : ℚ) ≤ 255 := by exact_mod_cast toNat_le_255 a
  have hnonneg : (0 : ℚ) ≤ a.toNat := Nat.cast_nonneg _
  rw [Nat.cast_sub (toNat_le_255 a), Nat.cast_ofNat] at hround
  have hbehind : |((v : ℚ) - e) * ((255 - a.toNat) / 255)| ≤ δ := by
    have hfactor : 0 ≤ (255 - (a.toNat : ℚ)) / 255 ∧ (255 - (a.toNat : ℚ)) / 255 ≤ 1 := by
      constructor <;> linarith
    rw [abs_mul, abs_of_nonneg hfactor.1]
    exact (mul_le_of_le_one_right (abs_nonneg _) hfactor.2).trans h
  calc |(scale v (255 - a.toNat) : ℚ) - e * (255 - a.toNat) / 255|
      = |((v : ℚ) - e) * ((255 - a.toNat) / 255) +
          (scale v (255 - a.toNat) - v * (255 - a.toNat) / 255)| := by
        congr 1
        ring
    _ ≤ δ + 1 / 2 := (abs_add_le _ _).trans (add_le_add hbehind hround)

/-- **One color.** A color of partial alpha adds one rounding of its own and one of the background to
the distance from the exact value. Any other color adds nothing. -/
theorem abs_sourceOver_sub_le (c : Argb) (h : |((d.channel k).toNat : ℚ) - e| ≤ δ) :
    |(((d.sourceOver c.premultiply).channel k).toNat : ℚ) - c.exactOver k e| ≤
      δ + if c.isTranslucent then k.slack + 1 / 2 else 0 := by
  by_cases h0 : c.alpha = 0
  · -- both stay where they were
    rw [sourceOver_of_transparent h0, Argb.exactOver_of_transparent h0]
    have hkeep : c.isTranslucent = false := by simp [Argb.isTranslucent, h0]
    rw [hkeep, if_neg nofun, add_zero]
    exact h
  by_cases h255 : c.alpha = 255
  · -- both become the color, which is not rounded at full alpha
    have halpha : c.alpha.toNat = 255 := congrArg UInt8.toNat h255
    rw [sourceOver_of_solid h255, Argb.exactOver_of_solid h255, Argb.toNat_channel_premultiply,
      halpha, scale_255, sub_self, abs_zero]
    have hkeep : c.isTranslucent = false := by simp [Argb.isTranslucent, h255]
    rw [hkeep, if_neg nofun, add_zero]
    exact (abs_nonneg _).trans h
  · have hblend : c.isTranslucent = true := by
      have hpos : 0 < c.alpha := UInt8.pos_iff_ne_zero.mpr h0
      have hlt : c.alpha < 255 := UInt8.lt_of_le_of_ne (UInt8.le_iff_toNat_le.mpr (toNat_le_255 _)) h255
      rw [Argb.isTranslucent, decide_eq_true hpos, decide_eq_true hlt, Bool.and_self]
    have hsource := c.abs_premultiply_sub_le k
    have hbehind := abs_scale_sub_through_le c.alpha h
    have ha : c.premultiply.a = c.alpha := rfl
    rw [toNat_channel_sourceOver c.premultiplied_premultiply, ha, Nat.cast_add, hblend, if_pos rfl,
      Argb.exactOver, add_sub_add_comm]
    refine (abs_add_le _ _).trans ((add_le_add hsource hbehind).trans_eq ?_)
    ring

/-- **All colors.** Every color of partial alpha adds once to the distance from the exact value. -/
theorem abs_foldl_sub_le (cs : List Argb) (h : |((d.channel k).toNat : ℚ) - e| ≤ δ) :
    |(((cs.foldl (fun q c => q.sourceOver c.premultiply) d).channel k).toNat : ℚ) -
        cs.foldl (Argb.exactOver k) e| ≤
      δ + cs.countP Argb.isTranslucent * (k.slack + 1 / 2) := by
  induction cs generalizing d e δ with
  | nil => simpa using h
  | cons c rest ih =>
    refine (ih (abs_sourceOver_sub_le c h)).trans_eq ?_
    rw [List.countP_cons]
    split
    · push_cast
      ring
    · rw [Nat.add_zero, add_zero]

end Rgba

/-! ## Plans -/

namespace Plan

theorem abs_pixel_sub_le (p : Plan) (k : Rgba.Channel) (x y : Nat) :
    |(((p.pixel x y).channel k).toNat : ℚ) - p.exact k x y| ≤
      k.slack + p.blends x y * (k.slack + 1 / 2) := by
  rw [pixel_eq_foldl]
  exact Rgba.abs_foldl_sub_le _ (p.clear.abs_premultiply_sub_le k)

/-- **Rounding drift is bounded.** Whatever a raster holds, carrying out a plan leaves every pixel
close to what the plan gives without rounding. With `m` colors of partial alpha on the point, the
alpha is off by `m / 2` at most, and each color channel by `m + 1 / 2`. -/
theorem execute_near_exact {p : Plan} {r : Raster} (hr : r.Filled) (hops : ∀ s ∈ p.ops, s.Drawable) :
    ∃ r', (execute p).runOn r = (.ok (r.frame + 1), r') ∧
      ∀ x y : UInt32, x < r.extent.width → y < r.extent.height →
        ∃ q, r'.readback.pixel? x y = some q ∧
          |(q.a.toNat : ℚ) - p.exact .alpha x.toNat y.toNat| ≤ p.blends x.toNat y.toNat / 2 ∧
          ∀ k ≠ .alpha, |((q.channel k).toNat : ℚ) - p.exact k x.toNat y.toNat| ≤
            p.blends x.toNat y.toNat + 1 / 2 := by
  refine ⟨_, Raster.runOn_execute hr hops, ?_⟩
  intro x y hx hy
  -- the two bounds are one, at the slack of the channel
  refine ⟨p.pixel x.toNat y.toNat, Raster.pixel?_of_picture rfl hx hy, ?_, ?_⟩
  · refine (p.abs_pixel_sub_le .alpha x.toNat y.toNat).trans_eq ?_
    rw [Rgba.Channel.slack]
    ring
  · intro k hk
    have hslack : k.slack = 1 / 2 := by
      cases k with
      | alpha => exact absurd rfl hk
      | _ => rfl
    refine (p.abs_pixel_sub_le k x.toNat y.toNat).trans_eq ?_
    rw [hslack]
    ring

/-- Two layers of partial alpha over a third: the red of the pixel is 64, which is more than two off
the exact value and not more than two and a half. -/
theorem execute_near_exact_of_two :
    let layer (id : Ident) (word : UInt32) : Sprite := { id, figure := .bitmap ⟨⟨1, 1⟩, #[⟨word⟩]⟩ }
    let p : Plan := ⟨⟨1, 1⟩, ⟨0x4e540000⟩, [layer 1 0x53860000, layer 2 0x02c00000]⟩
    ∃ r' q, (execute p).runOn (Raster.blank ⟨1, 1⟩) = (.ok 1, r') ∧
      r'.readback.pixel? 0 0 = some q ∧ q.r = 64 ∧
      2 < |(q.r.toNat : ℚ) - p.exact .red 0 0| ∧ |(q.r.toNat : ℚ) - p.exact .red 0 0| ≤ 2 + 1 / 2 := by
  intro layer p
  have hops : ∀ s ∈ p.ops, s.Drawable := by decide
  obtain ⟨r', hrun, hpixels⟩ := execute_near_exact (r := Raster.blank ⟨1, 1⟩) ⟨rfl, by decide⟩ hops
  obtain ⟨q, hq, -, hcolor⟩ := hpixels 0 0 (by decide) (by decide)
  have hred := hcolor .red nofun
  have hblends : p.blends (0 : UInt32).toNat (0 : UInt32).toNat = 2 := by decide +kernel
  have hvalue : ((execute p).runOn (Raster.blank ⟨1, 1⟩)).2.readback.pixel? 0 0 =
      some ⟨64, 0, 0, 137⟩ := by decide +kernel
  have hexact : p.exact .red 0 0 = 342540754 / 5527125 := by decide +kernel
  rw [hblends] at hred
  rw [hrun, hq] at hvalue
  obtain rfl := Option.some.inj hvalue
  have hfar : (2 : ℚ) < ((64 : ℕ) : ℚ) - 342540754 / 5527125 := by norm_num
  refine ⟨r', _, hrun, hq, rfl, ?_, hred⟩
  rw [hexact]
  exact hfar.trans_le (le_abs_self _)

end Plan

end SpriteStage
