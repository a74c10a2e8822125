/-
Rounding in the arithmetic of pixels.

Three formulas round: the premultiplied pixel of a color, the part of a background that a pixel lets
through, and the way back to straight alpha. The first two are one product, `scale`, and the third
is the quotient `unscale`. Both are held at 255 where they are used. The holds never bite, and the
two roundings undo each other, but only on pixels whose colors do not exceed their alpha. Such
pixels are called premultiplied here (`Rgba.Premultiplied`), and that is the one condition that
everything below rests on.

* The pixel of every color is premultiplied, and a premultiplied pixel over another is one again
  (`Argb.premultiplied_premultiply`, `Rgba.Premultiplied.sourceOver`).
* Source-over is the exact sum in all three of its cases (`Rgba.toNat_channel_sourceOver`).
* Division by the alpha is the exact quotient (`Rgba.Premultiplied.toNat_channel_unpremultiply`),
  and the color that it gives has the same premultiplied pixel as before
  (`Rgba.Premultiplied.premultiply_pack`).

What is used of the rounding is little: `scale` grows with either factor, is exact at 0 and 255, and
an error of at most half an alpha in `unscale` is too small to change a product that is rounded to
the nearest 255th.
-/
import Mathlib.Algebra.Group.Nat.Defs
import SpriteStage.Color

set_option autoImplicit false

namespace SpriteStage

/-! ## Products of channel values -/

theorem scale_comm (x y : Nat) : scale x y = scale y x := by
  rw [scale, scale, Nat.mul_comm]

theorem scale_zero (x : Nat) : scale x 0 = 0 := by
  rw [scale, Nat.mul_zero]

theorem scale_255 (x : Nat) : scale x 255 = x := by
  unfold scale
  omega

theorem scale_mono {x x' : Nat} (h : x ≤ x') (y : Nat) : scale x y ≤ scale x' y := by
  have hmul := Nat.mul_le_mul_right y h
  unfold scale
  omega

/-- A fraction of a channel value is no more than the value. -/
theorem scale_le_right {x : Nat} (hx : x ≤ 255) (y : Nat) : scale x y ≤ y := by
  have hle := scale_mono hx y
  rw [scale_comm 255, scale_255] at hle
  exact hle

/-! ## Quotients of channel values -/

/-- The channel value whose fraction by the alpha `a` is `c`, to the nearest. -/
def unscale (c a : Nat) : Nat := (c * 255 + a / 2) / a

/-- A channel value that does not exceed the alpha has a quotient in the range of channels. -/
theorem unscale_le {c a : Nat} (hpos : 0 < a) (hc : c ≤ a) : unscale c a ≤ 255 := by
  rw [unscale, ← Nat.lt_succ_iff, Nat.div_lt_iff_lt_mul hpos]
  omega

theorem unscale_255 (c : Nat) : unscale c 255 = c := by
  unfold unscale
  omega

/-- **The two roundings cancel.** The quotient misses by less than one alpha downwards and by at most
half of one upwards, and the product is off by 127 at most before it is cut to a 255th. -/
theorem scale_unscale {c a : Nat} (hpos : 0 < a) (ha : a ≤ 255) : scale (unscale c a) a = c := by
  have hle := Nat.div_mul_le_self (c * 255 + a / 2) a
  have hlt := Nat.lt_div_mul_add (a := c * 255 + a / 2) hpos
  unfold scale unscale
  generalize (c * 255 + a / 2) / a * a = n at *
  omega

/-! ## Premultiplied pixels -/

namespace Rgba

/-- The four channels of a pixel. -/
inductive Channel where
  | red | green | blue | alpha
deriving DecidableEq

/-- The value of a channel. -/
def channel (p : Rgba) : Channel → UInt8
  | .red => p.r
  | .green => p.g
  | .blue => p.b
  | .alpha => p.a

/-- Pixels whose colors do not exceed their alpha. -/
structure Premultiplied (p : Rgba) : Prop where
  red : p.r ≤ p.a
  green : p.g ≤ p.a
  blue : p.b ≤ p.a

theorem ext_channel {p q : Rgba} (h : ∀ k, (p.channel k).toNat = (q.channel k).toNat) : p = q := by
  have hchannel (k : Channel) : p.channel k = q.channel k := UInt8.toNat_inj.mp (h k)
  obtain ⟨r, g, b, a⟩ := p
  obtain ⟨r', g', b', a'⟩ := q
  obtain rfl : r = r' := hchannel .red
  obtain rfl : g = g' := hchannel .green
  obtain rfl : b = b' := hchannel .blue
  obtain rfl : a = a' := hchannel .alpha
  rfl

theorem toNat_le_255 (v : UInt8) : v.toNat ≤ 255 := Nat.le_of_lt_succ v.toNat_lt

theorem premultiplied_iff {p : Rgba} :
    p.Premultiplied ↔ ∀ k, (p.channel k).toNat ≤ p.a.toNat := by
  constructor
  · intro hp k
    rw [← UInt8.le_iff_toNat_le]
    cases k with
    | red => exact hp.red
    | green => exact hp.green
    | blue => exact hp.blue
    | alpha => exact UInt8.le_refl p.a
  · intro h
    exact ⟨UInt8.le_iff_toNat_le.mpr (h .red), UInt8.le_iff_toNat_le.mpr (h .green),
      UInt8.le_iff_toNat_le.mpr (h .blue)⟩

theorem toNat_channel_clear (k : Channel) : (clear.channel k).toNat = 0 := by
  cases k <;> rfl

theorem premultiplied_clear : clear.Premultiplied := by
  rw [premultiplied_iff]
  intro k
  rw [toNat_channel_clear]
  exact Nat.zero_le _

/-- A premultiplied pixel without alpha has no color either. -/
theorem Premultiplied.eq_clear {p : Rgba} (hp : p.Premultiplied) (ha : p.a = 0) : p = clear := by
  refine ext_channel fun k => ?_
  have hle := premultiplied_iff.mp hp k
  rw [ha] at hle
  rw [toNat_channel_clear]
  exact Nat.le_zero.mp hle

end Rgba

/-- The straight channel values of a color, with 255 for the alpha. -/
def Argb.straight (c : Argb) : Rgba.Channel → Nat
  | .red => c.red.toNat
  | .green => c.green.toNat
  | .blue => c.blue.toNat
  | .alpha => 255

/-- Every channel of the pixel of a color is the straight value as a fraction of the alpha. -/
theorem Argb.toNat_channel_premultiply (c : Argb) (k : Rgba.Channel) :
    (c.premultiply.channel k).toNat = scale (c.straight k) c.alpha.toNat := by
  have ha := Rgba.toNat_le_255 c.alpha
  have color (v : UInt8) :
      (UInt8.ofNat (scale v.toNat c.alpha.toNat)).toNat = scale v.toNat c.alpha.toNat := by
    have hle := scale_le_right (Rgba.toNat_le_255 v) c.alpha.toNat
    exact UInt8.toNat_ofNat_of_lt' (Nat.lt_succ_of_le (Nat.le_trans hle ha))
  cases k with
  | red => exact color c.red
  | green => exact color c.green
  | blue => exact color c.blue
  | alpha =>
    rw [straight, scale_comm, scale_255]
    rfl

/-- The pixel of a color is premultiplied. -/
theorem Argb.premultiplied_premultiply (c : Argb) : c.premultiply.Premultiplied := by
  rw [Rgba.premultiplied_iff]
  intro k
  have hstraight : c.straight k ≤ 255 := by
    cases k with
    | alpha => exact Nat.le_refl 255
    | _ => exact Rgba.toNat_le_255 _
  rw [toNat_channel_premultiply]
  exact scale_le_right hstraight _

/-! ## Source-over -/

namespace Rgba

variable {dst src p : Rgba}

/-- A transparent source leaves the background as it is. -/
theorem sourceOver_of_transparent (hs : src.a = 0) (dst : Rgba) : dst.sourceOver src = dst := by
  rw [sourceOver, if_pos hs]

/-- An opaque source replaces the background. -/
theorem sourceOver_of_solid (hs : src.a = 255) (dst : Rgba) : dst.sourceOver src = src := by
  have hne : ¬ src.a = 0 := by
    rw [hs]
    decide
  rw [sourceOver, if_neg hne, if_pos hs]

/-- What a channel and the background that shows through add up to is again a channel value. -/
theorem blend_le {s a d : Nat} (hs : s ≤ a) (ha : a ≤ 255) (hd : d ≤ 255) :
    s + scale d (255 - a) ≤ 255 := by
  have hthrough := scale_le_right hd (255 - a)
  omega

/-- **Source-over is one sum.** In every channel, and whichever case the alpha of the source leads
to, the result is the source plus what the source lets through, as numbers without a bound. -/
theorem toNat_channel_sourceOver (hs : src.Premultiplied) (dst : Rgba) (k : Channel) :
    ((dst.sourceOver src).channel k).toNat =
      (src.channel k).toNat + scale (dst.channel k).toNat (255 - src.a.toNat) := by
  have hle := premultiplied_iff.mp hs k
  unfold sourceOver
  split
  · next h0 =>
    -- a transparent source adds nothing and lets everything through
    rw [h0] at hle ⊢
    rw [Nat.le_zero.mp hle, Nat.zero_add]
    exact (scale_255 _).symm
  · split
    · next h255 =>
      -- an opaque source lets nothing through
      rw [h255]
      exact (congrArg ((src.channel k).toNat + ·) (scale_zero _)).symm
    · -- in between the sum is held at 255, which it does not exceed
      have hsum := blend_le hle (toNat_le_255 src.a) (toNat_le_255 (dst.channel k))
      have held (s d : UInt8) (h : s.toNat + scale d.toNat (255 - src.a.toNat) ≤ 255) :
          (UInt8.ofNat (min 255 (s.toNat + scale d.toNat (255 - src.a.toNat)))).toNat =
            s.toNat + scale d.toNat (255 - src.a.toNat) := by
        rw [Nat.min_eq_right h]
        exact UInt8.toNat_ofNat_of_lt' (Nat.lt_succ_of_le h)
      cases k with
      | red => exact held _ _ hsum
      | green => exact held _ _ hsum
      | blue => exact held _ _ hsum
      | alpha => exact held _ _ hsum

/-- A premultiplied pixel over a premultiplied background is premultiplied: the sum grows with both
its parts, and the alpha has the largest of either. -/
theorem Premultiplied.sourceOver (hd : dst.Premultiplied) (hs : src.Premultiplied) :
    (dst.sourceOver src).Premultiplied := by
  rw [premultiplied_iff]
  intro k
  have halpha := toNat_channel_sourceOver hs dst .alpha
  have hcolor := scale_mono (premultiplied_iff.mp hd k) (255 - src.a.toNat)
  have hsource := premultiplied_iff.mp hs k
  rw [toNat_channel_sourceOver hs dst k]
  change ((dst.sourceOver src).a).toNat = src.a.toNat + scale dst.a.toNat _ at halpha
  rw [halpha]
  exact Nat.add_le_add hsource hcolor

/-- Over transparent black a premultiplied pixel is itself. -/
theorem Premultiplied.sourceOver_clear (hs : src.Premultiplied) : clear.sourceOver src = src := by
  refine ext_channel fun k => ?_
  rw [toNat_channel_sourceOver hs clear k, toNat_channel_clear, scale_comm, scale_zero,
    Nat.add_zero]

/-! ## Straight alpha -/

/-- **Division by the alpha is exact.** In every color channel the straight pixel has the rounded
quotient, as a number without a bound. -/
theorem Premultiplied.toNat_channel_unpremultiply (hp : p.Premultiplied) (ha : p.a ≠ 0)
    {k : Channel} (hk : k ≠ .alpha) :
    (p.unpremultiply.channel k).toNat = unscale (p.channel k).toNat p.a.toNat := by
  have hpos : 0 < p.a.toNat := UInt8.lt_iff_toNat_lt.mp (UInt8.pos_iff_ne_zero.mpr ha)
  have hle := unscale_le hpos (premultiplied_iff.mp hp k)
  rw [unpremultiply, if_neg ha]
  split
  · next h255 =>
    rw [h255]
    exact (unscale_255 _).symm
  · have held (c : UInt8) (h : unscale c.toNat p.a.toNat ≤ 255) :
        (UInt8.ofNat (min 255 ((c.toNat * 255 + p.a.toNat / 2) / p.a.toNat))).toNat =
          unscale c.toNat p.a.toNat := by
      rw [← unscale, Nat.min_eq_right h]
      exact UInt8.toNat_ofNat_of_lt' (Nat.lt_succ_of_le h)
    cases k with
    | red => exact held _ hle
    | green => exact held _ hle
    | blue => exact held _ hle
    | alpha => exact absurd rfl hk

/-- The alpha of a pixel is the alpha of its straight form. -/
theorem a_unpremultiply (p : Rgba) : p.unpremultiply.a = p.a := by
  unfold unpremultiply
  split
  · next h0 => exact h0.symm
  · split <;> rfl

/-! ## Colors of straight pixels -/

/-- The color of a straight pixel. -/
def pack (p : Rgba) : Argb :=
  ⟨UInt32.ofNat (((p.a.toNat * 256 + p.r.toNat) * 256 + p.g.toNat) * 256 + p.b.toNat)⟩

theorem toNat_word_pack (p : Rgba) : p.pack.word.toNat =
    ((p.a.toNat * 256 + p.r.toNat) * 256 + p.g.toNat) * 256 + p.b.toNat := by
  have ha := toNat_le_255 p.a
  have hr := toNat_le_255 p.r
  have hg := toNat_le_255 p.g
  have hb := toNat_le_255 p.b
  exact UInt32.toNat_ofNat_of_lt' (by rw [UInt32.size]; omega)

/-- One byte of a word. -/
theorem toNat_toUInt8_shiftRight (w : UInt32) {s : UInt32} (hs : s.toNat < 32) :
    (w >>> s).toUInt8.toNat = w.toNat / 2 ^ s.toNat % 256 := by
  rw [UInt32.toNat_toUInt8, UInt32.toNat_shiftRight, Nat.mod_eq_of_lt hs,
    Nat.shiftRight_eq_div_pow]

/-- The channels of the color are the channels that were packed. -/
theorem pack_channels (p : Rgba) :
    p.pack.alpha = p.a ∧ p.pack.red = p.r ∧ p.pack.green = p.g ∧ p.pack.blue = p.b := by
  have hword := toNat_word_pack p
  have ha := p.a.toNat_lt
  have hr := p.r.toNat_lt
  have hg := p.g.toNat_lt
  have hb := p.b.toNat_lt
  have hbyte {s : UInt32} (hs : s.toNat < 32) := toNat_toUInt8_shiftRight p.pack.word hs
  have halpha := hbyte (s := 24) (by decide)
  have hred := hbyte (s := 16) (by decide)
  have hgreen := hbyte (s := 8) (by decide)
  have hblue := UInt32.toNat_toUInt8 p.pack.word
  rw [hword] at halpha hred hgreen hblue
  refine ⟨UInt8.toNat_inj.mp (halpha.trans ?_), UInt8.toNat_inj.mp (hred.trans ?_),
    UInt8.toNat_inj.mp (hgreen.trans ?_), UInt8.toNat_inj.mp (hblue.trans ?_)⟩
  · change _ / 2 ^ 24 % 256 = _
    omega
  · change _ / 2 ^ 16 % 256 = _
    omega
  · change _ / 2 ^ 8 % 256 = _
    omega
  · omega

theorem straight_pack (p : Rgba) {k : Channel} (hk : k ≠ .alpha) :
    p.pack.straight k = (p.channel k).toNat := by
  obtain ⟨-, hred, hgreen, hblue⟩ := pack_channels p
  cases k with
  | red => exact congrArg UInt8.toNat hred
  | green => exact congrArg UInt8.toNat hgreen
  | blue => exact congrArg UInt8.toNat hblue
  | alpha => exact absurd rfl hk

/-- **Straight and back.** The color of the straight form of a premultiplied pixel has that pixel. -/
theorem Premultiplied.premultiply_pack (hp : p.Premultiplied) :
    p.unpremultiply.pack.premultiply = p := by
  have halpha : p.unpremultiply.pack.alpha = p.a := by
    rw [(pack_channels _).1, a_unpremultiply]
  by_cases ha : p.a = 0
  · -- without alpha every color has the transparent pixel
    rw [hp.eq_clear ha]
    rfl
  · have hpos : 0 < p.a.toNat := UInt8.lt_iff_toNat_lt.mp (UInt8.pos_iff_ne_zero.mpr ha)
    refine ext_channel fun k => ?_
    rw [Argb.toNat_channel_premultiply, halpha]
    by_cases hk : k = .alpha
    · subst hk
      rw [Argb.straight, scale_comm, scale_255]
      rfl
    · rw [straight_pack _ hk, hp.toNat_channel_unpremultiply ha hk]
      exact scale_unscale hpos (toNat_le_255 p.a)

end Rgba

end SpriteStage
