/-
Colors, and the arithmetic of compositing them.

A caller names a color as one word with straight alpha, `0xAARRGGBB`. A raster holds pixels whose
color channels have been multiplied by their alpha already, because source-over is then one
multiplication and one addition per channel. This file holds both forms, the way from the word to
the premultiplied pixel and back, and `sourceOver` itself.

All of it rests on one rounding: `scale c a` is `c * a / 255` to the nearest integer. The
premultiplied pixel of a color and the part of a background that shows through a pixel are both that
product.
-/
import SpriteStage.Digits

set_option autoImplicit false

namespace SpriteStage

/-! ## The packed word -/

/-- A color with straight alpha, packed as `0xAARRGGBB`. -/
structure Argb where
  /-- The four channels, alpha in the highest byte and blue in the lowest. -/
  word : UInt32
deriving DecidableEq, Repr, Inhabited

/-- Four channel bytes. Whether the color channels carry the alpha in them is for the holder to
say: a raster holds premultiplied pixels, an exported frame may hold straight ones. -/
structure Rgba where
  /-- Red. -/
  r : UInt8
  /-- Green. -/
  g : UInt8
  /-- Blue. -/
  b : UInt8
  /-- Alpha: 0 is transparent, 255 opaque. -/
  a : UInt8
deriving DecidableEq, Repr, Inhabited

namespace Argb

/-- Fully transparent black, which every new bitmap is filled with. -/
def transparent : Argb := ⟨0x00000000⟩

/-- Opaque black. -/
def black : Argb := ⟨0xFF000000⟩

/-- The color of a signed word, bit for bit. -/
def ofSigned (n : Int32) : Argb := ⟨n.toUInt32⟩

/-- The alpha channel. -/
def alpha (c : Argb) : UInt8 := (c.word >>> 24).toUInt8

/-- The red channel. -/
def red (c : Argb) : UInt8 := (c.word >>> 16).toUInt8

/-- The green channel. -/
def green (c : Argb) : UInt8 := (c.word >>> 8).toUInt8

/-- The blue channel. -/
def blue (c : Argb) : UInt8 := c.word.toUInt8

/-- The color as text, `#AARRGGBB` in upper case. -/
def text (c : Argb) : String :=
  String.ofList ('#' :: Digits.hex Digits.upper 8 c.word.toNat)

end Argb

/-! ## Compositing -/

/-- The product of two channel values as fractions of 255, to the nearest channel value. -/
def scale (x y : Nat) : Nat :=
  (x * y + 127) / 255

/-- The premultiplied pixel of a color. -/
def Argb.premultiply (c : Argb) : Rgba where
  r := UInt8.ofNat (scale c.red.toNat c.alpha.toNat)
  g := UInt8.ofNat (scale c.green.toNat c.alpha.toNat)
  b := UInt8.ofNat (scale c.blue.toNat c.alpha.toNat)
  a := c.alpha

namespace Rgba

/-- Transparent black. -/
def clear : Rgba := ⟨0, 0, 0, 0⟩

/-- The four bytes in the order red, green, blue, alpha. -/
def bytes (p : Rgba) : List UInt8 := [p.r, p.g, p.b, p.a]

/-- Source-over of the premultiplied pixel `src` onto `dst`. A transparent source leaves the
background as it is and an opaque one replaces it, both exactly; in between each channel is the
source plus what the source lets through, held at 255. -/
def sourceOver (dst src : Rgba) : Rgba :=
  if src.a = 0 then dst
  else if src.a = 255 then src
  else
    let through := 255 - src.a.toNat
    let blend (s d : UInt8) : UInt8 := UInt8.ofNat (min 255 (s.toNat + scale d.toNat through))
    ⟨blend src.r dst.r, blend src.g dst.g, blend src.b dst.b, blend src.a dst.a⟩

/-- The straight-alpha pixel of a premultiplied one: each color channel divided by the alpha, to
the nearest value and held at 255. A transparent pixel has no color left and becomes black. -/
def unpremultiply (p : Rgba) : Rgba :=
  if p.a = 0 then clear
  else if p.a = 255 then p
  else
    let a := p.a.toNat
    let divide (c : UInt8) : UInt8 := UInt8.ofNat (min 255 ((c.toNat * 255 + a / 2) / a))
    ⟨divide p.r, divide p.g, divide p.b, p.a⟩

end Rgba

end SpriteStage
