/-
Sprites: what a canvas shows. A sprite is a bitmap or a text, with a position and a depth.

The depth decides what covers what, and among sprites of one depth the one created later lies on
top. Both are folded into one word, `Sprite.drawKey`, so that sorting by the key is sorting by depth
first and by creation second.
-/
import SpriteStage.Color
import SpriteStage.Extent

set_option autoImplicit false

namespace SpriteStage

/-! ## Bitmaps -/

/-- A grid of colors, stored row by row. Whoever creates one keeps `pixels.size = extent.area`. -/
structure Bitmap where
  /-- The dimensions. -/
  extent : Extent
  /-- The colors, one row after the other. -/
  pixels : Array Argb
deriving DecidableEq, Repr, Inhabited

namespace Bitmap

/-- The fully transparent bitmap of an extent. -/
def blank (e : Extent) : Bitmap := ⟨e, Array.replicate e.area .transparent⟩

/-- The color of a point, or `none` outside. -/
def pixel? (b : Bitmap) (x y : Int32) : Option Argb :=
  (b.extent.index? x y).bind (b.pixels[·]?)

/-- The bitmap with one point recolored, or `none` if the point lies outside. -/
def setPixel? (b : Bitmap) (x y : Int32) (color : Argb) : Option Bitmap :=
  (b.extent.index? x y).map fun i => { b with pixels := b.pixels.setIfInBounds i color }

/-- The bitmap with all points recolored from packed words, row by row. There must be one word for
each point. -/
def upload (b : Bitmap) (words : List UInt32) : Except Fault Bitmap :=
  if words.length = b.pixels.size then .ok { b with pixels := (words.map Argb.mk).toArray }
  else .error (.rejected (.pixelCount b.pixels.size words.length))

end Bitmap

/-! ## Texts -/

/-- A string to be drawn. Color and size are fixed when it is created. -/
structure Label where
  /-- The string. -/
  content : String
  /-- The color of the glyphs. -/
  color : Argb
  /-- The font size in pixels. -/
  fontSize : UInt32
deriving DecidableEq, Repr, Inhabited

/-! ## Sprites -/

/-- What a sprite shows. -/
inductive Figure where
  /-- A grid of pixels, drawn with its top left corner at the position of the sprite. -/
  | bitmap (b : Bitmap)
  /-- A string, drawn at the position of the sprite. -/
  | text (t : Label)
deriving DecidableEq, Repr

/-- A figure that canvases can refer to by id. -/
structure Sprite where
  /-- The id, which is also the order of creation. -/
  id : Ident
  /-- The depth: a higher one is drawn later. -/
  z : Int32 := 0
  /-- The column of the position on a canvas. -/
  left : Int32 := 0
  /-- The row of the position on a canvas. -/
  top : Int32 := 0
  /-- What it shows. -/
  figure : Figure
deriving DecidableEq, Repr

namespace Sprite

/-- The bitmap of a bitmap sprite. -/
def bitmap? (s : Sprite) : Option Bitmap :=
  match s.figure with
  | .bitmap b => some b
  | .text _ => none

/-- The text of a text sprite. -/
def text? (s : Sprite) : Option Label :=
  match s.figure with
  | .bitmap _ => none
  | .text t => some t

/-- The key by which sprites are drawn, lowest first: the depth in the high half of the word and the
id in the low half. -/
def drawKey (s : Sprite) : Int64 :=
  (s.z.toInt64 <<< 32) ||| s.id.toUInt64.toInt64

end Sprite

end SpriteStage
