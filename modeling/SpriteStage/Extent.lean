/-
Extents: the pixel dimensions of bitmaps, canvases and rasters.

Pixels are stored row by row, so a point of an extent has one index, `y * width + x`. Dimensions
come from callers as signed words and are checked once, when something of that size is created.
-/
import SpriteStage.Fault

set_option autoImplicit false

namespace SpriteStage

/-- Pixel dimensions. -/
structure Extent where
  /-- The number of columns. -/
  width : UInt32
  /-- The number of rows. -/
  height : UInt32
deriving DecidableEq, Repr, Inhabited

namespace Extent

/-- The extent of the requested width and height, which must both lie in `1..=limit`. -/
def request (width height : Int32) (limit : UInt32) : Except Fault Extent :=
  let admitted (v : Int32) : Bool := 0 < v && v.toUInt32 ≤ limit
  if admitted width && admitted height then .ok ⟨width.toUInt32, height.toUInt32⟩
  else .error (.invalidDimensions width.toInt height.toInt)

/-- The number of pixels. -/
def area (e : Extent) : Nat := e.width.toNat * e.height.toNat

/-- The index of the point in row `y` and column `x`, or `none` outside. -/
def index? (e : Extent) (x y : Int32) : Option Nat :=
  if 0 ≤ x ∧ 0 ≤ y ∧ x.toUInt32 < e.width ∧ y.toUInt32 < e.height then
    some (y.toUInt32.toNat * e.width.toNat + x.toUInt32.toNat)
  else none

end Extent

end SpriteStage
