/-
Rasters: surfaces in memory.

A raster holds premultiplied pixels row by row, the texts drawn since it was last cleared, and the
number of the frame presented last. Texts are not turned into pixels here: each is recorded as a
run, in drawing order, for whoever shapes glyphs on top of the picture.

A bitmap may lie anywhere, so a blit first cuts it to the part that falls inside (`Clip`), and then
composites that part one row at a time. The positions of the rows in the two pixel runs are computed
in signed 64-bit words.
-/
import SpriteStage.Frame
import SpriteStage.Surface

set_option autoImplicit false

namespace SpriteStage

/-- A text draw on record. -/
structure TextRun where
  /-- The column of the anchor. -/
  left : Int32
  /-- The row of the anchor. -/
  top : Int32
  /-- What is drawn. -/
  label : Label
deriving DecidableEq, Repr

/-- A surface in memory. A new one and every operation keep `pixels.size = extent.area`. -/
structure Raster where
  /-- The dimensions. -/
  extent : Extent
  /-- The premultiplied pixels, one row after the other. -/
  pixels : Array Rgba
  /-- The texts of the current frame, in drawing order. -/
  runs : Array TextRun
  /-- The number of frames presented. -/
  frame : UInt64
deriving DecidableEq, Repr

/-! ## Clipping -/

/-- The part of a bitmap that falls inside a surface: columns `x0` up to `x1` and rows `y0` up to
`y1` of the bitmap, upper bounds excluded. It is empty if a lower bound reaches its upper bound. -/
structure Clip where
  /-- The first column. -/
  x0 : Int64
  /-- The column after the last. -/
  x1 : Int64
  /-- The first row. -/
  y0 : Int64
  /-- The row after the last. -/
  y1 : Int64
deriving DecidableEq, Repr

/-- One row of the visible part: `count` pixels from index `source` of the bitmap go to index
`target` of the surface. -/
structure Span where
  /-- The index of the first pixel in the bitmap. -/
  source : Nat
  /-- The index of the first pixel in the surface. -/
  target : Nat
  /-- The number of pixels. -/
  count : Nat
deriving DecidableEq, Repr

namespace Clip

/-- An unsigned word as a signed word of twice the width. -/
def widen (n : UInt32) : Int64 := n.toUInt64.toInt64

/-- What is visible of a bitmap of extent `source` at a position on a surface of extent `target`. -/
def visible (target source : Extent) (left top : Int32) : Clip where
  x0 := max (-left.toInt64) 0
  x1 := min (widen target.width - left.toInt64) (widen source.width)
  y0 := max (-top.toInt64) 0
  y1 := min (widen target.height - top.toInt64) (widen source.height)

/-- Whether nothing is visible. -/
def isEmpty (c : Clip) : Bool := c.x1 ≤ c.x0 || c.y1 ≤ c.y0

/-- The span of one bitmap row of the visible part. -/
def span (c : Clip) (target source : Extent) (left top : Int32) (row : Int64) : Span where
  source := (row * widen source.width + c.x0).toNatClampNeg
  target := ((row + top.toInt64) * widen target.width + c.x0 + left.toInt64).toNatClampNeg
  count := (c.x1 - c.x0).toNatClampNeg

/-- The spans of all rows of the visible part, from the top. -/
def spans (target source : Extent) (left top : Int32) : List Span :=
  let c := visible target source left top
  if c.isEmpty then []
  else
    (List.range (c.y1 - c.y0).toNatClampNeg).map fun i =>
      c.span target source left top (c.y0 + Int64.ofNat i)

end Clip

/-! ## Compositing a row -/

namespace Raster

/-- Source-over of one row of premultiplied pixels onto another of the same length. -/
def overRow (dst src : Array Rgba) : Except Fault (Array Rgba) :=
  if dst.size = src.size then .ok (Array.zipWith Rgba.sourceOver dst src)
  else .error (.rejected .unequalRows)

/-- Writes a run of pixels over the pixels from an index on. -/
def write (pixels : Array Rgba) : Nat → List Rgba → Array Rgba
  | _, [] => pixels
  | i, p :: rest => write (pixels.setIfInBounds i p) (i + 1) rest

/-- Composites one span of a bitmap. -/
def blendSpan (source : Array Argb) (s : Span) : Attempt Raster Unit := do
  let pixels := (← get).pixels
  let row ← overRow (pixels.extract s.target (s.target + s.count))
    ((source.extract s.source (s.source + s.count)).map Argb.premultiply)
  modify fun r => { r with pixels := write r.pixels s.target row.toList }

/-- Composites spans one after the other. -/
def blendSpans (source : Array Argb) : List Span → Attempt Raster Unit
  | [] => pure ()
  | s :: rest => do
    blendSpan source s
    blendSpans source rest

/-! ## The surface -/

/-- The transparent raster of an extent. -/
def blank (e : Extent) : Raster := ⟨e, Array.replicate e.area .clear, #[], 0⟩

/-- Gives every pixel one color and drops the texts. -/
def fill (color : Argb) (r : Raster) : Raster :=
  { r with pixels := Array.replicate r.pixels.size color.premultiply, runs := #[] }

/-- Composites a bitmap at a position. -/
def blit (left top : Int32) (b : Bitmap) : Attempt Raster Unit := do
  blendSpans b.pixels (Clip.spans (← get).extent b.extent left top)

/-- Records a text. -/
def addRun (left top : Int32) (t : Label) (r : Raster) : Raster :=
  { r with runs := r.runs.push ⟨left, top, t⟩ }

instance : Surface Raster where
  extent := Raster.extent
  clear color := modify (fill color)
  blit := blit
  drawText left top t := modify (addRun left top t)
  present := do
    modify fun r => { r with frame := r.frame + 1 }
    return (← get).frame

/-- The pixels as a premultiplied frame. -/
def readback (r : Raster) : Frame where
  width := r.extent.width
  height := r.extent.height
  data := Frame.bytesOf r.pixels
  premultiplied := true

end Raster

end SpriteStage
