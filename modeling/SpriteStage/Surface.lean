/-
Surfaces and plans: what is to be drawn, and on what.

A plan is a frame written down: a background and a list of sprites in the order in which they are
painted. A surface is anything that can carry out the four drawing calls; its state may be of any
type, and any call may fail in any state. `Plan.execute` is the one way from a plan to a surface. It
stops at the first call that fails, so a surface is never told to present a picture that is half
drawn.
-/
import SpriteStage.Sprite

set_option autoImplicit false

namespace SpriteStage

/-- States that can be drawn on. -/
class Surface (σ : Type) where
  /-- The pixel dimensions. -/
  extent : σ → Extent
  /-- Fills the whole surface with a color and drops what was there. -/
  clear : Argb → Attempt σ Unit
  /-- Composites a bitmap with its top left corner at a position, as far as it is inside. -/
  blit : Int32 → Int32 → Bitmap → Attempt σ Unit
  /-- Draws a text at a position. -/
  drawText : Int32 → Int32 → Label → Attempt σ Unit
  /-- Ends the frame, and answers with its number. -/
  present : Attempt σ UInt64

/-- A frame to be drawn. Each sprite stands for itself as it was when the plan was made. -/
structure Plan where
  /-- The dimensions of the target. -/
  extent : Extent
  /-- The background. -/
  clear : Argb
  /-- The sprites in painting order, a sprite once for each reference to it. -/
  ops : List Sprite
deriving DecidableEq, Repr

namespace Plan

/-- The ids of the sprites in painting order. -/
def order (p : Plan) : List Ident := p.ops.map Sprite.id

/-- Whether the frame is nothing but background. -/
def isEmpty (p : Plan) : Bool := p.ops.isEmpty

variable {σ : Type} [Surface σ]

/-- Draws one sprite at its position. -/
def draw (s : Sprite) : Attempt σ Unit :=
  match s.figure with
  | .bitmap b => Surface.blit s.left s.top b
  | .text t => Surface.drawText s.left s.top t

/-- Draws a list of sprites, the first one first, up to the first call that fails. -/
def drawAll : List Sprite → Attempt σ Unit
  | [] => pure ()
  | s :: rest => do
    draw s
    drawAll rest

/-- Carries a plan out: the background, every sprite in order, then the presentation. -/
def execute (p : Plan) : Attempt σ UInt64 := do
  Surface.clear p.clear
  drawAll p.ops
  Surface.present

end Plan

end SpriteStage
