/-
Canvases: drawing areas that show sprites by reference.

A canvas keeps sprite ids in the order in which they were attached, the same id as often as it was
attached, and never looks after them: a reference whose sprite is gone stays and shows nothing. The
painting order is worked out anew for every frame, from the sprites as they are at that moment.
-/
import SpriteStage.Raster
import SpriteStage.SpriteTable

set_option autoImplicit false

namespace SpriteStage

/-- A drawing area of fixed dimensions. -/
structure Canvas where
  /-- The id. -/
  id : Ident
  /-- The dimensions. -/
  extent : Extent
  /-- The ids of the attached sprites, in the order of attachment. -/
  references : List Ident
  /-- The picture that was presented last. -/
  raster : Raster
deriving DecidableEq, Repr

namespace Canvas

/-- The canvas without references, over a transparent raster. -/
def blank (id : Ident) (extent : Extent) : Canvas := ⟨id, extent, [], .blank extent⟩

/-- Adds a reference behind the others. -/
def attach (c : Canvas) (sprite : Ident) : Canvas :=
  { c with references := c.references ++ [sprite] }

/-- Whether a sprite is referred to at least once. -/
def refersTo (c : Canvas) (sprite : Ident) : Bool := c.references.contains sprite

/-- Takes the first reference to a sprite out, if there is one. -/
def detach (c : Canvas) (sprite : Ident) : Canvas :=
  { c with references := c.references.erase sprite }

/-- The frame that the canvas shows now. References that resolve are painted by ascending draw key;
the sort is stable. -/
def plan (c : Canvas) (sprites : SpriteTable) (clear : Argb) : Plan where
  extent := c.extent
  clear := clear
  ops := (c.references.filterMap sprites.find?).mergeSort
    fun s t => decide (s.drawKey ≤ t.drawKey)

end Canvas

end SpriteStage
