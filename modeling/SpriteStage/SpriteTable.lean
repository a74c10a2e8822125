/-
The sprite table: every live sprite under its id, and the operations that callers have on them.

Every operation checks first and changes afterwards, so an operation that fails has changed nothing;
hence each is a function that answers with the new table or with a fault. An operation on a sprite
of the wrong sort (the text of a bitmap, a pixel of a text) fails as if there were no such sprite.
-/
import SpriteStage.Sprite
import SpriteStage.Table

set_option autoImplicit false

namespace SpriteStage

/-- The live sprites, with the largest width and height that a bitmap may have. -/
structure SpriteTable where
  /-- The sprites under their ids. -/
  table : Table Sprite
  /-- The largest admitted width and height. -/
  limit : UInt32

namespace SpriteTable

/-- The limit on width and height unless another one is given. -/
def defaultLimit : UInt32 := 4096

/-- The table without sprites. -/
def empty (limit : UInt32) : SpriteTable := ⟨∅, limit⟩

/-! ## Look-ups -/

/-- The sprite of an id, if it is live. -/
def find? (s : SpriteTable) (id : Ident) : Option Sprite := s.table.find? id

/-- The sprite of an id, which must be live. -/
def get (s : SpriteTable) (id : Ident) : Except Fault Sprite :=
  match s.find? id with
  | some sprite => .ok sprite
  | none => .error (.notFound .sprite id)

/-- The bitmap of an id, which must be a live bitmap sprite, with the sprite. -/
def getBitmap (s : SpriteTable) (id : Ident) : Except Fault (Sprite × Bitmap) := do
  let sprite ← s.get id
  match sprite.bitmap? with
  | some b => .ok (sprite, b)
  | none => .error (.notFound .sprite id)

/-- The text of an id, which must be a live text sprite, with the sprite. -/
def getText (s : SpriteTable) (id : Ident) : Except Fault (Sprite × Label) := do
  let sprite ← s.get id
  match sprite.text? with
  | some t => .ok (sprite, t)
  | none => .error (.notFound .sprite id)

/-- Whether an id is live. -/
def contains (s : SpriteTable) (id : Ident) : Bool := s.table.contains id

/-- The live sprites in ascending order of id, which is the order of their creation. -/
def toList (s : SpriteTable) : List Sprite := s.table.values

/-- The number of live sprites. -/
def size (s : SpriteTable) : Nat := s.table.size

/-! ## Creation and deletion -/

/-- Stores a sprite under its id. -/
def store (s : SpriteTable) (sprite : Sprite) : SpriteTable :=
  { s with table := s.table.insert sprite.id sprite }

/-- Adds a sprite with that figure under the next id. The counters come back advanced. -/
def add (s : SpriteTable) (counters : Counters) (figure : Figure) :
    Ident × Counters × SpriteTable :=
  let (id, counters) := counters.issue .sprite
  (id, counters, s.store { id, figure })

/-- Creates a transparent bitmap sprite. No id is taken unless the size is admitted. -/
def createBitmap (s : SpriteTable) (counters : Counters) (width height : Int32) :
    Except Fault (Ident × Counters × SpriteTable) := do
  let extent ← Extent.request width height s.limit
  return s.add counters (.bitmap (.blank extent))

/-- Creates a text sprite. No id is taken unless the font size is positive. -/
def createText (s : SpriteTable) (counters : Counters) (content : String) (color : Argb)
    (fontSize : Int32) : Except Fault (Ident × Counters × SpriteTable) :=
  if fontSize ≤ 0 then .error (.rejected (.fontSize fontSize))
  else .ok (s.add counters (.text ⟨content, color, fontSize.toUInt32⟩))

/-- Takes a sprite out. An id that is not live is left alone. -/
def delete (s : SpriteTable) (id : Ident) : SpriteTable :=
  { s with table := s.table.erase id }

/-- Storing a sprite changes what is found under its own id. -/
theorem find?_store (s : SpriteTable) (sprite : Sprite) (id : Ident) :
    (s.store sprite).find? id = if id = sprite.id then some sprite else s.find? id :=
  Table.find?_insert ..

/-- Deleting an id changes what is found under it. -/
theorem find?_delete (s : SpriteTable) (id k : Ident) :
    (s.delete id).find? k = if k = id then none else s.find? k :=
  Table.find?_erase ..

@[simp] theorem limit_store (s : SpriteTable) (sprite : Sprite) :
    (s.store sprite).limit = s.limit := rfl

@[simp] theorem limit_delete (s : SpriteTable) (id : Ident) : (s.delete id).limit = s.limit := rfl

/-! ## Changes -/

/-- Replaces the string of a text sprite. -/
def setText (s : SpriteTable) (id : Ident) (content : String) : Except Fault SpriteTable := do
  let (sprite, t) ← s.getText id
  return s.store { sprite with figure := .text { t with content } }

/-- Recolors one point of a bitmap sprite. -/
def setPixel (s : SpriteTable) (id : Ident) (x y : Int32) (color : Argb) :
    Except Fault SpriteTable := do
  let (sprite, b) ← s.getBitmap id
  match b.setPixel? x y color with
  | some b => return s.store { sprite with figure := .bitmap b }
  | none => .error (.outOfBounds id x y b.extent.width b.extent.height)

/-- Recolors all points of a bitmap sprite from packed words, row by row. -/
def upload (s : SpriteTable) (id : Ident) (words : List UInt32) : Except Fault SpriteTable := do
  let (sprite, b) ← s.getBitmap id
  let b ← b.upload words
  return s.store { sprite with figure := .bitmap b }

/-- Moves a sprite. -/
def setPosition (s : SpriteTable) (id : Ident) (left top : Int32) : Except Fault SpriteTable := do
  let sprite ← s.get id
  return s.store { sprite with left, top }

/-- Changes the depth of a sprite. -/
def setDepth (s : SpriteTable) (id : Ident) (z : Int32) : Except Fault SpriteTable := do
  let sprite ← s.get id
  return s.store { sprite with z }

end SpriteTable

end SpriteStage
