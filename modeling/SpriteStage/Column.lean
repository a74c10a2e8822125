/-
The column: the one vertical row of widgets, in the order of their creation.
-/
import SpriteStage.Element

set_option autoImplicit false

namespace SpriteStage

/-- A reference to an element of the layout. -/
inductive Widget where
  /-- A text view. -/
  | textView (id : Ident)
  /-- A button. -/
  | button (id : Ident)
  /-- A canvas. -/
  | canvas (id : Ident)
deriving DecidableEq, Repr

/-- The widgets from top to bottom. -/
structure Column where
  /-- The widgets. -/
  children : List Widget := []
deriving DecidableEq, Repr

namespace Column

/-- Adds a widget at the bottom. -/
def push (c : Column) (w : Widget) : Column := ⟨c.children ++ [w]⟩

/-- Takes the first occurrence of a widget out. -/
def erase (c : Column) (w : Widget) : Column := ⟨c.children.erase w⟩

end Column

end SpriteStage
