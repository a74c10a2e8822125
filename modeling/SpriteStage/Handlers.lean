/-
Handlers: the callbacks that the runtime asked to have called.

The stage only tells which button was pressed. This table leads from a button, or from a tick, back
to the functions of the runtime, each named by its index in the runtime's own function table.
-/
import SpriteStage.Table

set_option autoImplicit false

namespace SpriteStage

/-- An index into the function table of the runtime. -/
abbrev Callback := UInt32

/-- The registered callbacks. -/
structure Handlers where
  /-- The callback of each button that has one. -/
  clicks : Table Callback := ∅
  /-- The callbacks of a tick, in the order of registration. -/
  ticks : List Callback := []

namespace Handlers

/-- Routes presses of a button to a callback, in place of an earlier one. -/
def onClick (h : Handlers) (button : Ident) (callback : Callback) : Handlers :=
  { h with clicks := h.clicks.insert button callback }

/-- Adds a callback for ticks behind the others. -/
def onTick (h : Handlers) (callback : Callback) : Handlers :=
  { h with ticks := h.ticks ++ [callback] }

/-- The callback of a button, if it has one. -/
def click? (h : Handlers) (button : Ident) : Option Callback := h.clicks.find? button

end Handlers

end SpriteStage
