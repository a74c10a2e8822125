/-
Elements: their kinds, their ids, and the counters that issue the ids.

Each kind counts for itself from one, and a counter only goes up, so an id names one element for
good: what is removed never gives its id back. Bitmap and text sprites live in one table and share a
counter.
-/

set_option autoImplicit false

namespace SpriteStage

/-- The number by which a caller names an element of some kind. Zero is never issued. -/
abbrev Ident := UInt32

/-- The kinds of element. Each has ids of its own. -/
inductive Kind where
  /-- A line of text in the widget column. -/
  | textView
  /-- A push button in the widget column. -/
  | button
  /-- A drawing area in the widget column. -/
  | canvas
  /-- A bitmap or a text that canvases refer to. -/
  | sprite
deriving DecidableEq, Repr

namespace Kind

/-- All kinds. -/
def all : List Kind := [textView, button, canvas, sprite]

/-- The kind as error texts name it. -/
def label : Kind → String
  | textView => "text view"
  | button => "button"
  | canvas => "canvas"
  | sprite => "sprite"

end Kind

/-- The id issued last for each kind, zero where none has been. -/
structure Counters where
  /-- The last text view id. -/
  textView : Ident := 0
  /-- The last button id. -/
  button : Ident := 0
  /-- The last canvas id. -/
  canvas : Ident := 0
  /-- The last sprite id. -/
  sprite : Ident := 0
deriving DecidableEq, Repr

namespace Counters

/-- The id issued last for a kind, or zero. -/
def last (c : Counters) : Kind → Ident
  | .textView => c.textView
  | .button => c.button
  | .canvas => c.canvas
  | .sprite => c.sprite

/-- The counters with one more id issued for a kind; the new id is `last` of the result. -/
def advance (c : Counters) : Kind → Counters
  | .textView => { c with textView := c.textView + 1 }
  | .button => { c with button := c.button + 1 }
  | .canvas => { c with canvas := c.canvas + 1 }
  | .sprite => { c with sprite := c.sprite + 1 }

/-- Issues the next id of a kind. -/
def issue (c : Counters) (k : Kind) : Ident × Counters :=
  ((c.advance k).last k, c.advance k)

@[simp] theorem last_advance_self (c : Counters) (k : Kind) :
    (c.advance k).last k = c.last k + 1 := by
  cases k <;> rfl

/-- Issuing an id of one kind leaves the others where they were. -/
theorem last_advance_of_ne (c : Counters) {k j : Kind} (h : j ≠ k) :
    (c.advance k).last j = c.last j := by
  cases k <;> cases j <;> first | rfl | exact absurd rfl h

end Counters

end SpriteStage
