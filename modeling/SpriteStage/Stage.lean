/-
The stage: everything that a caller has created, and every operation on it.

A stage owns the counters, the sprites, the canvases, the text views, the buttons and the column,
and hands button presses to a sink of any type. An operation is an `Attempt`: it may fail, and the
stage that it leaves is part of the answer in both cases.

Deleting a sprite does not look at the canvases. References to it stay where they are and show
nothing, and since ids are never issued twice nothing else will ever be shown in their place.
-/
import SpriteStage.Canvas
import SpriteStage.Column
import SpriteStage.Event
import SpriteStage.Settings

set_option autoImplicit false

namespace SpriteStage

/-- Everything that exists, with a sink for events. -/
structure Stage (σ : Type) where
  /-- The settings, fixed from the start. -/
  settings : Settings
  /-- The ids issued last. -/
  counters : Counters
  /-- The live sprites. -/
  sprites : SpriteTable
  /-- The canvases. -/
  canvases : Table Canvas
  /-- The texts of the text views. -/
  textViews : Table String
  /-- The labels of the buttons. -/
  buttons : Table String
  /-- The layout. -/
  column : Column
  /-- Where button presses go. -/
  sink : σ

namespace Stage

variable {σ : Type}

/-! ## Starting -/

/-- The stage with nothing on it. -/
def start (settings : Settings) (sink : σ) : Stage σ where
  settings := settings
  counters := {}
  sprites := .empty settings.limit
  canvases := ∅
  textViews := ∅
  buttons := ∅
  column := {}
  sink := sink

/-- The stage with nothing on it, under settings that must be valid. -/
def create (settings : Settings) (sink : σ) : Except Fault (Stage σ) := do
  settings.validate
  return start settings sink

/-! ## Text views -/

/-- The text of a text view. -/
def textView (s : Stage σ) (id : Ident) : Except Fault String :=
  match s.textViews.find? id with
  | some text => .ok text
  | none => .error (.notFound .textView id)

/-- Appends a text view to the column. -/
def createTextView (text : String) : Attempt (Stage σ) Ident :=
  modifyGet fun s =>
    let (id, counters) := s.counters.issue .textView
    (id, { s with
      counters
      textViews := s.textViews.insert id text
      column := s.column.push (.textView id) })

/-- Replaces the text of a text view. -/
def modifyTextView (id : Ident) (text : String) : Attempt (Stage σ) Unit := do
  let _ ← (← get).textView id
  modify fun s => { s with textViews := s.textViews.insert id text }

/-- Removes a text view, also from the column. Answers whether there was one. -/
def removeTextView (id : Ident) : Attempt (Stage σ) Bool := do
  if (← get).textViews.contains id then
    modify fun s => { s with
      textViews := s.textViews.erase id
      column := s.column.erase (.textView id) }
    return true
  else
    return false

/-! ## Buttons -/

/-- The label of a button. -/
def button (s : Stage σ) (id : Ident) : Except Fault String :=
  match s.buttons.find? id with
  | some label => .ok label
  | none => .error (.notFound .button id)

/-- Appends a button to the column. -/
def createButton (label : String) : Attempt (Stage σ) Ident :=
  modifyGet fun s =>
    let (id, counters) := s.counters.issue .button
    (id, { s with
      counters
      buttons := s.buttons.insert id label
      column := s.column.push (.button id) })

/-- Tells the sink once that a button was pressed. Whether the sink took the event makes no
difference. -/
def pressButton [EventSink σ] (id : Ident) : Attempt (Stage σ) Unit := do
  let _ ← (← get).button id
  modify fun s =>
    let (_, sink) := (EventSink.deliver (.buttonPress id)).run.run s.sink
    { s with sink }

/-! ## Canvases -/

/-- A canvas. -/
def canvas (s : Stage σ) (id : Ident) : Except Fault Canvas :=
  match s.canvases.find? id with
  | some canvas => .ok canvas
  | none => .error (.notFound .canvas id)

/-- Appends a canvas to the column. No id is taken unless the size is admitted. -/
def createCanvas (width height : Int32) : Attempt (Stage σ) Ident := do
  let extent ← Extent.request width height (← get).settings.limit
  modifyGet fun s =>
    let (id, counters) := s.counters.issue .canvas
    (id, { s with
      counters
      canvases := s.canvases.insert id (.blank id extent)
      column := s.column.push (.canvas id) })

/-- Stores a canvas under its id. -/
def storeCanvas (s : Stage σ) (id : Ident) (canvas : Canvas) : Stage σ :=
  { s with canvases := s.canvases.insert id canvas }

/-- Attaches a live sprite to a canvas. A sprite that is not live is reported before a canvas that
does not exist. -/
def attachSprite (canvas sprite : Ident) : Attempt (Stage σ) Unit := do
  let _ ← (← get).sprites.get sprite
  let c ← (← get).canvas canvas
  modify (·.storeCanvas canvas (c.attach sprite))

/-- Takes the first reference to a sprite off a canvas. Answers whether there was one. -/
def detachSprite (canvas sprite : Ident) : Attempt (Stage σ) Bool := do
  let c ← (← get).canvas canvas
  modify (·.storeCanvas canvas (c.detach sprite))
  return c.refersTo sprite

/-- The frame that the next redraw of a canvas would draw. -/
def planOf (s : Stage σ) (canvas : Ident) : Except Fault Plan := do
  let c ← s.canvas canvas
  return c.plan s.sprites s.settings.clear

/-- Draws a canvas as it is now and presents it. Answers with the number of the frame. -/
def redrawCanvas (canvas : Ident) : Attempt (Stage σ) UInt64 := do
  let s ← get
  let c ← s.canvas canvas
  let plan := c.plan s.sprites s.settings.clear
  let (result, raster) := (Plan.execute plan).run.run c.raster
  set (s.storeCanvas canvas { c with raster })
  result

/-! ## Sprites -/

/-- Applies a change to the sprite table. -/
def changeSprites (change : SpriteTable → Except Fault SpriteTable) : Attempt (Stage σ) Unit := do
  let sprites ← change (← get).sprites
  modify fun s => { s with sprites }

/-- Adds a sprite to the sprite table. -/
def addSprite (add : SpriteTable → Counters → Except Fault (Ident × Counters × SpriteTable)) :
    Attempt (Stage σ) Ident := do
  let s ← get
  let (id, counters, sprites) ← add s.sprites s.counters
  set { s with counters, sprites }
  return id

/-- Creates a transparent bitmap sprite. -/
def createBitmap (width height : Int32) : Attempt (Stage σ) Ident :=
  addSprite (·.createBitmap · width height)

/-- Creates a text sprite. -/
def createText (content : String) (color : Argb) (fontSize : Int32) : Attempt (Stage σ) Ident :=
  addSprite (·.createText · content color fontSize)

/-- Replaces the string of a text sprite. -/
def setText (id : Ident) (content : String) : Attempt (Stage σ) Unit :=
  changeSprites (·.setText id content)

/-- Recolors one point of a bitmap sprite. -/
def setPixel (id : Ident) (x y : Int32) (color : Argb) : Attempt (Stage σ) Unit :=
  changeSprites (·.setPixel id x y color)

/-- Recolors all points of a bitmap sprite from packed words, row by row. -/
def upload (id : Ident) (words : List UInt32) : Attempt (Stage σ) Unit :=
  changeSprites (·.upload id words)

/-- Moves a sprite. -/
def setPosition (id : Ident) (left top : Int32) : Attempt (Stage σ) Unit :=
  changeSprites (·.setPosition id left top)

/-- Changes the depth of a sprite. -/
def setDepth (id : Ident) (z : Int32) : Attempt (Stage σ) Unit :=
  changeSprites (·.setDepth id z)

/-- Deletes a sprite, wherever it is attached. Answers whether there was one. -/
def deleteSprite (id : Ident) : Attempt (Stage σ) Bool :=
  modifyGet fun s => (s.sprites.contains id, { s with sprites := s.sprites.delete id })

/-! ## Description -/

/-- The stage as a text for diagnosis: its settings, and how many there are of each kind. -/
def debugText (s : Stage σ) : String :=
  Text.record "GuiContext" [("settings", s.settings.debugText),
    ("sprites", toString s.sprites.size), ("canvases", toString s.canvases.size),
    ("text_views", toString s.textViews.size), ("buttons", toString s.buttons.size)]

end Stage

end SpriteStage
