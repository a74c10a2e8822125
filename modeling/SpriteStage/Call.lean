/-
Calls: the requests of the runtime as data, and what each of them does.

A call is dispatched on a host, which is a stage together with the callbacks that were registered. A
successful call is answered with a reply, and a failed one with a fault.
-/
import SpriteStage.Handlers
import SpriteStage.Stage

set_option autoImplicit false

namespace SpriteStage

/-- A request of the runtime. -/
inductive Call where
  /-- Append a text view. -/
  | createTextView (text : String)
  /-- Replace the text of a text view. -/
  | modifyTextView (id : Ident) (text : String)
  /-- Remove a text view; one that does not exist is no fault. -/
  | removeTextView (id : Ident)
  /-- Append a button. -/
  | createButton (label : String)
  /-- Append a canvas. -/
  | createCanvas (width height : Int32)
  /-- Create a transparent bitmap sprite. -/
  | createBitmap (width height : Int32)
  /-- Create a text sprite. -/
  | createText (text : String) (color : Argb) (fontSize : Int32)
  /-- Replace the string of a text sprite. -/
  | setText (id : Ident) (text : String)
  /-- Recolor one point of a bitmap sprite. -/
  | modifyBitmap (id : Ident) (x y : Int32) (color : Argb)
  /-- Recolor all points of a bitmap sprite. -/
  | bitmapSetPixels (id : Ident) (pixels : List UInt32)
  /-- Move a sprite. -/
  | bitmapSetPosition (id : Ident) (left top : Int32)
  /-- Change the depth of a sprite. -/
  | bitmapSetZIndex (id : Ident) (zIndex : Int32)
  /-- Attach a sprite to a canvas. -/
  | canvasAddBitmap (canvas sprite : Ident)
  /-- Take one reference to a sprite off a canvas; none is no fault. -/
  | canvasRemoveBitmap (canvas sprite : Ident)
  /-- Delete a sprite; one that does not exist is no fault. -/
  | canvasDeleteBitmap (sprite : Ident)
  /-- Draw and present a canvas. -/
  | canvasRedraw (canvas : Ident)
  /-- Route presses of a button to a callback. -/
  | registerOnClick (id : Ident) (callback : Callback)
  /-- Add a callback for ticks. -/
  | registerOnTick (callback : Callback)
  /-- Press a button. -/
  | pressButton (id : Ident)
deriving DecidableEq, Repr

/-- The name of a call, which is also its tag on the wire. -/
def Call.name : Call → String
  | createTextView .. => "createTextView"
  | modifyTextView .. => "modifyTextView"
  | removeTextView .. => "removeTextView"
  | createButton .. => "createButton"
  | createCanvas .. => "createCanvas"
  | createBitmap .. => "createBitmap"
  | createText .. => "createText"
  | setText .. => "setText"
  | modifyBitmap .. => "modifyBitmap"
  | bitmapSetPixels .. => "bitmapSetPixels"
  | bitmapSetPosition .. => "bitmapSetPosition"
  | bitmapSetZIndex .. => "bitmapSetZIndex"
  | canvasAddBitmap .. => "canvasAddBitmap"
  | canvasRemoveBitmap .. => "canvasRemoveBitmap"
  | canvasDeleteBitmap .. => "canvasDeleteBitmap"
  | canvasRedraw .. => "canvasRedraw"
  | registerOnClick .. => "registerOnClick"
  | registerOnTick .. => "registerOnTick"
  | pressButton .. => "pressButton"

/-- The answer to a successful call. -/
inductive Reply where
  /-- The id of the element that was created. -/
  | id (id : Ident)
  /-- There is nothing to report. -/
  | done
  /-- A canvas was presented; its frames count from one. -/
  | redrawn (canvas : Ident) (frame : UInt64)
deriving DecidableEq, Repr

/-- A stage and the callbacks registered beside it. -/
structure Host (σ : Type) where
  /-- The stage. -/
  stage : Stage σ
  /-- The callbacks. -/
  handlers : Handlers

namespace Host

variable {σ : Type}

/-- The host with nothing on its stage. -/
def start (settings : Settings) (sink : σ) : Host σ := ⟨.start settings sink, {}⟩

/-- Runs an operation on the stage of a host. -/
def onStage {α : Type} (x : Attempt (Stage σ) α) : Attempt (Host σ) α :=
  x.onPart Host.stage fun stage h => { h with stage }

/-- Changes the callbacks of a host. -/
def changeHandlers (change : Handlers → Handlers) : Attempt (Host σ) Unit :=
  modify fun h => { h with handlers := change h.handlers }

/-- Carries out a call. -/
def dispatch [EventSink σ] : Call → Attempt (Host σ) Reply
  | .createTextView text => .id <$> onStage (Stage.createTextView text)
  | .modifyTextView id text => do onStage (Stage.modifyTextView id text); return .done
  | .removeTextView id => do let _ ← onStage (Stage.removeTextView id); return .done
  | .createButton label => .id <$> onStage (Stage.createButton label)
  | .createCanvas width height => .id <$> onStage (Stage.createCanvas width height)
  | .createBitmap width height => .id <$> onStage (Stage.createBitmap width height)
  | .createText text color fontSize => .id <$> onStage (Stage.createText text color fontSize)
  | .setText id text => do onStage (Stage.setText id text); return .done
  | .modifyBitmap id x y color => do onStage (Stage.setPixel id x y color); return .done
  | .bitmapSetPixels id pixels => do onStage (Stage.upload id pixels); return .done
  | .bitmapSetPosition id left top => do onStage (Stage.setPosition id left top); return .done
  | .bitmapSetZIndex id zIndex => do onStage (Stage.setDepth id zIndex); return .done
  | .canvasAddBitmap canvas sprite => do onStage (Stage.attachSprite canvas sprite); return .done
  | .canvasRemoveBitmap canvas sprite => do
    let _ ← onStage (Stage.detachSprite canvas sprite)
    return .done
  | .canvasDeleteBitmap sprite => do let _ ← onStage (Stage.deleteSprite sprite); return .done
  | .canvasRedraw canvas => .redrawn canvas <$> onStage (Stage.redrawCanvas canvas)
  | .registerOnClick id callback => do
    let _ ← (← get).stage.button id
    changeHandlers (·.onClick id callback)
    return .done
  | .registerOnTick callback => do changeHandlers (·.onTick callback); return .done
  | .pressButton id => do onStage (Stage.pressButton id); return .done

end Host

end SpriteStage
