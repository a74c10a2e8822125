/-
Calls, replies and events on the wire: tagged records, each kind of message with a tag key of its
own.

What is written and what is read are given side by side. `fields` lists the fields of a message in
the order in which they are written, `fieldNames?` their names by tag, and `ofFields?` takes the
values back.

The tag of a call is made from its identifier. The table `Call.name`, which other parts of the
program take the name of a call from, has no part in what is written.
-/
import SpriteStage.Call
import SpriteStage.Wire.Value

set_option autoImplicit false

namespace SpriteStage

/-! ## Calls -/

namespace Call

/-- The key of the tag. -/
def tagKey : String := "call"

/-- The identifier of the variant that a call is. -/
def identifier : Call → String
  | createTextView .. => "CreateTextView"
  | modifyTextView .. => "ModifyTextView"
  | removeTextView .. => "RemoveTextView"
  | createButton .. => "CreateButton"
  | createCanvas .. => "CreateCanvas"
  | createBitmap .. => "CreateBitmap"
  | createText .. => "CreateText"
  | setText .. => "SetText"
  | modifyBitmap .. => "ModifyBitmap"
  | bitmapSetPixels .. => "BitmapSetPixels"
  | bitmapSetPosition .. => "BitmapSetPosition"
  | bitmapSetZIndex .. => "BitmapSetZIndex"
  | canvasAddBitmap .. => "CanvasAddBitmap"
  | canvasRemoveBitmap .. => "CanvasRemoveBitmap"
  | canvasDeleteBitmap .. => "CanvasDeleteBitmap"
  | canvasRedraw .. => "CanvasRedraw"
  | registerOnClick .. => "RegisterOnClick"
  | registerOnTick .. => "RegisterOnTick"
  | pressButton .. => "PressButton"

/-- The tag of a call. -/
def tag (c : Call) : String := Wire.camelCase c.identifier

/-- The fields of a call, in the order of declaration. -/
def fields : Call → List (String × Json)
  | createTextView text => [("text", .ofText text)]
  | modifyTextView id text => [("id", .ofInt id.toNat), ("text", .ofText text)]
  | removeTextView id => [("id", .ofInt id.toNat)]
  | createButton label => [("label", .ofText label)]
  | createCanvas width height => [("width", .ofInt width.toInt), ("height", .ofInt height.toInt)]
  | createBitmap width height => [("width", .ofInt width.toInt), ("height", .ofInt height.toInt)]
  | createText text color fontSize =>
    [("text", .ofText text), ("color", color.toJson), ("fontSize", .ofInt fontSize.toInt)]
  | setText id text => [("id", .ofInt id.toNat), ("text", .ofText text)]
  | modifyBitmap id x y color =>
    [("id", .ofInt id.toNat), ("x", .ofInt x.toInt), ("y", .ofInt y.toInt), ("color", color.toJson)]
  | bitmapSetPixels id pixels =>
    [("id", .ofInt id.toNat), ("pixels", .array (pixels.map fun word => .ofInt word.toNat))]
  | bitmapSetPosition id left top =>
    [("id", .ofInt id.toNat), ("left", .ofInt left.toInt), ("top", .ofInt top.toInt)]
  | bitmapSetZIndex id zIndex => [("id", .ofInt id.toNat), ("zIndex", .ofInt zIndex.toInt)]
  | canvasAddBitmap canvas sprite =>
    [("canvasId", .ofInt canvas.toNat), ("bitmapId", .ofInt sprite.toNat)]
  | canvasRemoveBitmap canvas sprite =>
    [("canvasId", .ofInt canvas.toNat), ("bitmapId", .ofInt sprite.toNat)]
  | canvasDeleteBitmap sprite => [("bitmapId", .ofInt sprite.toNat)]
  | canvasRedraw canvas => [("canvasId", .ofInt canvas.toNat)]
  | registerOnClick id callback => [("id", .ofInt id.toNat), ("callback", .ofInt callback.toNat)]
  | registerOnTick callback => [("callback", .ofInt callback.toNat)]
  | pressButton id => [("id", .ofInt id.toNat)]

/-- The names of the fields of the call with that name. -/
def fieldNames? : String → Option (List String)
  | "createTextView" => some ["text"]
  | "modifyTextView" => some ["id", "text"]
  | "removeTextView" => some ["id"]
  | "createButton" => some ["label"]
  | "createCanvas" => some ["width", "height"]
  | "createBitmap" => some ["width", "height"]
  | "createText" => some ["text", "color", "fontSize"]
  | "setText" => some ["id", "text"]
  | "modifyBitmap" => some ["id", "x", "y", "color"]
  | "bitmapSetPixels" => some ["id", "pixels"]
  | "bitmapSetPosition" => some ["id", "left", "top"]
  | "bitmapSetZIndex" => some ["id", "zIndex"]
  | "canvasAddBitmap" => some ["canvasId", "bitmapId"]
  | "canvasRemoveBitmap" => some ["canvasId", "bitmapId"]
  | "canvasDeleteBitmap" => some ["bitmapId"]
  | "canvasRedraw" => some ["canvasId"]
  | "registerOnClick" => some ["id", "callback"]
  | "registerOnTick" => some ["callback"]
  | "pressButton" => some ["id"]
  | _ => none

/-- The words of an array. -/
def words? : Json → Option (List UInt32)
  | .array items => items.mapM Json.word32?
  | _ => none

/-- The call with that name and the values of its fields, in the order of their names. -/
def ofFields? : String → List Json → Option Call
  | "createTextView", [text] => return .createTextView (← text.text?)
  | "modifyTextView", [id, text] => return .modifyTextView (← id.word32?) (← text.text?)
  | "removeTextView", [id] => return .removeTextView (← id.word32?)
  | "createButton", [label] => return .createButton (← label.text?)
  | "createCanvas", [width, height] => return .createCanvas (← width.int32?) (← height.int32?)
  | "createBitmap", [width, height] => return .createBitmap (← width.int32?) (← height.int32?)
  | "createText", [text, color, fontSize] =>
    return .createText (← text.text?) (← Argb.ofJson? color) (← fontSize.int32?)
  | "setText", [id, text] => return .setText (← id.word32?) (← text.text?)
  | "modifyBitmap", [id, x, y, color] =>
    return .modifyBitmap (← id.word32?) (← x.int32?) (← y.int32?) (← Argb.ofJson? color)
  | "bitmapSetPixels", [id, pixels] => return .bitmapSetPixels (← id.word32?) (← words? pixels)
  | "bitmapSetPosition", [id, left, top] =>
    return .bitmapSetPosition (← id.word32?) (← left.int32?) (← top.int32?)
  | "bitmapSetZIndex", [id, zIndex] => return .bitmapSetZIndex (← id.word32?) (← zIndex.int32?)
  | "canvasAddBitmap", [canvas, sprite] =>
    return .canvasAddBitmap (← canvas.word32?) (← sprite.word32?)
  | "canvasRemoveBitmap", [canvas, sprite] =>
    return .canvasRemoveBitmap (← canvas.word32?) (← sprite.word32?)
  | "canvasDeleteBitmap", [sprite] => return .canvasDeleteBitmap (← sprite.word32?)
  | "canvasRedraw", [canvas] => return .canvasRedraw (← canvas.word32?)
  | "registerOnClick", [id, callback] =>
    return .registerOnClick (← id.word32?) (← callback.word32?)
  | "registerOnTick", [callback] => return .registerOnTick (← callback.word32?)
  | "pressButton", [id] => return .pressButton (← id.word32?)
  | _, _ => none

/-- The record of a call. -/
def toJson (c : Call) : Json := Wire.tagged tagKey c.tag c.fields

/-- The call of a record, with at most `room` containers open at a time in it. -/
def ofJson? (room : Nat) (j : Json) : Option Call := do
  let (tag, values) ← Wire.tagged? tagKey fieldNames? room j
  ofFields? tag values

end Call

/-! ## Replies -/

namespace Reply

/-- The key of the tag. -/
def tagKey : String := "reply"

/-- The tag of a reply. -/
def tag : Reply → String
  | id _ => "id"
  | done => "done"
  | redrawn _ _ => "redrawn"

/-- The fields of a reply, in the order of declaration. -/
def fields : Reply → List (String × Json)
  | id n => [("id", .ofInt n.toNat)]
  | done => []
  | redrawn canvas frame => [("canvas", .ofInt canvas.toNat), ("frame", .ofInt frame.toNat)]

/-- The names of the fields of the reply with that tag. -/
def fieldNames? : String → Option (List String)
  | "id" => some ["id"]
  | "done" => some []
  | "redrawn" => some ["canvas", "frame"]
  | _ => none

/-- The reply with that tag and the values of its fields, in the order of their names. -/
def ofFields? : String → List Json → Option Reply
  | "id", [n] => return .id (← n.word32?)
  | "done", [] => some .done
  | "redrawn", [canvas, frame] => return .redrawn (← canvas.word32?) (← frame.word64?)
  | _, _ => none

/-- The record of a reply. -/
def toJson (r : Reply) : Json := Wire.tagged tagKey r.tag r.fields

/-- The reply of a record, with at most `room` containers open at a time in it. -/
def ofJson? (room : Nat) (j : Json) : Option Reply := do
  let (tag, values) ← Wire.tagged? tagKey fieldNames? room j
  ofFields? tag values

end Reply

/-! ## Events -/

namespace Event

/-- The key of the tag. -/
def tagKey : String := "event"

/-- The tag of an event. -/
def tag : Event → String
  | buttonPress _ => "buttonPress"

/-- The fields of an event, in the order of declaration. -/
def fields : Event → List (String × Json)
  | buttonPress id => [("id", .ofInt id.toNat)]

/-- The names of the fields of the event with that tag. -/
def fieldNames? : String → Option (List String)
  | "buttonPress" => some ["id"]
  | _ => none

/-- The event with that tag and the values of its fields, in the order of their names. -/
def ofFields? : String → List Json → Option Event
  | "buttonPress", [id] => return .buttonPress (← id.word32?)
  | _, _ => none

/-- The record of an event. -/
def toJson (e : Event) : Json := Wire.tagged tagKey e.tag e.fields

/-- The event of a record, with at most `room` containers open at a time in it. -/
def ofJson? (room : Nat) (j : Json) : Option Event := do
  let (tag, values) ← Wire.tagged? tagKey fieldNames? room j
  ofFields? tag values

end Event

end SpriteStage
