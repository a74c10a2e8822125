/-
Colors, kinds, extents and settings on the wire.
-/
import SpriteStage.Extent
import SpriteStage.Json.Printer
import SpriteStage.Json.Reader
import SpriteStage.Settings
import SpriteStage.Wire.Record

set_option autoImplicit false

namespace SpriteStage

/-! ## Colors

A color is written as its packed word. Runtimes without unsigned words send the same bits as a
negative number, so that is read as well. -/

namespace Argb

/-- The number that is written for a color. -/
def toJson (c : Argb) : Json := .ofInt c.word.toNat

/-- The color of a number, in either reading of the word. -/
def ofJson? (j : Json) : Option Argb :=
  match j.word32? with
  | some word => some ⟨word⟩
  | none => (j.integerIn? (-0x80000000) (-1)).map fun n => ofSigned (Int32.ofInt n)

end Argb

/-! ## Kinds -/

namespace Kind

/-- The name of a kind on the wire. -/
def name : Kind → String
  | textView => "TextView"
  | button => "Button"
  | canvas => "Canvas"
  | sprite => "Sprite"

/-- The kind of a name. -/
def ofName? (name : String) : Option Kind := all.find? fun kind => kind.name = name

/-- The string that is written for a kind. -/
def toJson (kind : Kind) : Json := .ofText kind.name

/-- The kind of a string, or of an object whose only member has the name as its key and no value. -/
def ofJson? : Json → Option Kind
  | .string (some name) => ofName? name
  | .object [(some name, .null)] => ofName? name
  | _ => none

end Kind

/-! ## Extents -/

namespace Extent

/-- The record of an extent. -/
def toJson (e : Extent) : Json :=
  .ofMembers [("width", .ofInt e.width.toNat), ("height", .ofInt e.height.toNat)]

/-- The extent of a record. -/
def ofJson? (j : Json) : Option Extent := do
  match ← Wire.allFields? ["width", "height"] j with
  | [width, height] => return ⟨← width.word32?, ← height.word32?⟩
  | _ => none

end Extent

/-! ## Settings -/

namespace Settings

/-- The names of the fields, in the order of declaration. -/
def fieldNames : List String := ["clear_argb", "min_tick_ms", "max_surface_dim"]

/-- The record of settings. -/
def toJson (s : Settings) : Json :=
  .ofMembers [("clear_argb", s.clear.toJson), ("min_tick_ms", .ofInt s.minTickMillis.toNat),
    ("max_surface_dim", .ofInt s.limit.toNat)]

/-- The settings of a record. A field that is absent keeps its default. -/
def ofJson? (j : Json) : Option Settings := do
  let base : Settings := {}
  match ← Wire.fields? fieldNames j with
  | [clear, minTick, limit] =>
    return {
      clear := ← Wire.orElse? base.clear Argb.ofJson? clear
      minTickMillis := ← Wire.orElse? base.minTickMillis Json.word64? minTick
      limit := ← Wire.orElse? base.limit Json.word32? limit }
  | _ => none

/-- Reads settings from a text, without asking whether they are valid. -/
def parse (text : String) : Except Fault Settings :=
  match (Json.parse? text).bind ofJson? with
  | some s => .ok s
  | none => .error (.malformed "not settings")

/-- Reads settings from a text. They must be valid. -/
def load (text : String) : Except Fault Settings := do
  let s ← parse text
  s.validate
  return s

end Settings

end SpriteStage
