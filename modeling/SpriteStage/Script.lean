/-
Scripts: recorded lists of calls, which may bring the settings that they are to run under.
-/
import SpriteStage.Wire.Message

set_option autoImplicit false

namespace SpriteStage

/-- A list of calls to be replayed. -/
structure Script where
  /-- The settings to run under; whoever replays the script decides if there are none. -/
  settings : Option Settings := none
  /-- The calls in order. -/
  calls : List Call
deriving DecidableEq, Repr

namespace Script

/-- Refuses a script without calls, and one whose settings are not valid. -/
def validate (s : Script) : Except Fault Unit :=
  if s.calls = [] then .error (.rejected .emptyScript)
  else match s.settings with
    | some settings => settings.validate
    | none => .ok ()

/-! ## On the wire -/

/-- The record of a script. Settings that are absent are written as null. -/
def toJson (s : Script) : Json :=
  .ofMembers [("settings", (s.settings.map Settings.toJson).getD .null),
    ("calls", .array (s.calls.map Call.toJson))]

/-- Settings that may be null. -/
def settings? : Json → Option (Option Settings)
  | .null => some none
  | j => some <$> Settings.ofJson? j

/-- A list of calls, inside the record of a script. -/
def calls? : Json → Option (List Call)
  | .array items => items.mapM (Call.ofJson? (Wire.depth - 2))
  | _ => none

/-- The script of a record. Settings may be left out of an object, but not of an array. -/
def ofJson? (j : Json) : Option Script := do
  match ← Wire.fields? ["settings", "calls"] j with
  | [settings, some calls] =>
    return ⟨← Wire.orElse? none settings? settings, ← calls? calls⟩
  | _ => none

/-- Reads a script from a text, without asking whether it is valid. -/
def parse (text : String) : Except Fault Script :=
  match (Json.parse? text).bind ofJson? with
  | some s => .ok s
  | none => .error (.malformed "not a script")

/-- Reads a script from a text. It must be valid. -/
def load (text : String) : Except Fault Script := do
  let s ← parse text
  s.validate
  return s

end Script

end SpriteStage
