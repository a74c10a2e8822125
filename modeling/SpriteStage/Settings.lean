/-
Settings: the background of every frame, the floor between two ticks, and the size limit.

Settings come from a JSON text or from their defaults, and three named variables may override single
fields. An override that is not well formed counts as absent. What is well formed differs from field
to field:

* the color is `0x`, `0X` or `#` and a hexadecimal word in which underscores count for nothing, or a
  decimal word, with white space around it;
* the floor is a decimal 64-bit word;
* the limit is a decimal 32-bit word other than zero.
-/
import SpriteStage.Color
import SpriteStage.Duration
import SpriteStage.Fault
import SpriteStage.Text.Blank
import SpriteStage.Text.Record

set_option autoImplicit false

namespace SpriteStage

/-- What the registry, the pacing of ticks and the command line can be told. -/
structure Settings where
  /-- The color that every frame starts from. -/
  clear : Argb := .black
  /-- The least time between the starts of two ticks, in milliseconds. -/
  minTickMillis : UInt64 := 500
  /-- The largest width and height of a canvas or bitmap. -/
  limit : UInt32 := 4096
deriving DecidableEq, Repr

namespace Settings

/-- Refuses settings under which nothing could be created. -/
def validate (s : Settings) : Except Fault Unit :=
  if s.limit = 0 then .error (.rejected .surfaceLimit) else .ok ()

/-- The floor between two ticks as a length of time. -/
def minTick (s : Settings) : Duration := .ofMillis s.minTickMillis.toNat

/-! ## Overrides -/

/-- What follows the mark of a hexadecimal color, if the text starts with one. -/
def hexBody? : List Char → Option (List Char)
  | '0' :: 'x' :: rest => some rest
  | '0' :: 'X' :: rest => some rest
  | '#' :: rest => some rest
  | _ => none

/-- The color that an override text names. -/
def color? (text : String) : Option Argb :=
  let cs := Text.trim text.toList
  let word := match hexBody? cs with
    | some body => Digits.unsigned? 16 UInt32.size (body.filter (· != '_'))
    | none => Digits.unsigned? 10 UInt32.size cs
  word.map fun n => ⟨UInt32.ofNat n⟩

/-- The number of milliseconds that an override text names. -/
def millis? (text : String) : Option UInt64 :=
  (Digits.unsigned? 10 UInt64.size text.toList).map UInt64.ofNat

/-- The size limit that an override text names. -/
def limit? (text : String) : Option UInt32 :=
  ((Digits.unsigned? 10 UInt32.size text.toList).filter (0 < ·)).map UInt32.ofNat

/-- The name of the variable that overrides the background. -/
def clearVariable : String := "SPRITEHOST_CLEAR_ARGB"

/-- The name of the variable that overrides the floor between two ticks. -/
def minTickVariable : String := "SPRITEHOST_MIN_TICK_MS"

/-- The name of the variable that overrides the size limit. -/
def limitVariable : String := "SPRITEHOST_MAX_SURFACE_DIM"

/-- The settings with every field replaced whose variable is set to a well-formed text. -/
def override (s : Settings) (env : String → Option String) : Settings where
  clear := ((env clearVariable).bind color?).getD s.clear
  minTickMillis := ((env minTickVariable).bind millis?).getD s.minTickMillis
  limit := ((env limitVariable).bind limit?).getD s.limit

/-! ## Description -/

/-- The settings as a text for diagnosis. -/
def debugText (s : Settings) : String :=
  Text.record "HostSettings" [("clear_argb", s!"Argb({s.clear.word})"),
    ("min_tick_ms", toString s.minTickMillis), ("max_surface_dim", toString s.limit)]

end Settings

end SpriteStage
