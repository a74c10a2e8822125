/-
Faults: every way in which an operation of the library can fail, and the text of each.

A fault records its cause, so that callers and theorems can tell causes apart. The wording stands in
one place, `Fault.message`. There are six families. Three of them belong to the registry (an id that
names nothing, a pixel outside its bitmap, a size out of range), one to values that a caller must
not pass, one to JSON texts, and one to the world outside: files, and receivers that have gone away.
-/
import SpriteStage.Element

set_option autoImplicit false

namespace SpriteStage

/-- Why a value that a caller passed is refused. -/
inductive Rejection where
  /-- A font size that is not positive. -/
  | fontSize (got : Int32)
  /-- An upload with another number of pixels than the bitmap has. -/
  | pixelCount (expected got : Nat)
  /-- Settings whose size limit is zero. -/
  | surfaceLimit
  /-- A script with no calls in it. -/
  | emptyScript
  /-- An asset name that starts at a root or a drive. -/
  | absoluteAsset (name : String)
  /-- An asset name with a parent segment. -/
  | climbingAsset (name : String)
  /-- An asset name with nothing left after normalization. -/
  | namelessAsset
  /-- Two pixel rows of different length. -/
  | unequalRows
  /-- A refusal worded by whoever refuses. -/
  | other (text : String)
deriving DecidableEq, Repr

/-- The text of a refusal. -/
def Rejection.message : Rejection → String
  | fontSize got => s!"font size must be > 0, got {got}"
  | pixelCount expected got => s!"bitmap upload expects {expected} pixels, got {got}"
  | surfaceLimit => "max_surface_dim must be > 0"
  | emptyScript => "script contains no calls"
  | absoluteAsset name => s!"asset name '{name}' must be relative"
  | climbingAsset name => s!"asset name '{name}' must not contain '..'"
  | namelessAsset => "asset name must contain a file name"
  | unequalRows => "over_row_in_place expects equal-length rgba8 buffers"
  | other text => text

/-- What was to be done with a file when it failed. -/
inductive FileTask where
  /-- Reading settings. -/
  | readSettings
  /-- Reading a script. -/
  | readScript
  /-- Reading an asset. -/
  | readAsset
  /-- Creating the directory that output goes to. -/
  | createDirectory
  /-- Writing an image. -/
  | writeImage
deriving DecidableEq, Repr

/-- The task as error texts name it. -/
def FileTask.label : FileTask → String
  | readSettings => "read settings"
  | readScript => "read script"
  | readAsset => "read asset"
  | createDirectory => "create output dir"
  | writeImage => "write png"

/-- What went wrong outside the registry. -/
inductive Mishap where
  /-- A file could not be read, created or written. -/
  | file (task : FileTask) (path : String)
  /-- A frame was asked for of a canvas that has none. -/
  | neverRedrawn (canvas : Ident)
  /-- The receiving end of an event channel is gone. -/
  | channelClosed
  /-- A failure worded by whoever reports it. -/
  | other (text : String)
deriving DecidableEq, Repr

/-- The text of a mishap. -/
def Mishap.message : Mishap → String
  | file task path => s!"{task.label} '{path}'"
  | neverRedrawn canvas => s!"canvas {canvas} was never redrawn"
  | channelClosed => "runtime event channel closed"
  | other text => text

/-- Why an operation failed. -/
inductive Fault where
  /-- The id names no element of the kind, or a sprite of the wrong sort. -/
  | notFound (kind : Kind) (id : Ident)
  /-- The pixel lies outside the bitmap of that size. -/
  | outOfBounds (id : Ident) (x y : Int32) (width height : UInt32)
  /-- A surface of that size is not admitted. -/
  | invalidDimensions (width height : Int)
  /-- A value that a caller passed is refused. -/
  | rejected (reason : Rejection)
  /-- A text is not JSON, or not of the shape that is due. -/
  | malformed (detail : String)
  /-- Something outside the registry went wrong. -/
  | mishap (what : Mishap)
deriving DecidableEq, Repr

namespace Fault

/-- The text of a fault. -/
def message : Fault → String
  | notFound kind id => s!"not found: {kind.label} {id}"
  | outOfBounds id x y width height =>
    s!"out of bounds: pixel ({x}, {y}) outside {width}x{height} bitmap {id}"
  | invalidDimensions width height => s!"invalid dimensions: {width}x{height}"
  | rejected reason => s!"validation error: {reason.message}"
  | malformed detail => s!"serialization error: {detail}"
  | mishap what => what.message

/-- Whether the fault is an id that names nothing. -/
def isNotFound : Fault → Bool
  | notFound _ _ => true
  | _ => false

end Fault

/-- An operation on a state `σ` that may fail. The state that it leaves is known in both cases, so
what a failed operation changed can be asked for. -/
abbrev Attempt (σ α : Type) := ExceptT Fault (StateM σ) α

namespace Attempt

/-- Runs an operation on one part of a larger state. -/
def onPart {σ τ α : Type} (get : σ → τ) (set : τ → σ → σ) (x : Attempt τ α) : Attempt σ α :=
  ExceptT.mk fun s =>
    let (result, part) := x.run.run (get s)
    (result, set part s)

end Attempt

end SpriteStage
