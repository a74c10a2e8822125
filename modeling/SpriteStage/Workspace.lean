/-
Workspaces: the little of the world outside that the library touches.

Files are read and written through this class, so whatever uses files can be run on a disk as well
as in memory. An operation on a file answers whether it worked, and the caller knows which fault
that makes.

Directories are made one at a time. What comes of a path with several missing directories is settled
here, in `createDirectories`, for every workspace alike.
-/
import SpriteStage.Asset
import SpriteStage.Frame
import SpriteStage.Path
import SpriteStage.Script

set_option autoImplicit false

namespace SpriteStage

/-- Why there is no way to a place. -/
inductive Obstacle where
  /-- A directory on the way is missing. -/
  | missing
  /-- Anything else: what stands there is no directory or stands there already, or the path may not
  be asked for. -/
  | refused
deriving DecidableEq, Repr

/-- Monads with files and a place for messages. -/
class Workspace (m : Type → Type) where
  /-- The text of a file, if there is one and it is text. -/
  readText : String → m (Option String)
  /-- The bytes of a file, if there is one. -/
  readBytes : String → m (Option ByteArray)
  /-- Makes a new directory in a directory that is there. -/
  createDirectory : String → m (Except Obstacle Unit)
  /-- Whether a path leads to a directory. -/
  isDirectory : String → m Bool
  /-- Writes a frame with straight alpha as an image file. -/
  writeImage : String → Frame → m Bool
  /-- Shows a message. -/
  report : String → m Unit

namespace Workspace

variable {m : Type → Type} [Monad m] [Workspace m]

/-- The text of a file that must be readable. -/
def text (task : FileTask) (path : String) : m (Except Fault String) := do
  return match ← readText path with
    | some text => .ok text
    | none => .error (.mishap (.file task path))

/-- The script in a file. -/
def script (path : String) : m (Except Fault Script) := do
  return (← text .readScript path).bind Script.load

/-- The settings in a file. -/
def settings (path : String) : m (Except Fault Settings) := do
  return (← text .readSettings path).bind Settings.load

/-- The bytes of an asset below a root directory. -/
def asset (root name : String) : m (Except Fault ByteArray) :=
  match Asset.resolve root name with
  | .error fault => pure (.error fault)
  | .ok path => do
    return match ← readBytes path with
      | some bytes => .ok bytes
      | none => .error (.mishap (.file .readAsset path))

/-- Makes sure that the first of some paths leads to a directory, where each of them lies in the
next one. The directory that a path lies in is seen to only if the path cannot be made for want of a
directory, and what is there already serves if it is a directory. The empty path stands for the
directory where relative paths start, which needs no making. -/
def createAll : List String → m Bool
  | [] => return false
  | path :: above =>
    if path = "" then return true
    else do
      match ← createDirectory path with
      | .ok () => return true
      | .error .refused => isDirectory path
      | .error .missing =>
        if ← createAll above then
          match ← createDirectory path with
          | .ok () => return true
          | .error _ => isDirectory path
        else return false

/-- Makes sure that a path leads to a directory, with the directories above it. -/
def createDirectories (path : String) : m Bool := createAll (Path.ancestors path)

/-- Makes sure that the directory for output exists. -/
def outputDirectory (path : String) : m (Except Fault Unit) := do
  return if ← createDirectories path then .ok () else .error (.mishap (.file .createDirectory path))

/-- Writes what a raster shows as an image file. -/
def image (path : String) (raster : Raster) : m (Except Fault Unit) := do
  return if ← writeImage path raster.readback.toStraight then .ok ()
    else .error (.mishap (.file .writeImage path))

end Workspace

end SpriteStage
