/-
The program: arguments and variables in, files and messages out.
-/
import SpriteStage.CommandLine.Run
import SpriteStage.Png

set_option autoImplicit false

namespace SpriteStage.CommandLine

/-- Tells whether an action went through. -/
def succeeds (action : IO Unit) : IO Bool :=
  (do action; return true) <|> return false

/-- Whether a path leads to a directory: only then is a dot behind it something that is there. -/
def leadsToDirectory (path : String) : IO Bool := do
  match ← (IO.FS.createDir (path ++ "/.")).toBaseIO with
  | .error (.alreadyExists ..) => return true
  | _ => return false

instance : Workspace IO where
  readText path := (some <$> IO.FS.readFile path) <|> return none
  readBytes path := (some <$> IO.FS.readBinFile path) <|> return none
  createDirectory path := do
    match ← (IO.FS.createDir path).toBaseIO with
    | .ok () => return .ok ()
    | .error (.noFileOrDirectory ..) => return .error .missing
    | .error _ => return .error .refused
  isDirectory := leadsToDirectory
  writeImage path frame := succeeds (IO.FS.writeBinFile path (Png.encode frame))
  report := IO.eprintln

/-- The help text. -/
def helpText : String :=
  "Usage: spritestage [-v] <COMMAND>\n\n" ++
  "  replay --in <SCRIPT> --out-dir <DIR> [--settings <FILE>]\n" ++
  "      Replay a script and write every presented canvas frame as an image.\n" ++
  "  frame --in <SCRIPT> --canvas <ID> --out <FILE> [--settings <FILE>]\n" ++
  "      Replay a script and write the last frame of one canvas.\n" ++
  "  help\n" ++
  "      Show this text."

/-- The version text. -/
def versionText : String := "spritestage 0.1.0"

/-- The variables that override settings, as they are set. -/
def environment : IO (String → Option String) := do
  let clear ← IO.getEnv Settings.clearVariable
  let minTick ← IO.getEnv Settings.minTickVariable
  let limit ← IO.getEnv Settings.limitVariable
  return fun name =>
    if name = Settings.clearVariable then clear
    else if name = Settings.minTickVariable then minTick
    else if name = Settings.limitVariable then limit
    else none

end SpriteStage.CommandLine

open SpriteStage.CommandLine in
/-- Does what the arguments ask for. -/
def main (args : List String) : IO UInt32 := do
  let request := Request.ofArguments args
  match request with
  | .run command => return UInt32.ofNat (← command.status (← environment))
  | .help => IO.println helpText
  | .version => IO.println versionText
  | .misuse => IO.eprintln helpText
  return UInt32.ofNat request.status
