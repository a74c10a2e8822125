/-
Commands at work: both replay a script, and write what its canvases show as image files.

`replay` writes every frame at the moment when it is presented, each to a file of its own. `frame`
waits for the end and writes the last frame of one canvas. A command that fails has one message, the
text of the fault, and a status other than zero.
-/
import SpriteStage.CommandLine.Arguments
import SpriteStage.Session
import SpriteStage.Workspace

set_option autoImplicit false

namespace SpriteStage.CommandLine

variable {m : Type → Type} [Monad m] [Workspace m]

/-! ## Loading -/

/-- The fallback settings of a source, with the overrides of named variables. -/
def Source.fallback (source : Source) (env : String → Option String) :
    ExceptT Fault m Settings := do
  match source.settings with
  | some path => return (← ExceptT.mk (Workspace.settings path)).override env
  | none => return ({} : Settings).override env

/-- The script of a source and a session in which to replay it. -/
def Source.load (source : Source) (env : String → Option String) :
    ExceptT Fault m (Script × Session) := do
  let script ← ExceptT.mk (Workspace.script source.script)
  let session ← Session.forScript script (← source.fallback env)
  return (script, session)

/-! ## Replaying -/

/-- The name of the file for a frame. -/
def frameName (canvas : Ident) (frame : UInt64) : String :=
  s!"canvas-{canvas}-frame-{frame}.png"

/-- Writes the frame that a call has presented, if it has presented one, and counts it. -/
def writePresented (outDir : String) (stage : Stage Recorder) (o : Outcome) :
    StateT Nat m (Except Fault Unit) := do
  match o.result with
  | .ok (.redrawn canvas frame) =>
    match stage.canvas canvas with
    | .error fault => return .error fault
    | .ok c =>
      let path := Path.join outDir (frameName canvas frame)
      match ← StateT.lift (Workspace.image path c.raster) with
      | .error fault => return .error fault
      | .ok () =>
        modify (· + 1)
        return .ok ()
  | _ => return .ok ()

/-- The messages about a replay that has come to its end. -/
def summary (session : Session) (written : Nat) (outDir : String) : List String :=
  let failures := session.outcomes.filterMap fun o =>
    match o.result with
    | .ok _ => none
    | .error fault => some s!"call {o.index} ({o.call}) failed: {fault.message}"
  let events := session.events.map fun e => s!"event {e.toJson.toText}"
  let calls := session.outcomes.length
  let failed := session.failures.length
  failures ++ events ++
    [s!"replayed {calls} calls ({failed} failed), wrote {written} frames to {outDir}"]

/-- Shows messages in order. -/
def reportAll : List String → m Unit
  | [] => pure ()
  | line :: rest => do
    Workspace.report line
    reportAll rest

/-- Replays a script and writes every presented frame. -/
def replay (source : Source) (outDir : String) (env : String → Option String) :
    ExceptT Fault m Unit := do
  let (script, session) ← source.load env
  ExceptT.mk (Workspace.outputDirectory outDir)
  let ((result, session), written) ←
    ExceptT.lift ((session.runWith (writePresented outDir) script.calls).run 0)
  result
  ExceptT.lift (reportAll (summary session written outDir))

/-- Replays a script and writes the last frame of a canvas. -/
def frame (source : Source) (canvas : Ident) (out : String) (env : String → Option String) :
    ExceptT Fault m Unit := do
  let (script, session) ← source.load env
  let c ← (session.run script.calls).stage.canvas canvas
  if c.raster.frame = 0 then
    throw (.mishap (.neverRedrawn canvas))
  if let some parent := Path.parent? out then
    ExceptT.mk (Workspace.outputDirectory parent)
  ExceptT.mk (Workspace.image out c.raster)
  ExceptT.lift (Workspace.report s!"wrote {out}")

/-! ## Running -/

/-- Carries out a command. -/
def Command.run (command : Command) (env : String → Option String) :
    ExceptT Fault m Unit :=
  match command with
  | .replay source outDir => CommandLine.replay source outDir env
  | .frame source canvas out => CommandLine.frame source canvas out env

/-- Carries out a command and shows the fault if it fails. Answers with the exit status. -/
def Command.status (command : Command) (env : String → Option String) : m Nat := do
  match ← (command.run env).run with
  | .ok () => return 0
  | .error fault =>
    Workspace.report s!"Error: {fault.message}"
    return 1

/-- The exit status of arguments that ask for no command. -/
def Request.status : Request → Nat
  | .run _ => 0
  | .help => 0
  | .version => 0
  | .misuse => 2

end SpriteStage.CommandLine
