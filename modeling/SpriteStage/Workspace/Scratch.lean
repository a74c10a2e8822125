/-
Scratch: a workspace in memory.

The files form a tree, and every node of it stands under its full path from the root. One directory
is where relative paths start. A path is walked from left to right: a dot stays, two dots go up, and
a name goes down into a directory that must be there.
-/
import SpriteStage.Path
import SpriteStage.Png
import SpriteStage.Workspace

set_option autoImplicit false

namespace SpriteStage

/-- A node of the tree. -/
inductive Node where
  /-- A directory. -/
  | directory
  /-- A file with bytes. -/
  | file (bytes : ByteArray)
  /-- An image file, held as the frame that it shows. -/
  | image (frame : Frame)

/-- The names that lead to a node from the root. -/
abbrev Place := List (List Char)

/-- A tree of files, and the messages that were shown. -/
structure Scratch where
  /-- The nodes under their places. The root is a directory without being listed. -/
  nodes : List (Place × Node)
  /-- Where relative paths start. -/
  here : Place
  /-- The messages, the first one first. -/
  reports : List String

namespace Scratch

/-! ## Nodes -/

/-- The node at a place. -/
def node? (s : Scratch) (place : Place) : Option Node :=
  if place = [] then some .directory else s.nodes.lookup place

/-- Puts a node at a place, over the one that was there. -/
def put (s : Scratch) (place : Place) (node : Node) : Scratch :=
  { s with nodes := s.nodes.filter (·.1 ≠ place) ++ [(place, node)] }

/-- Whether there is a directory at a place. -/
def isDirectory (s : Scratch) (place : Place) : Bool :=
  match s.node? place with
  | some .directory => true
  | _ => false

/-- The most bytes that a name may have. -/
def nameLimit : Nat := 255

/-- The most bytes that a path may have. -/
def pathLimit : Nat := 4095

/-- Whether a name may be asked for. -/
def isName (name : List Char) : Bool := (String.ofList name).utf8ByteSize ≤ nameLimit

/-- Whether a path may be asked for at all. -/
def isPath (path : String) : Bool :=
  path ≠ "" && path.utf8ByteSize ≤ pathLimit && !path.toList.contains '\x00'

/-- Where a path starts. -/
def origin (s : Scratch) (path : String) : Place := if Path.isAbsolute path then [] else s.here

/-! ## Walks -/

/-- Walks along pieces through directories. -/
def walk (s : Scratch) (place : Place) : List (List Char) → Except Obstacle Place
  | [] => .ok place
  | piece :: rest =>
    if !Path.isStep piece then s.walk place rest
    else if piece = ['.', '.'] then s.walk place.dropLast rest
    else if isName piece then
      match s.node? (place ++ [piece]) with
      | some .directory => s.walk (place ++ [piece]) rest
      | some _ => .error .refused
      | none => .error .missing
    else .error .refused

/-- The place of a node that a path names, whether or not there is one: the last piece must be a
name, and the pieces before it lead to the directory that the node lies in. -/
def place (s : Scratch) (path : String) (pieces : List (List Char)) : Except Obstacle Place := do
  if !isPath path then throw .refused
  let above ← s.walk (s.origin path) pieces.dropLast
  match pieces.getLast? with
  | none => throw .refused
  | some name =>
    if Path.isStep name && name ≠ ['.', '.'] && isName name then return above ++ [name]
    else throw .refused

/-- The place of the file that a path names. A path that ends in a slash names no file. -/
def filePlace? (s : Scratch) (path : String) : Option Place :=
  (s.place path (Path.parts path)).toOption

/-! ## Operations -/

/-- The bytes of the file that a path names. -/
def read? (s : Scratch) (path : String) : Option ByteArray := do
  match ← s.node? (← s.filePlace? path) with
  | .directory => none
  | .file bytes => some bytes
  | .image frame => some (Png.encode frame)

/-- The scratch with a new directory at a path. Slashes at the end of the path do not count, but a
dot there does: it names a directory that cannot be new. -/
def createDirectory (s : Scratch) (path : String) : Except Obstacle Scratch := do
  let pieces := ((Path.parts path).reverse.dropWhile (· = [])).reverse
  let place ← s.place path pieces
  if (s.node? place).isSome then throw .refused else return s.put place .directory

/-- Whether a path leads to a directory. -/
def leadsToDirectory (s : Scratch) (path : String) : Bool :=
  isPath path && (s.walk (s.origin path) (Path.parts path)).isOk

/-- The scratch with a node at a path, in a directory that is there and not over a directory. -/
def write? (s : Scratch) (path : String) (node : Node) : Option Scratch := do
  let place ← s.filePlace? path
  if s.isDirectory place then none else some (s.put place node)

/-- The images below the directory where relative paths start, with their places relative to it. -/
def images (s : Scratch) : List (Place × Frame) :=
  s.nodes.filterMap fun (place, node) =>
    match node with
    | .image frame =>
      if s.here.isPrefixOf place then some (place.drop s.here.length, frame) else none
    | _ => none

end Scratch

instance : Workspace (StateM Scratch) where
  readText path := do return ((← get).read? path).bind String.fromUTF8?
  readBytes path := do return (← get).read? path
  createDirectory path := modifyGet fun s =>
    match s.createDirectory path with
    | .ok s' => (.ok (), s')
    | .error obstacle => (.error obstacle, s)
  isDirectory path := do return (← get).leadsToDirectory path
  writeImage path frame := modifyGet fun s =>
    match s.write? path (.image frame) with
    | some s' => (true, s')
    | none => (false, s)
  report line := modify fun s => { s with reports := s.reports ++ [line] }

/-- The scratch with a file at a path and the directories above it. -/
def Scratch.withFile (s : Scratch) (path : String) (bytes : ByteArray) : Scratch :=
  let above := (Path.parent? path).getD ""
  let (_, s) := (Workspace.createDirectories above : StateM Scratch Bool).run s
  (s.write? path (.file bytes)).getD s

/-- The scratch with files and the directories above them. -/
def Scratch.withFiles (s : Scratch) (files : List (String × ByteArray)) : Scratch :=
  files.foldl (fun s file => s.withFile file.1 file.2) s

end SpriteStage
