/-
Asset names: relative names of packaged resources, brought to one form.

A name may be written with slashes or backslashes, and with empty parts and dots that mean nothing.
The canonical form has single slashes and neither of those. Names that could lead out of the asset
directory are refused: one that starts at a root or with a drive, and one that goes to a parent.
-/
import SpriteStage.Fault
import SpriteStage.Path

set_option autoImplicit false

namespace SpriteStage.Asset

/-- Whether a character separates the segments of a name. -/
def isSeparator (c : Char) : Bool := c = '/' || c = '\\'

/-- The segments of a name that lead anywhere. -/
def segments (name : List Char) : List (List Char) :=
  (Path.pieces isSeparator name).filter Path.isStep

/-- The segments of an admitted name. -/
def checked (name : String) : Except Fault (List (List Char)) :=
  let segs := segments name.toList
  if name.toList.head?.any isSeparator then .error (.rejected (.absoluteAsset name))
  else if segs.head?.any (·.contains ':') then .error (.rejected (.absoluteAsset name))
  else if segs.contains ['.', '.'] then .error (.rejected (.climbingAsset name))
  else if segs = [] then .error (.rejected .namelessAsset)
  else .ok segs

/-- The canonical form of a name. -/
def normalize (name : String) : Except Fault String := do
  let segs ← checked name
  return String.ofList (List.intercalate ['/'] segs)

/-- The path of an asset below a root directory, with `join` as the rule for putting a name behind a
path: the parts of the canonical form are put behind the root one after the other. -/
def resolveBy (join : String → String → String) (root name : String) : Except Fault String := do
  let form ← normalize name
  return (Path.parts form).foldl (fun path seg => join path (String.ofList seg)) root

/-- The path of an asset below a root directory. -/
def resolve (root name : String) : Except Fault String := resolveBy Path.join root name

end SpriteStage.Asset
