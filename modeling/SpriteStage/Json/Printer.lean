/-
Writing JSON values, in the compact form.

There is no white space, members come in their order, and a string escapes no more than it must: the
quote, the backslash and the control characters below the space.
-/
import SpriteStage.Digits
import SpriteStage.Json.Basic

set_option autoImplicit false

namespace SpriteStage

/-- The numeral as it was written. -/
def Numeral.render (n : Numeral) : List Char :=
  let sign (negative : Bool) : List Char := if negative then ['-'] else []
  let fraction := if n.fraction = [] then [] else '.' :: n.fraction
  let exponent := match n.exponent with
    | none => []
    | some (negative, digits) => 'e' :: sign negative ++ digits
  sign n.negative ++ n.whole ++ fraction ++ exponent

namespace Json

/-- A character inside a string. -/
def escape (c : Char) : List Char :=
  if c = '"' then ['\\', '"']
  else if c = '\\' then ['\\', '\\']
  else if c = '\x08' then ['\\', 'b']
  else if c = '\t' then ['\\', 't']
  else if c = '\n' then ['\\', 'n']
  else if c = '\x0c' then ['\\', 'f']
  else if c = '\r' then ['\\', 'r']
  else if c.toNat < 0x20 then '\\' :: 'u' :: Digits.hex Nat.digitChar 4 c.toNat
  else [c]

/-- A string. One that denotes no text is written as the half character it may consist of. -/
def renderString : Option String → List Char
  | some text => '"' :: text.toList.flatMap escape ++ ['"']
  | none => ['"', '\\', 'u', 'd', '8', '0', '0', '"']

mutual

/-- A value. -/
def render : Json → List Char
  | null => ['n', 'u', 'l', 'l']
  | bool true => ['t', 'r', 'u', 'e']
  | bool false => ['f', 'a', 'l', 's', 'e']
  | number n => n.render
  | string text => renderString text
  | array items => '[' :: renderItems items ++ [']']
  | object members => '{' :: renderMembers members ++ ['}']

/-- Values with commas between them. -/
def renderItems : List Json → List Char
  | [] => []
  | [j] => render j
  | j :: rest => render j ++ ',' :: renderItems rest

/-- Members with commas between them. -/
def renderMembers : List (Option String × Json) → List Char
  | [] => []
  | [(key, j)] => renderString key ++ ':' :: render j
  | (key, j) :: rest => renderString key ++ ':' :: render j ++ ',' :: renderMembers rest

end

/-- The compact text of a value. -/
def toText (j : Json) : String := String.ofList j.render

end Json

end SpriteStage
