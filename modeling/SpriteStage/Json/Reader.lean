/-
Reading JSON values.

The reader is a machine over tokens. Its state says what may come next, and holds the containers
that are open, the innermost first, each with what has been read of it. One token takes one state to
the next or is refused, so reading is a walk over the token list and nests as deep as the text does.
-/
import SpriteStage.Json.Token

set_option autoImplicit false

namespace SpriteStage.Json

/-- An open container. What has been read of it is in reverse order. -/
inductive Container where
  /-- An array, with its items so far. -/
  | array (items : List Json)
  /-- An object, with its members so far and the key whose value is being read. -/
  | object (members : List (Option String × Json)) (key : Option String)

/-- What may come next. -/
inductive Reading where
  /-- A value. -/
  | value (stack : List Container)
  /-- A value or the end of the array that was just opened. -/
  | firstItem (stack : List Container)
  /-- A key or the end of the object that was just opened. -/
  | firstKey (stack : List Container)
  /-- A key, after the members so far. -/
  | key (members : List (Option String × Json)) (stack : List Container)
  /-- The colon after a key. -/
  | colon (members : List (Option String × Json)) (key : Option String) (stack : List Container)
  /-- Whatever may follow a complete value. -/
  | after (j : Json) (stack : List Container)

namespace Reading

/-- Takes a token that starts a value. -/
def begin? (stack : List Container) : Token → Option Reading
  | .scalar j => some (after j stack)
  | .openArray => some (firstItem stack)
  | .openObject => some (firstKey stack)
  | _ => none

/-- Takes a token behind a complete value. -/
def continue? (j : Json) : List Container → Token → Option Reading
  | .array items :: outer, .comma => some (value (.array (j :: items) :: outer))
  | .array items :: outer, .closeArray => some (after (.array (j :: items).reverse) outer)
  | .object members k :: outer, .comma => some (Reading.key ((k, j) :: members) outer)
  | .object members k :: outer, .closeObject =>
    some (after (.object ((k, j) :: members).reverse) outer)
  | _, _ => none

/-- Takes one token. -/
def step? : Reading → Token → Option Reading
  | value stack, t => begin? stack t
  | firstItem stack, .closeArray => some (after (.array []) stack)
  | firstItem stack, t => begin? (.array [] :: stack) t
  | firstKey stack, .closeObject => some (after (.object []) stack)
  | firstKey stack, .scalar (.string k) => some (colon [] k stack)
  | Reading.key members stack, .scalar (.string k) => some (colon members k stack)
  | colon members k stack, .colon => some (value (.object members k :: stack))
  | after j stack, t => continue? j stack t
  | _, _ => none

/-- Takes tokens up to the first that is refused. -/
def run? : Reading → List Token → Option Reading
  | r, [] => some r
  | r, t :: rest =>
    match r.step? t with
    | some r' => r'.run? rest
    | none => none

/-- The value that has been read, if nothing is left open. -/
def result? : Reading → Option Json
  | after j [] => some j
  | _ => none

end Reading

/-- Reads a text that holds one value and nothing else. -/
def parse? (text : String) : Option Json := do
  let tokens ← scan text.toList
  let reading ← (Reading.value []).run? tokens
  reading.result?

end SpriteStage.Json
