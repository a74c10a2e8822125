/-
JSON values.

A value keeps what a reader may still need after the syntax has been checked. Numerals stay as they
were written. A string is the text that it denotes, or nothing if an escaped surrogate in it has no
partner: such a string is well formed, and it may stand where nobody asks for its text. The members
of an object keep their order and their repetitions.

Whether a value can be decoded at all is `Json.isSound`: every string denotes a text, every number
is finite, and containers are not nested deeper than a given room allows.
-/
import SpriteStage.Json.Numeral

set_option autoImplicit false

namespace SpriteStage

/-- A JSON value. -/
inductive Json where
  /-- The value `null`. -/
  | null
  /-- A truth value. -/
  | bool (b : Bool)
  /-- A number. -/
  | number (n : Numeral)
  /-- A string, with its text if it denotes one. -/
  | string (text : Option String)
  /-- An array. -/
  | array (items : List Json)
  /-- An object. -/
  | object (members : List (Option String × Json))

namespace Json

instance : Inhabited Json := ⟨null⟩

/-! ## Building values -/

/-- A string with a text. -/
def ofText (s : String) : Json := string (some s)

/-- A number written as a plain integer. -/
def ofInt (n : Int) : Json := number (.ofInt n)

/-- An object with those members. -/
def ofMembers (members : List (String × Json)) : Json :=
  object (members.map fun (key, value) => (some key, value))

/-! ## Taking values apart -/

/-- The text of a string that denotes one. -/
def text? : Json → Option String
  | string text => text
  | _ => none

/-- The integer that is written, if it lies in a range with both ends included. -/
def integerIn? (lo hi : Int) : Json → Option Int
  | number n => n.integer?.filter fun i => lo ≤ i && i ≤ hi
  | _ => none

/-- An unsigned 32-bit word. -/
def word32? (j : Json) : Option UInt32 :=
  (j.integerIn? 0 0xffffffff).map fun i => UInt32.ofNat i.toNat

/-- An unsigned 64-bit word. -/
def word64? (j : Json) : Option UInt64 :=
  (j.integerIn? 0 0xffffffffffffffff).map fun i => UInt64.ofNat i.toNat

/-- A signed 32-bit word. -/
def int32? (j : Json) : Option Int32 :=
  (j.integerIn? (-0x80000000) 0x7fffffff).map Int32.ofInt

/-! ## Decodable values -/

mutual

/-- Whether a value can be decoded with at most `room` containers open at a time. -/
def isSound (room : Nat) : Json → Bool
  | null => true
  | bool _ => true
  | number n => n.isFinite
  | string text => text.isSome
  | array items => 0 < room && areSound (room - 1) items
  | object members => 0 < room && haveSound (room - 1) members

/-- Whether every value of a list can be decoded. -/
def areSound (room : Nat) : List Json → Bool
  | [] => true
  | j :: rest => isSound room j && areSound room rest

/-- Whether every key and value of a list of members can be decoded. -/
def haveSound (room : Nat) : List (Option String × Json) → Bool
  | [] => true
  | (key, j) :: rest => key.isSome && isSound room j && haveSound room rest

end

end Json

end SpriteStage
