/-
Records on the wire.

A record is written as an object and may be read from two forms. As an object its members may come
in any order and strange ones are passed over, but a field must not come twice. As an array it has
the values alone, in the order of declaration.

A tagged record has a member more, the tag, which says what the other fields are. In its array form
the tag is the first item. Before a tagged record is looked into, the whole value must be sound,
strange members included, whereas a plain record leaves strange members unread.
-/
import SpriteStage.Json.Basic

set_option autoImplicit false

namespace SpriteStage.Wire

/-! ## Plain records -/

/-- The values of the members with that key. -/
def valuesOf (key : String) (members : List (Option String × Json)) : List Json :=
  (members.filter fun m => m.1 = some key).map (·.2)

/-- What is to be read of a field that has those values: nothing if there is none, and a field that
comes twice is refused. -/
def single? : List Json → Option (Option Json)
  | [] => some none
  | [j] => some (some j)
  | _ => none

/-- The named fields of an object, in the order of the names. Every key must denote a text. -/
def fieldsOfMembers? (names : List String) (members : List (Option String × Json)) :
    Option (List (Option Json)) :=
  if members.all fun m => m.1.isSome then names.mapM fun name => single? (valuesOf name members)
  else none

/-- The named fields of an array, whose items stand for the first names. -/
def fieldsOfItems? (names : List String) (items : List Json) : Option (List (Option Json)) :=
  if items.length ≤ names.length then
    some (items.map some ++ List.replicate (names.length - items.length) none)
  else none

/-- The named fields of a record, in the order of the names, each with its value if it has one. -/
def fields? (names : List String) : Json → Option (List (Option Json))
  | .object members => fieldsOfMembers? names members
  | .array items => fieldsOfItems? names items
  | _ => none

/-- The named fields of a record that must have all of them. -/
def allFields? (names : List String) (j : Json) : Option (List Json) := do
  (← fields? names j).mapM id

/-- The value of a field that may be absent: if it is there, it must be readable. -/
def orElse? {α : Type} (default : α) (read? : Json → Option α) : Option Json → Option α
  | none => some default
  | some j => read? j

/-! ## Tagged records -/

/-- How many containers a text may have open at a time where all of it is decoded. -/
def depth : Nat := 127

/-- The tag of a tagged record and its fields, with the names of the fields given by the tag. -/
def tagged? (key : String) (names? : String → Option (List String)) (room : Nat) (j : Json) :
    Option (String × List Json) :=
  if j.isSound room then
    match j with
    | .object members =>
      match valuesOf key members with
      | [.string (some tag)] => do
        let names ← names? tag
        return (tag, ← allFields? names j)
      | _ => none
    | .array (.string (some tag) :: items) => do
      let names ← names? tag
      if items.length = names.length then some (tag, items) else none
    | _ => none
  else none

/-- The tag of a variant: its identifier with a small first letter. -/
def camelCase (identifier : String) : String :=
  match identifier.toList with
  | [] => identifier
  | c :: cs => String.ofList (c.toLower :: cs)

/-- A tagged record with those fields. -/
def tagged (key tag : String) (fields : List (String × Json)) : Json :=
  .ofMembers ((key, .ofText tag) :: fields)

end SpriteStage.Wire
