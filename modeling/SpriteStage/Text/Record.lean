/-
Texts of records, as they are shown for diagnosis: a name, and behind it the fields in braces.
-/

set_option autoImplicit false

namespace SpriteStage.Text

/-- The text of a record with that name and these fields, each with the text of its value. -/
def record (name : String) (fields : List (String × String)) : String :=
  let shown := fields.map fun (field, value) => field ++ ": " ++ value
  if fields.isEmpty then name else name ++ " \x7b " ++ ", ".intercalate shown ++ " \x7d"

end SpriteStage.Text
