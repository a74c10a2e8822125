/-
White space: the characters with the Unicode property `White_Space`.

There are 25 of them, in ten ranges. The set has not changed since version 6.3 of the standard.
-/

set_option autoImplicit false

namespace SpriteStage.Text

/-- The code points of white space, as ranges with both ends included. -/
def blankRanges : List (Nat × Nat) :=
  [(0x9, 0xD), (0x20, 0x20), (0x85, 0x85), (0xA0, 0xA0), (0x1680, 0x1680), (0x2000, 0x200A),
    (0x2028, 0x2029), (0x202F, 0x202F), (0x205F, 0x205F), (0x3000, 0x3000)]

/-- Whether a character is white space. -/
def isBlank (c : Char) : Bool :=
  blankRanges.any fun (lo, hi) => lo ≤ c.toNat && c.toNat ≤ hi

/-- The text without the white space at either end. -/
def trim (cs : List Char) : List Char :=
  ((cs.dropWhile isBlank).reverse.dropWhile isBlank).reverse

example : (blankRanges.map fun (lo, hi) => hi + 1 - lo).sum = 25 := by decide

end SpriteStage.Text
