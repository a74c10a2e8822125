/-
Positional numerals: digits as characters, read and written in a given radix.

Three grammars of the library rest on this file: the override texts of the settings, the numerals
and escapes of JSON, and the printed form of a color. Each of them reads a run of digits, and they
differ only in radix, sign and bound, so the run itself is settled once here.
-/

set_option autoImplicit false

namespace SpriteStage.Digits

/-! ## Reading -/

/-- The value of a digit, with letters of either case standing for ten and up; `none` when the
character is no digit of the radix. -/
def digit? (radix : Nat) (c : Char) : Option Nat :=
  let d :=
    if '0' ≤ c ∧ c ≤ '9' then c.toNat - '0'.toNat
    else if 'a' ≤ c ∧ c ≤ 'z' then c.toNat - 'a'.toNat + 10
    else if 'A' ≤ c ∧ c ≤ 'Z' then c.toNat - 'A'.toNat + 10
    else radix
  if d < radix then some d else none

/-- The value of a run of digits, most significant first. The empty run has the value zero. -/
def valueFrom? (radix : Nat) : Nat → List Char → Option Nat
  | n, [] => some n
  | n, c :: cs =>
    match digit? radix c with
    | some d => valueFrom? radix (radix * n + d) cs
    | none => none

/-- The value of a numeral: one or more digits. -/
def value? (radix : Nat) : List Char → Option Nat
  | [] => none
  | cs => valueFrom? radix 0 cs

/-- An unsigned numeral as a person may type it: an optional plus sign, then one or more digits,
with a value below the bound. Leading zeros count for nothing. -/
def unsigned? (radix bound : Nat) (cs : List Char) : Option Nat :=
  let digits := match cs with
    | '+' :: rest => rest
    | _ => cs
  (value? radix digits).filter (· < bound)

/-! ## Writing -/

/-- The character of a digit below sixteen, letters in upper case. -/
def upper (d : Nat) : Char :=
  (Nat.digitChar d).toUpper

/-- The last `width` digits of a number in base sixteen, each written by `symbol`. -/
def hex (symbol : Nat → Char) : Nat → Nat → List Char
  | 0, _ => []
  | width + 1, n => hex symbol width (n / 16) ++ [symbol (n % 16)]

end SpriteStage.Digits
