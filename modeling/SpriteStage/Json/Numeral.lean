/-
Numerals of JSON texts.

A numeral is kept as it was written: its sign, its digits before and after the point, and its
exponent. Two questions are asked of it. One is which integer it is, if it is written as one; `-0`
is not, because a reader of integers has no negative zero. The other is whether it has a place among
the finite binary64 numbers, since a value that is decoded and then ignored must at least be
representable.
-/

set_option autoImplicit false

namespace SpriteStage

/-- A numeral as written. -/
structure Numeral where
  /-- Whether a minus sign comes first. -/
  negative : Bool
  /-- The digits before the point. -/
  whole : List Char
  /-- The digits after the point, none if there is no point. -/
  fraction : List Char
  /-- The exponent if there is one: whether it is negative, and its digits. -/
  exponent : Option (Bool × List Char)
deriving DecidableEq, Repr

namespace Numeral

/-! ## Integers -/

/-- The plain numeral of an integer. -/
def ofInt (n : Int) : Numeral := ⟨decide (n < 0), Nat.toDigits 10 n.natAbs, [], none⟩

/-- The integer that is written, if the numeral has neither point nor exponent and is not `-0`. -/
def integer? (n : Numeral) : Option Int :=
  if n.fraction = [] ∧ n.exponent = none then
    let magnitude := Nat.ofDigitChars 10 n.whole 0
    if !n.negative then some magnitude
    else if magnitude = 0 then none
    else some (-magnitude)
  else none

/-! ## Magnitude

The value is taken in two roundings, as a reader with 64-bit words takes it. The digits are gathered
into one word and those that no longer fit are dropped; the word, rounded to the 53 bits of a
binary64 significand, is then multiplied by the rounded power of ten. -/

/-- The digits gathered so far: the numeral stands for `word * 10 ^ shift`. -/
structure Gathered where
  /-- The significant digits. -/
  word : Nat
  /-- The power of ten that they are to be multiplied by. -/
  shift : Int
deriving DecidableEq, Repr

/-- Gathers digits into a word of 64 bits. From the first digit that does not fit on, every digit
counts `dropped` in the shift; one that fits counts `taken`. -/
def gather (taken dropped : Int) : Gathered → List Char → Gathered
  | g, [] => g
  | g, c :: cs =>
    let next := 10 * g.word + (c.toNat - '0'.toNat)
    if next < UInt64.size then gather taken dropped ⟨next, g.shift + taken⟩ cs
    else ⟨g.word, g.shift + dropped * (cs.length + 1)⟩

/-- All digits of a numeral, gathered, with the exponent added to the shift. -/
def gathered (n : Numeral) : Gathered :=
  let whole := gather 0 1 ⟨0, 0⟩ n.whole
  let both := gather (-1) 0 whole n.fraction
  let exponent : Int := match n.exponent with
    | none => 0
    | some (negative, digits) =>
      let magnitude : Int := Nat.ofDigitChars 10 digits 0
      if negative then -magnitude else magnitude
  { both with shift := both.shift + exponent }

/-- A natural number rounded to 53 significant bits, ties to even. -/
def round53 (n : Nat) : Nat :=
  if n < Nat.pow 2 53 then n
  else
    let unit := Nat.pow 2 (n.log2 - 52)
    let quotient := n / unit
    let rest := n % unit
    if unit < 2 * rest ∨ (unit = 2 * rest ∧ quotient % 2 = 1) then (quotient + 1) * unit
    else quotient * unit

/-- The least magnitude that rounds beyond the largest finite binary64 number. -/
def overflowBound : Nat := Nat.pow 2 1024 - Nat.pow 2 970

/-- Whether the numeral denotes a finite binary64 number. A power of ten above the 308th has no
place there, and a negative one only makes smaller. -/
def isFinite (n : Numeral) : Bool :=
  let g := n.gathered
  g.word = 0 || g.shift < 0 ||
    (g.shift ≤ 308 && round53 g.word * round53 (Nat.pow 10 g.shift.toNat) < overflowBound)

end Numeral

end SpriteStage
