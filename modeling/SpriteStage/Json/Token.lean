/-
Tokens of JSON texts: the six punctuation marks, and the values that hold no others.

`Token.scan` reads a text into tokens and refuses whatever is no token: a raw control character in a
string, an escape that does not exist, a numeral with nothing after its point, a word other than the
three that JSON has. White space between tokens is dropped; only space, tab, line feed and carriage
return count as such.

A string is read in two steps. First its pieces are cut, where a piece is a character or a 16-bit
unit from a `\u` escape; then units are joined to characters, two to a character where they are
surrogates.
-/
import SpriteStage.Digits
import SpriteStage.Json.Basic

set_option autoImplicit false

namespace SpriteStage.Json

/-- A token. -/
inductive Token where
  /-- A value without parts. -/
  | scalar (j : Json)
  /-- The mark `[`. -/
  | openArray
  /-- The mark `]`. -/
  | closeArray
  /-- The mark that opens an object. -/
  | openObject
  /-- The mark that closes an object. -/
  | closeObject
  /-- The mark `,`. -/
  | comma
  /-- The mark `:`. -/
  | colon

/-! ## Strings -/

/-- A piece of a string. -/
inductive Piece where
  /-- A character, written as itself or with a short escape. -/
  | char (c : Char)
  /-- A 16-bit unit, written with a `\u` escape. -/
  | unit (u : Nat)
deriving DecidableEq, Repr

/-- The character that a short escape stands for. -/
def shortEscape? : Char → Option Char
  | '"' => some '"'
  | '\\' => some '\\'
  | '/' => some '/'
  | 'b' => some '\x08'
  | 'f' => some '\x0c'
  | 'n' => some '\n'
  | 'r' => some '\r'
  | 't' => some '\t'
  | _ => none

/-- Cuts the pieces of a string up to the closing quote, behind those that are `done` already, the
last one first. What comes after the quote is returned as well. -/
def scanPieces (done : List Piece) : List Char → Option (List Piece × List Char)
  | [] => none
  | '"' :: rest => some (done.reverse, rest)
  | '\\' :: 'u' :: a :: b :: c :: d :: rest =>
    match Digits.value? 16 [a, b, c, d] with
    | some u => scanPieces (.unit u :: done) rest
    | none => none
  | '\\' :: e :: rest =>
    match shortEscape? e with
    | some c => scanPieces (.char c :: done) rest
    | none => none
  | c :: rest =>
    if c = '\\' ∨ c.toNat < 0x20 then none else scanPieces (.char c :: done) rest

/-- Whether a unit is the first half of a character. -/
def isHighSurrogate (u : Nat) : Bool := 0xD800 ≤ u && u < 0xDC00

/-- Whether a unit is the second half of a character. -/
def isLowSurrogate (u : Nat) : Bool := 0xDC00 ≤ u && u < 0xE000

/-- The character of two halves. -/
def joinSurrogates (high low : Nat) : Char :=
  Char.ofNat (0x10000 + (high - 0xD800) * 0x400 + (low - 0xDC00))

/-- The text of pieces behind the characters that are `done` already, the last one first; `none` if
half a character stands alone. -/
def joinPieces (done : List Char) : List Piece → Option (List Char)
  | [] => some done.reverse
  | .char c :: rest => joinPieces (c :: done) rest
  | .unit u :: .unit v :: rest =>
    if isHighSurrogate u then
      if isLowSurrogate v then joinPieces (joinSurrogates u v :: done) rest else none
    else if isLowSurrogate u then none
    else joinPieces (Char.ofNat u :: done) (.unit v :: rest)
  | .unit u :: rest =>
    if isHighSurrogate u || isLowSurrogate u then none else joinPieces (Char.ofNat u :: done) rest

/-- Reads a string behind its opening quote. -/
def scanString (cs : List Char) : Option (Option String × List Char) :=
  (scanPieces [] cs).map fun (pieces, rest) => ((joinPieces [] pieces).map String.ofList, rest)

/-! ## Numerals -/

/-- Splits the leading digits off. -/
def spanDigits (cs : List Char) : List Char × List Char :=
  (cs.takeWhile Char.isDigit, cs.dropWhile Char.isDigit)

/-- Reads the digits before the point: a zero alone, or digits that start with another one. -/
def scanWhole : List Char → Option (List Char × List Char)
  | '0' :: rest => some (['0'], rest)
  | cs =>
    let (digits, rest) := spanDigits cs
    if digits = [] then none else some (digits, rest)

/-- Reads the point and the digits after it, if there is a point. -/
def scanFraction : List Char → Option (List Char × List Char)
  | '.' :: cs =>
    let (digits, rest) := spanDigits cs
    if digits = [] then none else some (digits, rest)
  | cs => some ([], cs)

/-- Reads the sign of an exponent, if there is one. -/
def scanExponentSign : List Char → Bool × List Char
  | '-' :: rest => (true, rest)
  | '+' :: rest => (false, rest)
  | cs => (false, cs)

/-- Reads the exponent, if there is one. -/
def scanExponent : List Char → Option (Option (Bool × List Char) × List Char)
  | [] => some (none, [])
  | c :: cs =>
    if c = 'e' ∨ c = 'E' then
      let (negative, cs) := scanExponentSign cs
      let (digits, rest) := spanDigits cs
      if digits = [] then none else some (some (negative, digits), rest)
    else some (none, c :: cs)

/-- Reads the sign of a numeral, if there is one. -/
def scanSign : List Char → Bool × List Char
  | '-' :: rest => (true, rest)
  | cs => (false, cs)

/-- Reads a numeral. -/
def scanNumeral (cs : List Char) : Option (Numeral × List Char) := do
  let (negative, cs) := scanSign cs
  let (whole, cs) ← scanWhole cs
  let (fraction, cs) ← scanFraction cs
  let (exponent, rest) ← scanExponent cs
  return (⟨negative, whole, fraction, exponent⟩, rest)

/-! ## Every token takes something off the text -/

theorem length_scanPieces_lt {done pieces : List Piece} {cs rest : List Char}
    (h : scanPieces done cs = some (pieces, rest)) : rest.length < cs.length := by
  fun_induction scanPieces done cs <;> simp_all <;> omega

theorem length_scanString_lt {cs rest : List Char} {text : Option String}
    (h : scanString cs = some (text, rest)) : rest.length < cs.length := by
  obtain ⟨⟨pieces, rest'⟩, hp, heq⟩ := Option.map_eq_some_iff.mp h
  obtain ⟨-, rfl⟩ := Prod.mk.inj heq
  exact length_scanPieces_lt hp

theorem length_spanDigits_le (cs : List Char) : (spanDigits cs).2.length ≤ cs.length :=
  (List.dropWhile_sublist _).length_le

theorem length_spanDigits_lt {cs : List Char} (h : (spanDigits cs).1 ≠ []) :
    (spanDigits cs).2.length < cs.length := by
  cases cs with
  | nil => exact absurd rfl h
  | cons c rest =>
    by_cases hc : c.isDigit = true
    · have := length_spanDigits_le rest
      simp only [spanDigits] at this
      simp only [spanDigits, List.dropWhile_cons_of_pos hc, List.length_cons]
      omega
    · exact absurd (by simp [spanDigits, hc]) h

theorem length_scanWhole_lt {cs digits rest : List Char} (h : scanWhole cs = some (digits, rest)) :
    rest.length < cs.length := by
  rw [scanWhole.eq_def] at h
  split at h
  · cases h; simp
  · next cs _ =>
    simp only at h
    split at h
    · cases h
    · next hne => cases h; exact length_spanDigits_lt hne

theorem length_scanFraction_le {cs digits rest : List Char}
    (h : scanFraction cs = some (digits, rest)) : rest.length ≤ cs.length := by
  rw [scanFraction.eq_def] at h
  split at h
  · next cs =>
    simp only at h
    split at h
    · cases h
    · cases h
      have := length_spanDigits_le cs
      simp only [List.length_cons]
      omega
  · cases h; exact Nat.le_refl _

theorem length_scanExponentSign_le (cs : List Char) :
    (scanExponentSign cs).2.length ≤ cs.length := by
  rw [scanExponentSign.eq_def]
  split <;> simp

theorem length_scanExponent_le {cs rest : List Char} {e : Option (Bool × List Char)}
    (h : scanExponent cs = some (e, rest)) : rest.length ≤ cs.length := by
  rw [scanExponent.eq_def] at h
  split at h
  · cases h; exact Nat.le_refl _
  · next c cs =>
    split at h
    · simp only at h
      split at h
      · cases h
      · cases h
        have h₁ := length_spanDigits_le (scanExponentSign cs).2
        have h₂ := length_scanExponentSign_le cs
        simp only [List.length_cons]
        omega
    · cases h; exact Nat.le_refl _

theorem length_scanSign_le (cs : List Char) : (scanSign cs).2.length ≤ cs.length := by
  rw [scanSign.eq_def]
  split <;> simp

theorem length_scanNumeral_lt {cs rest : List Char} {n : Numeral}
    (h : scanNumeral cs = some (n, rest)) : rest.length < cs.length := by
  simp only [scanNumeral, Option.bind_eq_bind, Option.bind_eq_some_iff, Prod.exists,
    Option.pure_def, Option.some.injEq, Prod.mk.injEq] at h
  obtain ⟨_, cs₁, h₁, _, cs₂, h₂, _, cs₃, h₃, -, rfl⟩ := h
  have := length_scanSign_le cs
  have := length_scanWhole_lt h₁
  have := length_scanFraction_le h₂
  have := length_scanExponent_le h₃
  omega

/-! ## Texts -/

/-- Whether a character may stand between tokens. -/
def isSpace (c : Char) : Bool := c = ' ' || c = '\t' || c = '\n' || c = '\r'

/-- Reads a text into tokens behind those that are `done` already, the last one first. -/
def scanTokens (done : List Token) (cs : List Char) : Option (List Token) :=
  match cs with
  | [] => some done.reverse
  | '[' :: rest => scanTokens (.openArray :: done) rest
  | ']' :: rest => scanTokens (.closeArray :: done) rest
  | '{' :: rest => scanTokens (.openObject :: done) rest
  | '}' :: rest => scanTokens (.closeObject :: done) rest
  | ',' :: rest => scanTokens (.comma :: done) rest
  | ':' :: rest => scanTokens (.colon :: done) rest
  | 'n' :: 'u' :: 'l' :: 'l' :: rest => scanTokens (.scalar .null :: done) rest
  | 't' :: 'r' :: 'u' :: 'e' :: rest => scanTokens (.scalar (.bool true) :: done) rest
  | 'f' :: 'a' :: 'l' :: 's' :: 'e' :: rest => scanTokens (.scalar (.bool false) :: done) rest
  | '"' :: rest =>
    match _h : scanString rest with
    | some (text, rest') => scanTokens (.scalar (.string text) :: done) rest'
    | none => none
  | c :: rest =>
    if isSpace c then scanTokens done rest
    else
      match _h : scanNumeral (c :: rest) with
      | some (n, rest') => scanTokens (.scalar (.number n) :: done) rest'
      | none => none
termination_by cs.length
decreasing_by
  all_goals simp only [List.length_cons]
  any_goals omega
  · have hlt := length_scanString_lt _h
    omega
  · have hlt := length_scanNumeral_lt _h
    simp only [List.length_cons] at hlt
    omega

/-- Reads a text into tokens. -/
def scan (cs : List Char) : Option (List Token) := scanTokens [] cs

end SpriteStage.Json
