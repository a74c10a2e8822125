/-
Numerals and strings, written and read.

What a value of JSON is made of in the end are numerals and strings. Each of them is read back as it
was written, whatever follows: a string ends at its closing quote, and a numeral ends where the text
goes on with a mark that no numeral contains (`Ends`). The parts of a numeral are settled one by
one, each by what it leaves, and a string one character at a time, because every character is
written as one piece that stands for it (`exists_piece`).

The other half of this file is what a reader asks of a plain integer: which integer it is, and that
it is finite if it fits into a word.
-/
import SpriteStage.Json.Printer
import SpriteStage.Json.Token

set_option autoImplicit false

namespace SpriteStage

/-! ## Numerals -/

/-- Numerals that follow the grammar: digits in every place for digits, at least one before the
point and in an exponent, and no zero in front of other digits. -/
structure Numeral.WellFormed (n : Numeral) : Prop where
  whole : ∀ c ∈ n.whole, c.isDigit = true
  start : n.whole = ['0'] ∨ ∃ c cs, n.whole = c :: cs ∧ c ≠ '0'
  fraction : ∀ c ∈ n.fraction, c.isDigit = true
  exponent : ∀ {negative digits}, n.exponent = some (negative, digits) →
    digits ≠ [] ∧ ∀ c ∈ digits, c.isDigit = true

theorem Numeral.WellFormed.exists_whole {n : Numeral} (hn : n.WellFormed) :
    ∃ c cs, n.whole = c :: cs := by
  rcases hn.start with h | ⟨c, cs, h, -⟩
  · exact ⟨_, _, h⟩
  · exact ⟨c, cs, h⟩

namespace Json

/-- Texts that go on after a value with a comma or the end of a container, or not at all. -/
def Ends (rest : List Char) : Prop := ∀ c ∈ rest.head?, c = ',' ∨ c = ']' ∨ c = '}'

theorem ends_nil : Ends [] := nofun

theorem ends_cons {c : Char} (h : c = ',' ∨ c = ']' ∨ c = '}') (rest : List Char) :
    Ends (c :: rest) := by
  rintro _ ⟨⟩
  exact h

/-- Texts that do not go on with a digit. -/
def NoDigit (rest : List Char) : Prop := ∀ c ∈ rest.head?, c.isDigit = false

theorem Ends.noDigit {rest : List Char} (h : Ends rest) : NoDigit rest := by
  intro c hc
  rcases h c hc with rfl | rfl | rfl <;> decide

theorem spanDigits_append {digits rest : List Char} (hdigits : ∀ c ∈ digits, c.isDigit = true)
    (hrest : NoDigit rest) : spanDigits (digits ++ rest) = (digits, rest) := by
  rw [spanDigits, List.takeWhile_append_of_pos hdigits, List.dropWhile_append_of_pos hdigits]
  cases rest with
  | nil => simp
  | cons c cs =>
    have hc := hrest c rfl
    simp [hc]

/-! ### The parts of a numeral -/

theorem scanSign_append (negative : Bool) {cs : List Char} (h : cs.head? ≠ some '-') :
    scanSign ((if negative then ['-'] else []) ++ cs) = (negative, cs) := by
  cases negative with
  | true => rfl
  | false =>
    rw [scanSign.eq_def]
    split
    · next heq => exact absurd (congrArg List.head? heq) h
    · rfl

theorem scanWhole_append {n : Numeral} (hn : n.WellFormed) {rest : List Char}
    (hrest : NoDigit rest) : scanWhole (n.whole ++ rest) = some (n.whole, rest) := by
  rcases hn.start with hzero | ⟨c, cs, hwhole, hc⟩
  · rw [hzero]
    rfl
  · rw [scanWhole.eq_def]
    split
    · next heq =>
      rw [hwhole] at heq
      exact absurd (List.cons.inj heq).1 hc
    · rw [spanDigits_append hn.whole hrest]
      exact if_neg (by simp [hwhole])

theorem scanFraction_append {fraction rest : List Char}
    (hdigits : ∀ c ∈ fraction, c.isDigit = true) (hrest : NoDigit rest)
    (hpoint : rest.head? ≠ some '.') :
    scanFraction ((if fraction = [] then [] else '.' :: fraction) ++ rest) =
      some (fraction, rest) := by
  by_cases hempty : fraction = []
  · rw [if_pos hempty, List.nil_append, scanFraction.eq_def, hempty]
    split
    · exact absurd rfl hpoint
    · rfl
  · rw [if_neg hempty, List.cons_append, scanFraction, spanDigits_append hdigits hrest]
    exact if_neg hempty

theorem scanExponentSign_append (negative : Bool) {cs : List Char} {c : Char}
    (hhead : cs.head? = some c) (hc : c.isDigit = true) :
    scanExponentSign ((if negative then ['-'] else []) ++ cs) = (negative, cs) := by
  cases negative with
  | true => rfl
  | false =>
    rw [scanExponentSign.eq_def]
    split
    · next heq =>
      cases hhead.symm.trans (congrArg List.head? heq)
      cases hc
    · next heq =>
      cases hhead.symm.trans (congrArg List.head? heq)
      cases hc
    · rfl

/-- The text of an exponent. -/
def exponentText : Option (Bool × List Char) → List Char
  | none => []
  | some (negative, digits) => 'e' :: (if negative then ['-'] else []) ++ digits

theorem scanExponent_append {n : Numeral} (hn : n.WellFormed) {rest : List Char}
    (hrest : Ends rest) :
    scanExponent (exponentText n.exponent ++ rest) = some (n.exponent, rest) := by
  cases he : n.exponent with
  | none =>
    cases rest with
    | nil => rfl
    | cons c cs =>
      have hc : ¬ (c = 'e' ∨ c = 'E') := by
        rcases hrest c rfl with rfl | rfl | rfl <;> decide
      exact if_neg hc
  | some exponent =>
    obtain ⟨negative, digits⟩ := exponent
    obtain ⟨hne, hdigits⟩ := hn.exponent he
    obtain ⟨c, cs, rfl⟩ := List.exists_cons_of_ne_nil hne
    have hsign : scanExponentSign ((if negative then ['-'] else []) ++ (c :: cs ++ rest)) =
        (negative, c :: cs ++ rest) :=
      scanExponentSign_append negative rfl (hdigits c List.mem_cons_self)
    rw [exponentText, List.cons_append, List.cons_append, List.append_assoc, scanExponent,
      if_pos (.inl rfl)]
    simp only [hsign, spanDigits_append hdigits hrest.noDigit]
    exact if_neg hne

/-- The parts of a numeral, one after the other. -/
theorem render_append (n : Numeral) (rest : List Char) :
    n.render ++ rest = (if n.negative then ['-'] else []) ++
      (n.whole ++ ((if n.fraction = [] then [] else '.' :: n.fraction) ++
        (exponentText n.exponent ++ rest))) := by
  simp only [Numeral.render, List.append_assoc]
  rcases n.exponent with _ | ⟨negative, digits⟩ <;> rfl

/-- A numeral starts with its sign or with a digit. -/
theorem exists_render {n : Numeral} (hn : n.WellFormed) (rest : List Char) :
    ∃ c cs, n.render ++ rest = c :: cs ∧ (c = '-' ∨ c.isDigit = true) := by
  rw [render_append]
  cases n.negative with
  | true => exact ⟨_, _, rfl, .inl rfl⟩
  | false =>
    obtain ⟨c, cs, hwhole⟩ := hn.exists_whole
    refine ⟨c, _, by rw [hwhole]; rfl, .inr (hn.whole c ?_)⟩
    rw [hwhole]
    exact List.mem_cons_self

/-- **A numeral is read back as it was written.** -/
theorem scanNumeral_render {n : Numeral} (hn : n.WellFormed) {rest : List Char}
    (hrest : Ends rest) : scanNumeral (n.render ++ rest) = some (n, rest) := by
  -- neither a digit nor a point can stand at the start of an exponent, or after it
  have hexponent : NoDigit (exponentText n.exponent ++ rest) ∧
      (exponentText n.exponent ++ rest).head? ≠ some '.' := by
    rcases n.exponent with _ | ⟨negative, digits⟩
    · refine ⟨hrest.noDigit, fun h => ?_⟩
      rcases hrest '.' h with h | h | h <;> cases h
    · exact ⟨by rintro _ ⟨⟩; rfl, nofun⟩
  have hfraction : NoDigit ((if n.fraction = [] then [] else '.' :: n.fraction) ++
      (exponentText n.exponent ++ rest)) := by
    split
    · exact hexponent.1
    · rintro _ ⟨⟩
      rfl
  have hsign : (n.whole ++ ((if n.fraction = [] then [] else '.' :: n.fraction) ++
      (exponentText n.exponent ++ rest))).head? ≠ some '-' := by
    obtain ⟨c, cs, hwhole⟩ := hn.exists_whole
    rw [hwhole]
    rintro ⟨⟩
    have hdigit := hn.whole '-' (by simp [hwhole])
    cases hdigit
  have hpart := scanFraction_append hn.fraction hexponent.1 hexponent.2
  simp only [render_append, scanNumeral, scanSign_append n.negative hsign,
    scanWhole_append hn hfraction, Option.bind_eq_bind, Option.bind_some, hpart,
    scanExponent_append hn hrest]
  rfl

end Json

/-! ## Plain integers -/

namespace Numeral

/-- The first digit of a positive number is no zero. -/
theorem exists_toDigits {n : Nat} (hn : 0 < n) :
    ∃ c cs, Nat.toDigits 10 n = c :: cs ∧ c ≠ '0' := by
  induction n using Nat.strongRecOn with
  | ind n ih =>
    by_cases hlt : n < 10
    · have hdigit : ∀ d < 10, 0 < d → Nat.digitChar d ≠ '0' := by decide
      exact ⟨_, [], Nat.toDigits_of_lt_base hlt, hdigit n hlt hn⟩
    · obtain ⟨c, cs, hfront, hc⟩ := ih (n / 10) (by omega) (by omega)
      refine ⟨c, cs ++ [Nat.digitChar (n % 10)], ?_, hc⟩
      rw [Nat.toDigits_of_base_le (by decide) (Nat.not_lt.mp hlt), hfront, List.cons_append]

theorem wellFormed_ofInt (n : Int) : (ofInt n).WellFormed where
  whole := fun _ hc => Nat.isDigit_of_mem_toDigits (by decide) (by decide) hc
  start := by
    rcases Nat.eq_zero_or_pos n.natAbs with hzero | hpos
    · exact .inl (by rw [ofInt, hzero]; rfl)
    · exact .inr (exists_toDigits hpos)
  fraction := nofun
  exponent := nofun

/-- A plain integer is read as that integer. -/
theorem integer?_ofInt (n : Int) : (ofInt n).integer? = some n := by
  simp only [ofInt, integer?, Nat.ofDigitChars_ten_toDigits, and_self, if_true]
  by_cases hneg : n < 0
  · have hpos : n.natAbs ≠ 0 := by omega
    simp only [hneg, decide_true, Bool.not_true, Bool.false_eq_true, if_false, hpos]
    congr 1
    omega
  · simp only [hneg, decide_false, Bool.not_false, if_true]
    congr 1
    omega

/-! ### Finite numerals -/

theorem le_ofDigitChars (cs : List Char) (n : Nat) : n ≤ Nat.ofDigitChars 10 cs n := by
  induction cs generalizing n with
  | nil => exact Nat.le_refl n
  | cons c cs ih =>
    rw [Nat.ofDigitChars_cons]
    exact Nat.le_trans (by omega) (ih _)

/-- Digits that fit into a word are gathered in full. -/
theorem gather_of_lt {cs : List Char} {n : Nat} (h : Nat.ofDigitChars 10 cs n < UInt64.size)
    (shift : Int) : gather 0 1 ⟨n, shift⟩ cs = ⟨Nat.ofDigitChars 10 cs n, shift⟩ := by
  induction cs generalizing n with
  | nil => rfl
  | cons c cs ih =>
    rw [Nat.ofDigitChars_cons] at h ⊢
    have hnext : 10 * n + (c.toNat - '0'.toNat) < UInt64.size :=
      Nat.lt_of_le_of_lt (le_ofDigitChars cs _) h
    rw [gather]
    simp only [Int.add_zero]
    rw [if_pos hnext]
    exact ih h

/-- Rounding to the bits of a significand does not take a number beyond its double. -/
theorem round53_le (n : Nat) : round53 n ≤ 2 * n := by
  unfold round53
  split
  · omega
  · next hge =>
    have hpos : n ≠ 0 := by
      rintro rfl
      exact hge (by decide)
    have hunit : Nat.pow 2 (n.log2 - 52) ≤ n :=
      Nat.le_trans (Nat.pow_le_pow_right (by decide) (Nat.sub_le _ _)) (Nat.log2_self_le hpos)
    have hquotient : n / Nat.pow 2 (n.log2 - 52) * Nat.pow 2 (n.log2 - 52) ≤ n :=
      Nat.div_mul_le_self n _
    simp only
    split
    · rw [Nat.add_mul, Nat.one_mul]
      omega
    · omega

/-- An integer whose magnitude fits into a word of 64 bits is finite. -/
theorem isFinite_ofInt {n : Int} (h : n.natAbs < UInt64.size) : (ofInt n).isFinite = true := by
  have hgathered : (ofInt n).gathered = ⟨n.natAbs, 0⟩ := by
    have hword : Nat.ofDigitChars 10 (Nat.toDigits 10 n.natAbs) 0 = n.natAbs :=
      Nat.ofDigitChars_ten_toDigits
    have hwhole : gather 0 1 ⟨0, 0⟩ (Nat.toDigits 10 n.natAbs) = ⟨n.natAbs, 0⟩ := by
      rw [gather_of_lt (by rwa [hword]), hword]
    simp only [gathered, ofInt, hwhole]
    rfl
  have hbound : 2 * UInt64.size < overflowBound := by decide +kernel
  have hround := round53_le n.natAbs
  have hone : round53 (Nat.pow 10 (Int.toNat 0)) = 1 := by decide
  simp only [isFinite, hgathered, hone, Nat.mul_one, Bool.or_eq_true, Bool.and_eq_true,
    decide_eq_true_iff]
  exact .inr ⟨by decide, by omega⟩

end Numeral

/-! ## Strings -/

namespace Json

/-- A control character is written with four digits that have its number as their value. -/
theorem value?_hex : ∀ n < 0x20, Digits.value? 16 (Digits.hex Nat.digitChar 4 n) = some n := by
  decide

theorem joinPieces_unit {u : Nat} (hu : u < 0x20) (done : List Char) (ps : List Piece) :
    joinPieces done (.unit u :: ps) = joinPieces (Char.ofNat u :: done) ps := by
  have hhigh : isHighSurrogate u = false := by
    simp only [isHighSurrogate, Bool.and_eq_false_iff, decide_eq_false_iff_not]
    omega
  have hlow : isLowSurrogate u = false := by
    simp only [isLowSurrogate, Bool.and_eq_false_iff, decide_eq_false_iff_not]
    omega
  rcases ps with _ | ⟨_ | v, ps⟩ <;> simp [joinPieces, hhigh, hlow]

/-- A character is written with a short escape, or with the digits of its number, or as itself. -/
theorem escape_cases (c : Char) :
    (∃ e, e ≠ 'u' ∧ shortEscape? e = some c ∧ escape c = ['\\', e]) ∨
      (c.toNat < 0x20 ∧ escape c = '\\' :: 'u' :: Digits.hex Nat.digitChar 4 c.toNat) ∨
      (c ≠ '"' ∧ c ≠ '\\' ∧ ¬ c.toNat < 0x20 ∧ escape c = [c]) := by
  unfold escape
  -- the seven characters that have a short escape come first
  iterate 7
    split
    next h => exact .inl ⟨_, by decide, by rw [h]; rfl, rfl⟩
  split
  · next hlow => exact .inr (.inl ⟨hlow, rfl⟩)
  · next hquote hslash _ _ _ _ _ hlow => exact .inr (.inr ⟨hquote, hslash, hlow, rfl⟩)

/-- **One character.** What is written for it is cut as one piece, and the piece stands for it. -/
theorem exists_piece (c : Char) :
    ∃ p, (∀ done rest, scanPieces done (escape c ++ rest) = scanPieces (p :: done) rest) ∧
      ∀ done ps, joinPieces done (p :: ps) = joinPieces (c :: done) ps := by
  rcases escape_cases c with
    ⟨e, hu, hshort, hescape⟩ | ⟨hlow, hescape⟩ | ⟨hquote, hslash, hlow, hescape⟩
  · refine ⟨.char c, fun done rest => ?_, fun done ps => by rw [joinPieces]⟩
    rw [hescape, List.cons_append, List.singleton_append, scanPieces, hshort]
    exact fun _ _ _ _ _ heq => absurd heq hu
  · refine ⟨.unit c.toNat, fun done rest => ?_, fun done ps => ?_⟩
    · have hvalue := value?_hex c.toNat hlow
      obtain ⟨a, b, d, e, hhex⟩ : ∃ a b d e,
          Digits.hex Nat.digitChar 4 c.toNat = [a, b, d, e] := ⟨_, _, _, _, rfl⟩
      rw [hhex] at hvalue
      simp only [hescape, hhex, List.cons_append, List.nil_append, scanPieces, hvalue]
    · rw [joinPieces_unit hlow, Char.ofNat_toNat]
  · refine ⟨.char c, fun done rest => ?_, fun done ps => by rw [joinPieces]⟩
    rw [hescape, List.singleton_append, scanPieces.eq_def]
    split
    · next heq => cases heq
    · next heq => exact absurd (List.cons.inj heq).1 hquote
    · next heq => exact absurd (List.cons.inj heq).1 hslash
    · next heq => exact absurd (List.cons.inj heq).1 hslash
    · next heq =>
      obtain ⟨rfl, rfl⟩ := List.cons.inj heq
      exact if_neg (not_or.mpr ⟨hslash, hlow⟩)

/-- The pieces of a text stand for the text. -/
theorem exists_pieces (cs : List Char) :
    ∃ ps, (∀ done rest, scanPieces done (cs.flatMap escape ++ '"' :: rest) =
        some (done.reverse ++ ps, rest)) ∧
      ∀ done, joinPieces done ps = some (done.reverse ++ cs) := by
  induction cs with
  | nil => exact ⟨[], fun done rest => by simp [scanPieces], fun done => by simp [joinPieces]⟩
  | cons c cs ih =>
    obtain ⟨p, hscan, hjoin⟩ := exists_piece c
    obtain ⟨ps, hscans, hjoins⟩ := ih
    refine ⟨p :: ps, fun done rest => ?_, fun done => ?_⟩
    · rw [List.flatMap_cons, List.append_assoc, hscan, hscans]
      simp
    · rw [hjoin, hjoins]
      simp

/-- **A string is read back as it was written**, whatever follows. -/
theorem exists_renderString (text : Option String) (rest : List Char) :
    ∃ cs, renderString text ++ rest = '"' :: cs ∧ scanString cs = some (text, rest) := by
  cases text with
  | none => exact ⟨_, rfl, by rfl⟩
  | some text =>
    obtain ⟨ps, hscan, hjoin⟩ := exists_pieces text.toList
    refine ⟨text.toList.flatMap escape ++ '"' :: rest, by simp [renderString], ?_⟩
    rw [scanString, hscan, Option.map_some]
    simp [hjoin]

end Json

end SpriteStage
