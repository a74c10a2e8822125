/-
Override texts and what they set.

Each of the three variables has a grammar, said here without the readers: which texts there are, and
which number each of them means. All of them come down to digits in some radix
(`Digits.Spells`), with a sign in front of them that may be left out (`Digits.Unsigned`); a color may
also have a mark of a hexadecimal word, underscores, and white space around it (`Settings.NamesColor`).

A reader answers a number exactly if the text means that number. Then the field of a variable is
settled by one argument, whatever its grammar (`Settings.overridden_of_reader`): it is the number that
the text of its variable means, if it means one, and otherwise what it was.
-/
import Mathlib.Data.List.Forall2
import Mathlib.Data.List.TakeWhile
import Mathlib.Data.Nat.Digits.Defs
import Mathlib.Tactic.Ring
import SpriteStage.Settings

set_option autoImplicit false

namespace SpriteStage

/-! ## Numerals -/

namespace Digits

/-- Whether a character stands for a digit of a radix, as a letter in either case from ten on. -/
def IsDigit (radix : Nat) (c : Char) (d : Nat) : Prop :=
  d < radix ∧ (c = Nat.digitChar d ∨ c = (Nat.digitChar d).toUpper)

/-- Whether characters are the digits of a number, the most significant one first. There may be
zeros in front, and none at all are the digits of zero. -/
def Spells (radix : Nat) (cs : List Char) (n : Nat) : Prop :=
  ∃ ds, List.Forall₂ (IsDigit radix) cs ds ∧ n = Nat.ofDigits radix ds.reverse

/-- Whether a text is a number with at least one digit, and with a plus sign in front or none. -/
def Unsigned (radix : Nat) (cs : List Char) (n : Nat) : Prop :=
  ∃ digits, (cs = digits ∨ cs = '+' :: digits) ∧ digits ≠ [] ∧ Spells radix digits n

theorem digit?_eq_some_iff {radix : Nat} (hradix : radix ≤ 16) (c : Char) (d : Nat) :
    digit? radix c = some d ↔ IsDigit radix c d := by
  have hdecimal : ∀ d < 10, Char.ofNat ('0'.toNat + d) = Nat.digitChar d := by decide
  have hlower : ∀ d < 6, Char.ofNat ('a'.toNat + d) = Nat.digitChar (d + 10) := by decide
  have hupper : ∀ d < 6, Char.ofNat ('A'.toNat + d) = (Nat.digitChar (d + 10)).toUpper := by decide
  have hback : ∀ radix < 17, ∀ d < radix, digit? radix (Nat.digitChar d) = some d ∧
      digit? radix (Nat.digitChar d).toUpper = some d := by decide +kernel
  have hle (a b : Char) : a ≤ b ↔ a.toNat ≤ b.toNat := UInt32.le_iff_toNat_le
  have hnine : '9'.toNat = '0'.toNat + 9 := rfl
  have hz : 'z'.toNat = 'a'.toNat + 25 := rfl
  have hZ : 'Z'.toNat = 'A'.toNat + 25 := rfl
  constructor
  · intro h
    -- in each of its ranges a character is the one with the number that the digit was read from
    by_cases hc : '0' ≤ c ∧ c ≤ '9'
    · simp only [digit?, if_pos hc, Option.ite_none_right_eq_some, Option.some.injEq] at h
      obtain ⟨hlt, rfl⟩ := h
      rw [hle, hle] at hc
      refine ⟨hlt, .inl ?_⟩
      rw [← hdecimal _ (by omega), Nat.add_sub_of_le hc.1, Char.ofNat_toNat]
    simp only [digit?, if_neg hc] at h
    by_cases hc : 'a' ≤ c ∧ c ≤ 'z'
    · simp only [if_pos hc, Option.ite_none_right_eq_some, Option.some.injEq] at h
      obtain ⟨hlt, rfl⟩ := h
      rw [hle, hle] at hc
      refine ⟨hlt, .inl ?_⟩
      rw [← hlower _ (by omega), Nat.add_sub_of_le hc.1, Char.ofNat_toNat]
    simp only [if_neg hc] at h
    by_cases hc : 'A' ≤ c ∧ c ≤ 'Z'
    · simp only [if_pos hc, Option.ite_none_right_eq_some, Option.some.injEq] at h
      obtain ⟨hlt, rfl⟩ := h
      rw [hle, hle] at hc
      refine ⟨hlt, .inr ?_⟩
      rw [← hupper _ (by omega), Nat.add_sub_of_le hc.1, Char.ofNat_toNat]
    · simp only [if_neg hc, if_neg (Nat.lt_irrefl radix)] at h
      cases h
  · rintro ⟨hd, rfl | rfl⟩
    · exact (hback radix (by omega) d hd).1
    · exact (hback radix (by omega) d hd).2

theorem valueFrom?_eq_some_iff {radix : Nat} (hradix : radix ≤ 16) (cs : List Char) (n m : Nat) :
    valueFrom? radix n cs = some m ↔
      ∃ ds, List.Forall₂ (IsDigit radix) cs ds ∧
        m = radix ^ ds.length * n + Nat.ofDigits radix ds.reverse := by
  induction cs generalizing n with
  | nil =>
    rw [valueFrom?]
    constructor
    · rintro ⟨⟩
      exact ⟨[], .nil, by simp⟩
    · rintro ⟨_, ⟨⟩, rfl⟩
      simp
  | cons c cs ih =>
    -- a digit in front counts as often as its place says
    have hfront (d : Nat) (ds : List Nat) :
        radix ^ (d :: ds).length * n + Nat.ofDigits radix (d :: ds).reverse =
          radix ^ ds.length * (radix * n + d) + Nat.ofDigits radix ds.reverse := by
      rw [List.length_cons, List.reverse_cons, Nat.ofDigits_append, List.length_reverse,
        Nat.ofDigits_singleton]
      ring
    rw [valueFrom?]
    constructor
    · intro h
      cases hd : digit? radix c with
      | none =>
        rw [hd] at h
        cases h
      | some d =>
        rw [hd] at h
        obtain ⟨ds, hds, rfl⟩ := (ih (radix * n + d)).mp h
        exact ⟨d :: ds, .cons ((digit?_eq_some_iff hradix c d).mp hd) hds, (hfront d ds).symm⟩
    · rintro ⟨_, hall, rfl⟩
      cases hall with
      | @cons _ d _ ds hd hds =>
        rw [(digit?_eq_some_iff hradix c d).mpr hd]
        exact (ih (radix * n + d)).mpr ⟨ds, hds, hfront d ds⟩

theorem value?_eq_some_iff {radix : Nat} (hradix : radix ≤ 16) (cs : List Char) (n : Nat) :
    value? radix cs = some n ↔ cs ≠ [] ∧ Spells radix cs n := by
  cases cs with
  | nil => exact ⟨nofun, fun h => absurd rfl h.1⟩
  | cons c cs =>
    simp only [value?, valueFrom?_eq_some_iff hradix, Spells, Nat.mul_zero, Nat.zero_add, ne_eq,
      reduceCtorEq, not_false_eq_true, true_and]

/-- No digit is a sign, an underscore or white space. -/
theorem IsDigit.plain {radix : Nat} (hradix : radix ≤ 16) {c : Char} {d : Nat}
    (h : IsDigit radix c d) : c ≠ '+' ∧ c ≠ '_' ∧ Text.isBlank c = false := by
  have hlower : ∀ d < 16, Nat.digitChar d ≠ '+' ∧ Nat.digitChar d ≠ '_' ∧
      Text.isBlank (Nat.digitChar d) = false := by decide
  have hupper : ∀ d < 16, (Nat.digitChar d).toUpper ≠ '+' ∧ (Nat.digitChar d).toUpper ≠ '_' ∧
      Text.isBlank (Nat.digitChar d).toUpper = false := by decide
  obtain ⟨hd, rfl | rfl⟩ := h
  · exact hlower d (by omega)
  · exact hupper d (by omega)

theorem Spells.plain {radix : Nat} (hradix : radix ≤ 16) {cs : List Char} {n : Nat}
    (h : Spells radix cs n) : ∀ c ∈ cs, c ≠ '+' ∧ c ≠ '_' ∧ Text.isBlank c = false := by
  obtain ⟨ds, hall, -⟩ := h
  induction hall with
  | nil => nofun
  | cons hd _ ih => exact List.forall_mem_cons.mpr ⟨hd.plain hradix, ih⟩

/-- A reader of numbers answers the number that the text is, unless it is too large. -/
theorem unsigned?_eq_some_iff {radix : Nat} (hradix : radix ≤ 16) (bound : Nat) (cs : List Char)
    (n : Nat) : unsigned? radix bound cs = some n ↔ Unsigned radix cs n ∧ n < bound := by
  unfold unsigned?
  rw [Option.filter_eq_some_iff, decide_eq_true_iff, value?_eq_some_iff hradix]
  refine and_congr_left fun _ => ?_
  unfold Unsigned
  split
  · next rest =>
    constructor
    · exact fun h => ⟨rest, .inr rfl, h⟩
    · rintro ⟨digits, rfl | heq, hne, hdigits⟩
      · -- the sign itself is no digit
        exact absurd rfl (hdigits.plain hradix '+' List.mem_cons_self).1
      · obtain rfl := (List.cons.inj heq).2
        exact ⟨hne, hdigits⟩
  · next hsign =>
    constructor
    · exact fun h => ⟨cs, .inl rfl, h⟩
    · rintro ⟨digits, rfl | rfl, h⟩
      · exact h
      · exact absurd rfl (hsign digits)

/-- A number that fits is spelled by its last digits in base sixteen. -/
theorem spells_hex {symbol : Nat → Char} (hsymbol : ∀ d < 16, IsDigit 16 (symbol d) d)
    (width n : Nat) : Spells 16 (hex symbol width n) (n % 16 ^ width) := by
  induction width generalizing n with
  | zero => exact ⟨[], .nil, by simp [Nat.mod_one]⟩
  | succ width ih =>
    obtain ⟨ds, hds, hvalue⟩ := ih (n / 16)
    have hlast := hsymbol (n % 16) (Nat.mod_lt n (by omega))
    refine ⟨ds ++ [n % 16], List.rel_append hds (.cons hlast .nil), ?_⟩
    rw [List.reverse_append, List.reverse_singleton, List.singleton_append, Nat.ofDigits_cons,
      ← hvalue, Nat.pow_succ', Nat.mod_mul]

end Digits

/-! ## White space -/

namespace Text

/-- Whether a text is a core with white space around it, where the core neither starts nor ends with
white space. -/
structure Trims (cs core : List Char) : Prop where
  around : ∃ left right, cs = left ++ core ++ right ∧ (∀ c ∈ left, isBlank c = true) ∧
    ∀ c ∈ right, isBlank c = true
  start : ∀ c, core.head? = some c → isBlank c = false
  finish : ∀ c, core.getLast? = some c → isBlank c = false

/-- Nothing is taken off a text that does not start with white space. -/
theorem dropWhile_of_start {core : List Char} (h : ∀ c, core.head? = some c → isBlank c = false) :
    core.dropWhile isBlank = core := by
  cases core with
  | nil => rfl
  | cons c cs => exact List.dropWhile_cons_of_neg (Bool.eq_false_iff.mp (h c rfl))

theorem start_of_dropWhile (cs : List Char) :
    ∀ c, (cs.dropWhile isBlank).head? = some c → isBlank c = false := by
  intro c hc
  have h := List.head?_dropWhile_not isBlank cs
  rw [hc] at h
  exact h

/-- The trimmed text is the one core of a text. -/
theorem trim_eq_iff (cs core : List Char) : trim cs = core ↔ Trims cs core := by
  constructor
  · rintro rfl
    unfold trim
    have hrest := start_of_dropWhile cs
    generalize hdropped : cs.dropWhile isBlank = rest at hrest ⊢
    have hcs : cs = cs.takeWhile isBlank ++ rest := by
      rw [← hdropped, List.takeWhile_append_dropWhile]
    have hsplit : rest = (rest.reverse.dropWhile isBlank).reverse ++
        (rest.reverse.takeWhile isBlank).reverse := by
      rw [← List.reverse_append, List.takeWhile_append_dropWhile, List.reverse_reverse]
    refine ⟨⟨cs.takeWhile isBlank, (rest.reverse.takeWhile isBlank).reverse, ?_, ?_, ?_⟩, ?_, ?_⟩
    · rw [List.append_assoc, ← hsplit, ← hcs]
    · exact fun c hc => List.mem_takeWhile_imp hc
    · exact fun c hc => List.mem_takeWhile_imp (List.mem_reverse.mp hc)
    · -- the core starts as the rest does, for it is the first part of it
      intro c hc
      apply hrest c
      rw [hsplit, List.head?_append, hc, Option.some_or]
    · intro c hc
      rw [List.getLast?_reverse] at hc
      exact start_of_dropWhile _ c hc
  · rintro ⟨⟨left, right, rfl, hleft, hright⟩, hstart, hfinish⟩
    rw [trim, List.append_assoc, List.dropWhile_append_of_pos hleft]
    by_cases hempty : core = []
    · have hnothing : right.dropWhile isBlank = [] := List.dropWhile_eq_nil_iff.mpr hright
      rw [hempty, List.nil_append, hnothing]
      rfl
    · have hfront : ∀ c, (core ++ right).head? = some c → isBlank c = false := by
        rwa [List.head?_append_of_ne_nil core hempty]
      have hback : ∀ c, core.reverse.head? = some c → isBlank c = false := by
        rwa [List.head?_reverse]
      rw [dropWhile_of_start hfront, List.reverse_append,
        List.dropWhile_append_of_pos fun c hc => hright c (List.mem_reverse.mp hc),
        dropWhile_of_start hback, List.reverse_reverse]

/-- A text without white space is its own core. -/
theorem Trims.refl {cs : List Char} (h : ∀ c ∈ cs, isBlank c = false) : Trims cs cs where
  around := ⟨[], [], by rw [List.nil_append, List.append_nil], nofun, nofun⟩
  start := fun c hc => h c (List.mem_of_head? hc)
  finish := fun c hc => h c (List.mem_of_getLast? hc)

end Text

/-! ## Grammars of the variables -/

namespace Settings

/-- The marks in front of a hexadecimal word. -/
def marks : List (List Char) := [['0', 'x'], ['0', 'X'], ['#']]

/-- The texts that name a color, with its word. White space around them does not count. Behind a
mark they are hexadecimal, and underscores do not count; without a mark they are decimal. -/
inductive NamesColor (text : String) (n : Nat) : Prop where
  | hexadecimal {mark body : List Char} (trims : Text.Trims text.toList (mark ++ body))
      (marked : mark ∈ marks) (word : Digits.Unsigned 16 (body.filter (· != '_')) n)
      (fits : n < 2 ^ 32)
  | decimal {core : List Char} (trims : Text.Trims text.toList core)
      (unmarked : ∀ mark ∈ marks, ¬ mark <+: core) (word : Digits.Unsigned 10 core n)
      (fits : n < 2 ^ 32)

theorem hexBody?_eq_some_iff (cs body : List Char) :
    hexBody? cs = some body ↔ ∃ mark ∈ marks, cs = mark ++ body := by
  constructor
  · intro h
    unfold hexBody? at h
    split at h
    · cases h
      exact ⟨['0', 'x'], by decide, rfl⟩
    · cases h
      exact ⟨['0', 'X'], by decide, rfl⟩
    · cases h
      exact ⟨['#'], by decide, rfl⟩
    · cases h
  · rintro ⟨mark, hmark, rfl⟩
    simp only [marks, List.mem_cons, List.not_mem_nil, or_false] at hmark
    rcases hmark with rfl | rfl | rfl <;> rfl

theorem hexBody?_eq_none_iff (cs : List Char) :
    hexBody? cs = none ↔ ∀ mark ∈ marks, ¬ mark <+: cs := by
  constructor
  · rintro h mark hmark ⟨body, heq⟩
    rw [(hexBody?_eq_some_iff cs body).mpr ⟨mark, hmark, heq.symm⟩] at h
    cases h
  · intro h
    refine Option.eq_none_iff_forall_ne_some.mpr fun body hbody => ?_
    obtain ⟨mark, hmark, heq⟩ := (hexBody?_eq_some_iff cs body).mp hbody
    exact h mark hmark ⟨body, heq.symm⟩

/-! ## Readers -/

/-- A number that fits goes through a word unchanged. -/
theorem map_map_of_fits {α : Type} {bound : Nat} (ofNat : Nat → α) (toNat : α → Nat)
    (hword : ∀ n < bound, toNat (ofNat n) = n) {o : Option Nat} (ho : ∀ n, o = some n → n < bound) :
    (o.map ofNat).map toNat = o := by
  cases o with
  | none => rfl
  | some n => exact congrArg some (hword n (ho n rfl))

theorem color?_reads (text : String) (n : Nat) :
    (color? text).map (·.word.toNat) = some n ↔ NamesColor text n := by
  have hword {o : Option Nat} (ho : ∀ n, o = some n → n < UInt32.size) :
      (o.map fun n => Argb.mk (UInt32.ofNat n)).map (·.word.toNat) = o :=
    map_map_of_fits _ (fun c : Argb => c.word.toNat) (fun n hn => UInt32.toNat_ofNat_of_lt' hn) ho
  have htrim (core : List Char) :
      Text.trim text.toList = core ↔ Text.Trims text.toList core := Text.trim_eq_iff _ core
  unfold color?
  generalize Text.trim text.toList = cs at htrim
  cases hbody : hexBody? cs with
  | some body =>
    obtain ⟨mark, hmark, hcs⟩ := (hexBody?_eq_some_iff cs body).mp hbody
    have hread := Digits.unsigned?_eq_some_iff (Nat.le_refl 16) UInt32.size (body.filter (· != '_'))
    simp only [hbody]
    rw [hword fun n hn => ((hread n).mp hn).2, hread]
    constructor
    · rintro ⟨hnumber, hfits⟩
      exact .hexadecimal ((htrim _).mp hcs) hmark hnumber hfits
    · rintro (⟨htrims, hmark', hnumber, hfits⟩ | ⟨htrims, hunmarked, -, -⟩)
      · have hsame := (hexBody?_eq_some_iff cs _).mpr ⟨_, hmark', (htrim _).mpr htrims⟩
        rw [hbody] at hsame
        obtain rfl := Option.some.inj hsame
        exact ⟨hnumber, hfits⟩
      · rw [← (htrim _).mpr htrims] at hunmarked
        exact absurd ⟨body, hcs.symm⟩ (hunmarked mark hmark)
  | none =>
    have hread := Digits.unsigned?_eq_some_iff (by decide : 10 ≤ 16) UInt32.size cs
    simp only [hbody]
    rw [hword fun n hn => ((hread n).mp hn).2, hread]
    constructor
    · rintro ⟨hnumber, hfits⟩
      exact .decimal ((htrim cs).mp rfl) ((hexBody?_eq_none_iff cs).mp hbody) hnumber hfits
    · rintro (⟨htrims, hmark, -, -⟩ | ⟨htrims, -, hnumber, hfits⟩)
      · have hsome := (hexBody?_eq_some_iff cs _).mpr ⟨_, hmark, (htrim _).mpr htrims⟩
        rw [hbody] at hsome
        cases hsome
      · obtain rfl := (htrim _).mpr htrims
        exact ⟨hnumber, hfits⟩

theorem millis?_reads (text : String) (n : Nat) :
    (millis? text).map UInt64.toNat = some n ↔ Digits.Unsigned 10 text.toList n ∧ n < 2 ^ 64 := by
  have hread := Digits.unsigned?_eq_some_iff (by decide : 10 ≤ 16) UInt64.size text.toList
  unfold millis?
  rw [map_map_of_fits UInt64.ofNat UInt64.toNat (fun n hn => UInt64.toNat_ofNat_of_lt' hn)
    fun n hn => ((hread n).mp hn).2, hread]
  rfl

theorem limit?_reads (text : String) (n : Nat) :
    (limit? text).map UInt32.toNat = some n ↔
      Digits.Unsigned 10 text.toList n ∧ 1 ≤ n ∧ n < 2 ^ 32 := by
  have hread := Digits.unsigned?_eq_some_iff (by decide : 10 ≤ 16) UInt32.size text.toList
  unfold limit?
  rw [map_map_of_fits UInt32.ofNat UInt32.toNat (fun n hn => UInt32.toNat_ofNat_of_lt' hn)
    fun n hn => ((hread n).mp (Option.filter_eq_some_iff.mp hn).1).2, Option.filter_eq_some_iff,
    hread, decide_eq_true_iff]
  constructor
  · rintro ⟨⟨hnumber, hfits⟩, hpos⟩
    exact ⟨hnumber, hpos, hfits⟩
  · rintro ⟨hnumber, hpos, hfits⟩
    exact ⟨⟨hnumber, hfits⟩, hpos⟩

/-! ## Fields -/

/-- Whether the number of a field comes from a variable: it is the one that the text of the variable
means, and the one from before if the variable is not set or its text means none. -/
structure Overridden (text? : Option String) (Means : String → Nat → Prop) (old new : Nat) :
    Prop where
  replaced : ∀ text n, text? = some text → Means text n → new = n
  kept : (∀ text n, text? = some text → ¬ Means text n) → new = old

/-- A field that is set by a reader is overridden according to the grammar of the reader. -/
theorem overridden_of_reader {α : Type} {read : String → Option α} {toNat : α → Nat}
    {Means : String → Nat → Prop}
    (hread : ∀ text n, (read text).map toNat = some n ↔ Means text n) (text? : Option String)
    (old : α) : Overridden text? Means (toNat old) (toNat ((text?.bind read).getD old)) where
  replaced := by
    rintro text n rfl hmeans
    obtain ⟨a, ha, rfl⟩ := Option.map_eq_some_iff.mp ((hread text n).mpr hmeans)
    rw [Option.bind_some, ha, Option.getD_some]
  kept := by
    intro hnone
    cases text? with
    | none => rfl
    | some text =>
      cases hr : read text with
      | none => rw [Option.bind_some, hr, Option.getD_none]
      | some a =>
        have hmeans : Means text (toNat a) := by
          rw [← hread, hr, Option.map_some]
        exact absurd hmeans (hnone text _ rfl)

/-- The printed form of a color names the color. -/
theorem namesColor_text (c : Argb) : NamesColor c.text c.word.toNat := by
  have hfits : c.word.toNat < 16 ^ 8 := c.word.toNat_lt
  have hdigit : ∀ d < 16, Digits.IsDigit 16 (Digits.upper d) d := fun d hd => ⟨hd, .inr rfl⟩
  have hspells := Digits.spells_hex hdigit 8 c.word.toNat
  rw [Nat.mod_eq_of_lt hfits] at hspells
  have hplain := hspells.plain (Nat.le_refl 16)
  have htext : c.text.toList = ['#'] ++ Digits.hex Digits.upper 8 c.word.toNat :=
    String.toList_ofList
  have htrims : Text.Trims c.text.toList (['#'] ++ Digits.hex Digits.upper 8 c.word.toNat) := by
    rw [htext]
    refine .refl fun ch hch => ?_
    rcases List.mem_cons.mp hch with rfl | hch
    · decide
    · exact (hplain ch hch).2.2
  have hword : (Digits.hex Digits.upper 8 c.word.toNat).filter (· != '_') =
      Digits.hex Digits.upper 8 c.word.toNat :=
    List.filter_eq_self.mpr fun ch hch => bne_iff_ne.mpr (hplain ch hch).2.1
  refine .hexadecimal htrims (by decide) ?_ hfits
  rw [hword]
  exact ⟨_, .inl rfl, List.cons_ne_nil _ _, hspells⟩

theorem validate_eq_ok_iff (s : Settings) : s.validate = .ok () ↔ 1 ≤ s.limit.toNat := by
  have hzero : s.limit = 0 ↔ s.limit.toNat = 0 := UInt32.toNat_inj.symm
  unfold validate
  by_cases h : s.limit = 0
  · rw [if_pos h, hzero.mp h]
    exact ⟨nofun, nofun⟩
  · rw [if_neg h]
    exact ⟨fun _ => Nat.one_le_iff_ne_zero.mpr (mt hzero.mpr h), fun _ => rfl⟩

/-- **Variables set what their texts mean.** Take any settings and any three variables. The
background is the color that the text of its variable names, the floor the number that the text of
its variable is, if it fits into 64 bits, and the limit likewise, if it fits into 32 bits and is not
zero. A variable that is not set, or whose text means nothing, leaves its field as it was, whatever
the others do. So valid settings stay valid, and the printed form of a color sets exactly that
color. -/
theorem overrides_follow_grammar (s : Settings) (env : String → Option String) :
    let s' := s.override env
    Overridden (env clearVariable) NamesColor s.clear.word.toNat s'.clear.word.toNat ∧
    Overridden (env minTickVariable)
      (fun text n => Digits.Unsigned 10 text.toList n ∧ n < 2 ^ 64)
      s.minTickMillis.toNat s'.minTickMillis.toNat ∧
    Overridden (env limitVariable)
      (fun text n => Digits.Unsigned 10 text.toList n ∧ 1 ≤ n ∧ n < 2 ^ 32)
      s.limit.toNat s'.limit.toNat ∧
    (s.validate = .ok () → s'.validate = .ok ()) ∧
    ∀ c : Argb, env clearVariable = some c.text → s'.clear = c := by
  intro s'
  have hclear := overridden_of_reader color?_reads (env clearVariable) s.clear
  have hfloor := overridden_of_reader millis?_reads (env minTickVariable) s.minTickMillis
  have hlimit := overridden_of_reader limit?_reads (env limitVariable) s.limit
  refine ⟨hclear, hfloor, hlimit, fun hvalid => ?_, fun c hc => ?_⟩
  · rw [validate_eq_ok_iff] at hvalid ⊢
    by_cases hmeans : ∃ text n, env limitVariable = some text ∧
        Digits.Unsigned 10 text.toList n ∧ 1 ≤ n ∧ n < 2 ^ 32
    · obtain ⟨text, n, htext, hn⟩ := hmeans
      have hnew := hlimit.replaced text n htext hn
      exact hnew ▸ hn.2.1
    · have hold := hlimit.kept fun text n htext hn => hmeans ⟨text, n, htext, hn⟩
      exact hold ▸ hvalid
  · have hword := hclear.replaced c.text c.word.toNat hc (namesColor_text c)
    exact congrArg Argb.mk (UInt32.toNat_inj.mp hword)

/-- White space and an underscore around a color, a sign and zeros in front of a number of
milliseconds, and a limit of zero. -/
theorem zero_limit_overrides_nothing :
    let env : String → Option String := fun name =>
      if name = clearVariable then some "\u3000 0xFF20_3040\n"
      else if name = minTickVariable then some "+000000000000000000000000033" else some "0"
    let s' := ({} : Settings).override env
    s'.clear.word.toNat = 0xFF203040 ∧ s'.minTickMillis.toNat = 33 ∧ s'.limit.toNat = 4096 ∧
      s'.validate = .ok () := by
  intro env s'
  obtain ⟨hclear, hfloor, hlimit, hvalid, -⟩ := overrides_follow_grammar {} env
  refine ⟨?_, ?_, ?_, hvalid rfl⟩
  · exact hclear.replaced _ _ rfl ((color?_reads _ 0xFF203040).mp (by rfl))
  · exact hfloor.replaced _ _ rfl ((millis?_reads _ 33).mp (by rfl))
  · refine hlimit.kept fun text n htext hmeans => ?_
    obtain rfl : "0" = text := Option.some.inj htext
    have hread := (limit?_reads "0" n).mpr hmeans
    cases hread

end Settings

end SpriteStage
