/-
Path texts: names of files with slashes between the parts.

A path is kept as the text that a caller wrote, because error texts show it as it was written. What
is done with it here is done on the text alone: taking it to pieces, putting a name behind it, and
going up through the directories that it lies in.
-/

set_option autoImplicit false

namespace SpriteStage.Path

/-- The pieces of a text between separators. There is one more of them than there are separators,
and any of them may be empty. -/
def pieces (isSeparator : Char → Bool) : List Char → List (List Char)
  | [] => [[]]
  | c :: cs =>
    if isSeparator c then [] :: pieces isSeparator cs
    else
      match pieces isSeparator cs with
      | first :: rest => (c :: first) :: rest
      | [] => [[c]]

theorem pieces_ne_nil (isSeparator : Char → Bool) (cs : List Char) :
    pieces isSeparator cs ≠ [] := by
  cases cs with
  | nil => simp [pieces]
  | cons c cs =>
    rw [pieces]
    split
    · simp
    · split <;> simp

/-- No piece has a separator in it. -/
theorem not_isSeparator_of_mem_pieces {isSeparator : Char → Bool} {cs piece : List Char}
    (h : piece ∈ pieces isSeparator cs) : ∀ c ∈ piece, isSeparator c = false := by
  induction cs generalizing piece with
  | nil =>
    obtain rfl := List.mem_singleton.mp h
    intro c hc
    cases hc
  | cons d cs ih =>
    rw [pieces] at h
    split at h
    · rcases List.mem_cons.mp h with rfl | h
      · intro c hc
        cases hc
      · exact ih h
    · next hd =>
      split at h
      · next first rest heq =>
        rcases List.mem_cons.mp h with rfl | h
        · intro c hc
          rcases List.mem_cons.mp hc with rfl | hc
          · exact Bool.eq_false_iff.mpr hd
          · exact ih (heq ▸ List.mem_cons_self) c hc
        · exact ih (heq ▸ List.mem_cons_of_mem _ h)
      · next heq => exact absurd heq (pieces_ne_nil _ _)

/-- Whether a piece leads anywhere: the empty piece and the dot stay where they are. -/
def isStep (piece : List Char) : Bool := piece ≠ [] && piece ≠ ['.']

/-- The pieces of a path. -/
def parts (path : String) : List (List Char) := pieces (· = '/') path.toList

/-- Whether a path starts at the root. -/
def isAbsolute (path : String) : Bool := path.toList.head? = some '/'

/-- A relative name behind a path, with a slash between them unless the path is empty or ends in
one. -/
def join (path name : String) : String :=
  match path.toList.getLast? with
  | none => name
  | some '/' => path ++ name
  | some _ => path ++ "/" ++ name

/-- What comes before the last slash of a reversed text. -/
def beforeSlash (reversed : List Char) : List Char :=
  (reversed.dropWhile (· ≠ '/')).drop 1

/-- Takes slashes, and dots that stand for themselves, off the end of a reversed text that starts
behind `root`. A dot at the very start of a relative path is kept. -/
def trimEnd (keepDot : Bool) : List Char → List Char
  | '/' :: rest => trimEnd keepDot rest
  | '.' :: '/' :: rest => trimEnd keepDot rest
  | ['.'] => if keepDot then ['.'] else []
  | cs => cs

/-- The directory that the last part of a path lies in: the path up to there, without slashes and
dots at its end. A path without parts has none. -/
def parentOf? : List Char → Option (List Char)
  | [] => none
  | '/' :: rest =>
    match trimEnd false rest.reverse with
    | [] => none
    | reversed => some ('/' :: (trimEnd false (beforeSlash reversed)).reverse)
  | cs =>
    match trimEnd true cs.reverse with
    | [] => none
    | reversed => some (trimEnd true (beforeSlash reversed)).reverse

/-- The directory that the last part of a path lies in. -/
def parent? (path : String) : Option String := (parentOf? path.toList).map String.ofList

example : ["a/b", "a//b/", "x", ".", "./x", "a/.", "a/./b", "/x", "/", "../x", ""].map parent? =
    [some "a", some "a", some "", some "", some ".", some "", some "a", some "/", none, some "..",
      none] := by
  decide +kernel

/-! ## The way up -/

theorem length_trimEnd_le (keepDot : Bool) (cs : List Char) :
    (trimEnd keepDot cs).length ≤ cs.length := by
  fun_induction trimEnd keepDot cs <;> simp_all <;> omega

theorem length_beforeSlash_lt {reversed : List Char} (h : reversed ≠ []) :
    (beforeSlash reversed).length < reversed.length := by
  have hdrop := (reversed.dropWhile_suffix (· ≠ '/')).length_le
  have hpos := List.length_pos_iff.mpr h
  rw [beforeSlash, List.length_drop]
  omega

/-- The directory that a path lies in has a shorter text than the path. -/
theorem length_lt_of_parentOf? {cs up : List Char} (h : parentOf? cs = some up) :
    up.length < cs.length := by
  have climb {keepDot : Bool} {ds : List Char} (hne : trimEnd keepDot ds ≠ []) :
      (trimEnd keepDot (beforeSlash (trimEnd keepDot ds))).length < ds.length :=
    Nat.lt_of_le_of_lt (length_trimEnd_le _ _)
      (Nat.lt_of_lt_of_le (length_beforeSlash_lt hne) (length_trimEnd_le _ _))
  rw [parentOf?.eq_def] at h
  split at h
  · cases h
  · split at h
    · cases h
    · next rest _ hne =>
      obtain rfl := Option.some.inj h
      have hlt := climb hne
      simp only [List.length_cons, List.length_reverse] at hlt ⊢
      omega
  · split at h
    · cases h
    · next hne =>
      obtain rfl := Option.some.inj h
      have hlt := climb hne
      simp only [List.length_reverse] at hlt ⊢
      omega

/-- A path, the directory that it lies in, the directory that this one lies in, and so on. -/
def waysUp (cs : List Char) : List (List Char) :=
  match _h : parentOf? cs with
  | none => [cs]
  | some up => cs :: waysUp up
termination_by cs.length
decreasing_by exact length_lt_of_parentOf? ‹_›

/-- A path and the directories above it, the nearest one first. -/
def ancestors (path : String) : List String := (waysUp path.toList).map String.ofList

example : ["a/b/.", "/x/y", "../x", ""].map ancestors =
    [["a/b/.", "a", ""], ["/x/y", "/x", "/"], ["../x", "..", ""], [""]] := by
  decide +kernel

end SpriteStage.Path
