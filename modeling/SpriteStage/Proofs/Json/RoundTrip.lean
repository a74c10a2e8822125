/-
JSON texts, written and read.

A value is written as the texts of its tokens, one after the other, and a reader takes the tokens
one by one. So the tokens of a value stand between the two: scanning what is written for a value
gives its tokens (`scanTokens_render`), and the machine of the reader goes over the tokens of a
value as over the value itself (`run?_tokens`). Both are said with whatever follows, and both go
along the value, with a case for each constructor and one for each list of items or members.

Every value whose numerals follow the grammar is read back as it was written (`parse?_toText`).
-/
import Mathlib.Tactic.ByContra
import SpriteStage.Json.Reader
import SpriteStage.Proofs.Json.Leaves

set_option autoImplicit false

namespace SpriteStage.Json

/-! ## Well-formed values and their tokens -/

mutual

/-- Values whose numerals follow the grammar. -/
def WellFormed : Json → Prop
  | null => True
  | bool _ => True
  | number n => n.WellFormed
  | string _ => True
  | array items => AllWellFormed items
  | object members => MembersWellFormed members

/-- Lists of such values. -/
def AllWellFormed : List Json → Prop
  | [] => True
  | j :: rest => WellFormed j ∧ AllWellFormed rest

/-- Lists of members with such values. -/
def MembersWellFormed : List (Option String × Json) → Prop
  | [] => True
  | (_, j) :: rest => WellFormed j ∧ MembersWellFormed rest

end

mutual

/-- The tokens of a value. -/
def tokens : Json → List Token
  | null => [.scalar null]
  | bool b => [.scalar (bool b)]
  | number n => [.scalar (number n)]
  | string text => [.scalar (string text)]
  | array items => .openArray :: itemTokens items ++ [.closeArray]
  | object members => .openObject :: memberTokens members ++ [.closeObject]

/-- The tokens of values with commas between them. -/
def itemTokens : List Json → List Token
  | [] => []
  | [j] => tokens j
  | j :: rest => tokens j ++ .comma :: itemTokens rest

/-- The tokens of members with commas between them. -/
def memberTokens : List (Option String × Json) → List Token
  | [] => []
  | [(key, j)] => .scalar (.string key) :: .colon :: tokens j
  | (key, j) :: rest => .scalar (.string key) :: .colon :: tokens j ++ .comma :: memberTokens rest

end

/-! The last item of a list, or its last member, has no comma behind it. -/

section Several

variable (j k : Json) (items : List Json) (key : Option String) (m : Option String × Json)
  (members : List (Option String × Json))

theorem renderItems_cons :
    renderItems (j :: k :: items) = j.render ++ ',' :: renderItems (k :: items) := by
  rw [renderItems]
  nofun

theorem itemTokens_cons :
    itemTokens (j :: k :: items) = j.tokens ++ .comma :: itemTokens (k :: items) := by
  rw [itemTokens]
  nofun

theorem renderMembers_cons :
    renderMembers ((key, j) :: m :: members) =
      renderString key ++ ':' :: j.render ++ ',' :: renderMembers (m :: members) := by
  rw [renderMembers]
  nofun

theorem memberTokens_cons :
    memberTokens ((key, j) :: m :: members) =
      .scalar (.string key) :: .colon :: j.tokens ++ .comma :: memberTokens (m :: members) := by
  rw [memberTokens]
  nofun

end Several

/-! ## Scanning -/

/-- The token that a character is by itself. -/
def mark? : Char → Option Token
  | '[' => some .openArray
  | ']' => some .closeArray
  | '{' => some .openObject
  | '}' => some .closeObject
  | ',' => some .comma
  | ':' => some .colon
  | _ => none

section Scan

variable (done : List Token) (rest : List Char)

theorem scanTokens_mark (c : Char) {t : Token} (hc : mark? c = some t) :
    scanTokens done (c :: rest) = scanTokens (t :: done) rest := by
  unfold mark? at hc
  split at hc
  case h_7 => cases hc
  all_goals
    cases hc
    rw [scanTokens]

theorem scanTokens_string (text : Option String) :
    scanTokens done (renderString text ++ rest) =
      scanTokens (.scalar (.string text) :: done) rest := by
  obtain ⟨cs, hrender, hscan⟩ := exists_renderString text rest
  rw [hrender, scanTokens]
  split
  · next heq =>
    cases hscan.symm.trans heq
    rfl
  · next heq => cases hscan.symm.trans heq

variable {rest}

theorem scanTokens_number {n : Numeral} (hn : n.WellFormed) (hrest : Ends rest) :
    scanTokens done (n.render ++ rest) = scanTokens (.scalar (.number n) :: done) rest := by
  have hscan := scanNumeral_render hn hrest
  obtain ⟨c, cs, hrender, hc⟩ := exists_render hn rest
  have hspace : isSpace c = false := by
    by_contra h
    simp only [isSpace, Bool.not_eq_false, Bool.or_eq_true, decide_eq_true_iff] at h
    rcases h with ((rfl | rfl) | rfl) | rfl <;> exact absurd hc (by decide)
  rw [hrender] at hscan ⊢
  rw [scanTokens]
  · rw [if_neg (by simp [hspace])]
    split
    · next heq =>
      cases hscan.symm.trans heq
      rfl
    · next heq => cases hscan.symm.trans heq
  -- no other token starts with a sign or a digit
  all_goals
    intros
    subst c
    exact absurd hc (by decide)

end Scan

mutual

/-- **What is written for a value is scanned to its tokens.** -/
theorem scanTokens_render : ∀ (j : Json), j.WellFormed → ∀ (done : List Token) {rest : List Char},
    Ends rest → scanTokens done (j.render ++ rest) = scanTokens (j.tokens.reverse ++ done) rest
  | .null, _, done, rest, _ => by
    rw [render, List.cons_append, List.cons_append, List.cons_append, List.singleton_append,
      scanTokens]
    rfl
  | .bool true, _, done, rest, _ => by
    rw [render, List.cons_append, List.cons_append, List.cons_append, List.singleton_append,
      scanTokens]
    rfl
  | .bool false, _, done, rest, _ => by
    rw [render, List.cons_append, List.cons_append, List.cons_append, List.cons_append,
      List.singleton_append, scanTokens]
    rfl
  | .number n, hj, done, rest, hrest => by
    rw [render]
    exact scanTokens_number done hj hrest
  | .string text, _, done, rest, _ => by
    rw [render]
    exact scanTokens_string done rest text
  | .array items, hj, done, rest, _ => by
    rw [render, List.append_assoc, List.singleton_append, List.cons_append,
      scanTokens_mark _ _ '[' rfl, scanTokens_items items hj _ (ends_cons (.inr (.inl rfl)) _),
      scanTokens_mark _ _ ']' rfl, tokens]
    simp
  | .object members, hj, done, rest, _ => by
    rw [render, List.append_assoc, List.singleton_append, List.cons_append,
      scanTokens_mark _ _ '{' rfl, scanTokens_members members hj _ (ends_cons (.inr (.inr rfl)) _),
      scanTokens_mark _ _ '}' rfl, tokens]
    simp

theorem scanTokens_items : ∀ (items : List Json), AllWellFormed items →
    ∀ (done : List Token) {rest : List Char}, Ends rest →
    scanTokens done (renderItems items ++ rest) =
      scanTokens ((itemTokens items).reverse ++ done) rest
  | [], _, _, _, _ => rfl
  | [j], hitems, done, rest, hrest => scanTokens_render j hitems.1 done hrest
  | j :: k :: items, hitems, done, rest, hrest => by
    rw [renderItems_cons, List.append_assoc, List.cons_append,
      scanTokens_render j hitems.1 done (ends_cons (.inl rfl) _), scanTokens_mark _ _ ',' rfl,
      scanTokens_items (k :: items) hitems.2 _ hrest, itemTokens_cons]
    simp

theorem scanTokens_members : ∀ (members : List (Option String × Json)), MembersWellFormed members →
    ∀ (done : List Token) {rest : List Char}, Ends rest →
    scanTokens done (renderMembers members ++ rest) =
      scanTokens ((memberTokens members).reverse ++ done) rest
  | [], _, _, _, _ => rfl
  | [(key, j)], hmembers, done, rest, hrest => by
    rw [renderMembers, List.append_assoc, scanTokens_string, List.cons_append,
      scanTokens_mark _ _ ':' rfl, scanTokens_render j hmembers.1 _ hrest, memberTokens]
    simp
  | (key, j) :: m :: members, hmembers, done, rest, hrest => by
    rw [renderMembers_cons, List.append_assoc, List.append_assoc, scanTokens_string,
      List.cons_append, scanTokens_mark _ _ ':' rfl, List.cons_append,
      scanTokens_render j hmembers.1 _ (ends_cons (.inl rfl) _), scanTokens_mark _ _ ',' rfl,
      scanTokens_members (m :: members) hmembers.2 _ hrest, memberTokens_cons]
    simp

end

/-! ## Reading -/

section Read

open Reading (run?)

variable (stack : List Container) (ts : List Token)

/-- Behind an opening bracket the first item is read as any other. -/
theorem run?_firstItem (j : Json) (items : List Json) :
    run? (.firstItem stack) (itemTokens (j :: items) ++ ts) =
      run? (.value (.array [] :: stack)) (itemTokens (j :: items) ++ ts) := by
  cases items <;> cases j <;> rfl

/-- Behind an opening brace the first member is read as any other. -/
theorem run?_firstKey (m : Option String × Json) (members : List (Option String × Json)) :
    run? (.firstKey stack) (memberTokens (m :: members) ++ ts) =
      run? (.key [] stack) (memberTokens (m :: members) ++ ts) := by
  cases members <;> rfl

theorem run?_comma_item (j : Json) (done : List Json) :
    run? (.after j (.array done :: stack)) (.comma :: ts) =
      run? (.value (.array (j :: done) :: stack)) ts :=
  rfl

theorem run?_closeArray (j : Json) (done : List Json) :
    run? (.after j (.array done :: stack)) (.closeArray :: ts) =
      run? (.after (.array (done.reverse ++ [j])) stack) ts := by
  rw [← List.reverse_cons]
  rfl

theorem run?_key (done : List (Option String × Json)) (key : Option String) :
    run? (.key done stack) (.scalar (.string key) :: .colon :: ts) =
      run? (.value (.object done key :: stack)) ts :=
  rfl

theorem run?_comma_member (j : Json) (done : List (Option String × Json)) (key : Option String) :
    run? (.after j (.object done key :: stack)) (.comma :: ts) =
      run? (.key ((key, j) :: done) stack) ts :=
  rfl

theorem run?_closeObject (j : Json) (done : List (Option String × Json)) (key : Option String) :
    run? (.after j (.object done key :: stack)) (.closeObject :: ts) =
      run? (.after (.object (done.reverse ++ [(key, j)])) stack) ts := by
  rw [← List.reverse_cons]
  rfl

end Read

open Reading (run?) in
mutual

/-- **The reader goes over the tokens of a value as over the value.** -/
theorem run?_tokens : ∀ (j : Json) (stack : List Container) (ts : List Token),
    run? (.value stack) (j.tokens ++ ts) = run? (.after j stack) ts
  | .null, _, _ => rfl
  | .bool _, _, _ => rfl
  | .number _, _, _ => rfl
  | .string _, _, _ => rfl
  | .array [], _, _ => rfl
  | .array (j :: items), stack, ts => by
    rw [tokens, List.append_assoc, List.singleton_append, List.cons_append]
    exact (run?_firstItem _ _ j items).trans (run?_items (j :: items) nofun [] stack ts)
  | .object [], _, _ => rfl
  | .object (m :: members), stack, ts => by
    rw [tokens, List.append_assoc, List.singleton_append, List.cons_append]
    exact (run?_firstKey _ _ m members).trans (run?_members (m :: members) nofun [] stack ts)

theorem run?_items : ∀ (items : List Json), items ≠ [] →
    ∀ (done : List Json) (stack : List Container) (ts : List Token),
    run? (.value (.array done :: stack)) (itemTokens items ++ .closeArray :: ts) =
      run? (.after (.array (done.reverse ++ items)) stack) ts
  | [], hitems, _, _, _ => absurd rfl hitems
  | [j], _, done, stack, ts => by rw [itemTokens, run?_tokens j, run?_closeArray]
  | j :: k :: items, _, done, stack, ts => by
    rw [itemTokens_cons, List.append_assoc, List.cons_append, run?_tokens j, run?_comma_item,
      run?_items (k :: items) nofun, List.reverse_cons, List.append_assoc, List.singleton_append]

theorem run?_members : ∀ (members : List (Option String × Json)), members ≠ [] →
    ∀ (done : List (Option String × Json)) (stack : List Container) (ts : List Token),
    run? (.key done stack) (memberTokens members ++ .closeObject :: ts) =
      run? (.after (.object (done.reverse ++ members)) stack) ts
  | [], hmembers, _, _, _ => absurd rfl hmembers
  | [(key, j)], _, done, stack, ts => by
    rw [memberTokens, List.cons_append, List.cons_append, run?_key, run?_tokens j,
      run?_closeObject]
  | (key, j) :: m :: members, _, done, stack, ts => by
    rw [memberTokens_cons, List.append_assoc, List.cons_append, List.cons_append, List.cons_append,
      run?_key, run?_tokens j, run?_comma_member, run?_members (m :: members) nofun,
      List.reverse_cons, List.append_assoc, List.singleton_append]

end

/-- **Writing and reading a value gives it back.** -/
theorem parse?_toText {j : Json} (hj : j.WellFormed) : parse? j.toText = some j := by
  have hscan : scan j.render = some j.tokens := by
    have h := scanTokens_render j hj [] ends_nil
    rw [List.append_nil, List.append_nil] at h
    rw [scan, h, scanTokens, List.reverse_reverse]
  have hread : (Reading.value []).run? j.tokens = some (.after j []) := by
    have h := run?_tokens j [] []
    rwa [List.append_nil] at h
  rw [parse?, toText, String.toList_ofList, hscan, Option.bind_eq_bind, Option.bind_some, hread]
  rfl

end SpriteStage.Json
