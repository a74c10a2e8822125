/-
Tables: finite maps from ids to values, kept in ascending order of id.

The order is the order in which listings come out, and since ids are issued upwards it is also the
order of creation. It is a field of the type, so two tables with the same look-ups are equal
(`Table.ext_find?`), and a statement about a whole table can be made one id at a time.
-/
import SpriteStage.Element

set_option autoImplicit false

namespace SpriteStage

/-- A finite map from ids to values of type `α`. -/
structure Table (α : Type) where
  /-- The ids with their values. -/
  entries : List (Ident × α)
  /-- The ids are in strictly ascending order. -/
  ascending : entries.Pairwise (fun x y => x.1 < y.1)

namespace Table

variable {α : Type}

/-! ## Operations -/

/-- The table with nothing in it. -/
def empty : Table α := ⟨[], .nil⟩

instance : EmptyCollection (Table α) := ⟨empty⟩

instance : Inhabited (Table α) := ⟨empty⟩

/-- The value stored under an id. -/
def find? (t : Table α) (id : Ident) : Option α := t.entries.lookup id

/-- Whether anything is stored under an id. -/
def contains (t : Table α) (id : Ident) : Bool := (t.find? id).isSome

/-- The values in ascending order of id. -/
def values (t : Table α) : List α := t.entries.map (·.2)

/-- The number of ids that have a value. -/
def size (t : Table α) : Nat := t.entries.length

/-- Places an entry in an ascending list, in the place of an entry with the same id if there is
one. -/
def place (id : Ident) (a : α) : List (Ident × α) → List (Ident × α)
  | [] => [(id, a)]
  | (k, b) :: rest =>
    if id < k then (id, a) :: (k, b) :: rest
    else if id = k then (id, a) :: rest
    else (k, b) :: place id a rest

theorem mem_place {id : Ident} {a : α} {e : Ident × α} {l : List (Ident × α)}
    (h : e ∈ place id a l) : e = (id, a) ∨ e ∈ l := by
  induction l with
  | nil => simpa [place] using h
  | cons head rest ih =>
    obtain ⟨k, b⟩ := head
    rw [place] at h
    split at h
    · simpa using h
    · split at h
      · rcases List.mem_cons.mp h with h | h
        · exact .inl h
        · exact .inr (List.mem_cons_of_mem _ h)
      · rcases List.mem_cons.mp h with h | h
        · exact .inr (h ▸ List.mem_cons_self)
        · exact (ih h).imp (fun heq => heq) (List.mem_cons_of_mem _)

theorem pairwise_place (id : Ident) (a : α) {l : List (Ident × α)}
    (h : l.Pairwise (fun x y => x.1 < y.1)) :
    (place id a l).Pairwise (fun x y => x.1 < y.1) := by
  induction l with
  | nil => exact List.pairwise_singleton _ _
  | cons head rest ih =>
    obtain ⟨k, b⟩ := head
    obtain ⟨hk, hrest⟩ := List.pairwise_cons.mp h
    rw [place]
    split
    · next hlt =>
      -- the new id comes before the head, hence before everything
      refine List.pairwise_cons.mpr ⟨fun e he => ?_, h⟩
      rcases List.mem_cons.mp he with rfl | he
      · exact hlt
      · exact UInt32.lt_trans hlt (hk e he)
    · next hlt =>
      split
      · next heq => exact List.pairwise_cons.mpr ⟨heq ▸ hk, hrest⟩
      · next hne =>
        refine List.pairwise_cons.mpr ⟨fun e he => ?_, ih hrest⟩
        rcases mem_place he with rfl | he
        · exact UInt32.lt_of_le_of_ne (UInt32.not_lt.mp hlt) (Ne.symm hne)
        · exact hk e he

/-- Stores a value under an id, in the place of an earlier one. -/
def insert (t : Table α) (id : Ident) (a : α) : Table α :=
  ⟨place id a t.entries, pairwise_place id a t.ascending⟩

/-- Takes an id and its value out. -/
def erase (t : Table α) (id : Ident) : Table α :=
  ⟨t.entries.filter (·.1 != id), t.ascending.filter _⟩

/-! ## Look-ups after each operation -/

@[simp] theorem find?_empty (id : Ident) : (∅ : Table α).find? id = none := rfl

theorem lookup_cons_eq_ite (k j : Ident) (b : α) (l : List (Ident × α)) :
    ((j, b) :: l).lookup k = if k = j then some b else l.lookup k := by
  by_cases h : k = j
  · subst h
    rw [List.lookup_cons_self, if_pos rfl]
  · have hb : (k == j) = false := by simpa using h
    rw [List.lookup_cons, hb, if_neg h]

theorem lookup_place (id : Ident) (a : α) (l : List (Ident × α)) (k : Ident) :
    (place id a l).lookup k = if k = id then some a else l.lookup k := by
  induction l with
  | nil => exact lookup_cons_eq_ite k id a []
  | cons head rest ih =>
    obtain ⟨j, b⟩ := head
    rw [place]
    split
    · rw [lookup_cons_eq_ite]
    · split
      · next h =>
        subst h
        rw [lookup_cons_eq_ite, lookup_cons_eq_ite]
        split <;> rfl
      · next h =>
        rw [lookup_cons_eq_ite, lookup_cons_eq_ite, ih]
        -- the new id and the head differ, so the two tests never both hold
        by_cases hj : k = j
        · have : ¬ k = id := fun hk => h (hk ▸ hj)
          simp only [hj, if_true, if_neg (hj ▸ this)]
        · simp [hj]

theorem find?_insert (t : Table α) (id : Ident) (a : α) (k : Ident) :
    (t.insert id a).find? k = if k = id then some a else t.find? k :=
  lookup_place id a t.entries k

@[simp] theorem find?_insert_self (t : Table α) (id : Ident) (a : α) :
    (t.insert id a).find? id = some a := by
  simp [find?_insert]

theorem lookup_filter_ne (l : List (Ident × α)) (id k : Ident) :
    (l.filter (·.1 != id)).lookup k = if k = id then none else l.lookup k := by
  induction l with
  | nil => simp
  | cons head rest ih =>
    obtain ⟨j, b⟩ := head
    by_cases hj : j = id
    · subst hj
      rw [List.filter_cons_of_neg (by simp), ih, lookup_cons_eq_ite]
      split <;> rfl
    · rw [List.filter_cons_of_pos (by simpa using hj), lookup_cons_eq_ite, lookup_cons_eq_ite, ih]
      by_cases hk : k = j
      · simp [hk, hj]
      · simp [hk]

theorem find?_erase (t : Table α) (id k : Ident) :
    (t.erase id).find? k = if k = id then none else t.find? k :=
  lookup_filter_ne t.entries id k

/-! ## A table is its look-ups -/

theorem mem_entries_iff {t : Table α} {id : Ident} {a : α} :
    (id, a) ∈ t.entries ↔ t.find? id = some a := by
  obtain ⟨l, h⟩ := t
  simp only [find?]
  induction l with
  | nil => simp
  | cons head rest ih =>
    obtain ⟨k, b⟩ := head
    obtain ⟨hk, hrest⟩ := List.pairwise_cons.mp h
    rw [lookup_cons_eq_ite, List.mem_cons, ih hrest]
    by_cases heq : id = k
    · subst heq
      have : rest.lookup id ≠ some a := fun hm =>
        UInt32.lt_irrefl _ (hk (id, a) ((ih hrest).mpr hm))
      simp [this, eq_comm]
    · simp [heq]

/-- The first entry of an ascending list is the one whose id no other entry undercuts, so two
ascending lists with the same look-ups agree from the front on. -/
theorem eq_of_lookup_eq {l₁ l₂ : List (Ident × α)} (h₁ : l₁.Pairwise (fun x y => x.1 < y.1))
    (h₂ : l₂.Pairwise (fun x y => x.1 < y.1)) (h : ∀ k, l₁.lookup k = l₂.lookup k) : l₁ = l₂ := by
  induction l₁ generalizing l₂ with
  | nil =>
    cases l₂ with
    | nil => rfl
    | cons e r =>
      have hk := h e.1
      rw [show e = (e.1, e.2) from rfl, lookup_cons_eq_ite] at hk
      simp at hk
  | cons e₁ r₁ ih =>
    cases l₂ with
    | nil =>
      have hk := h e₁.1
      rw [show e₁ = (e₁.1, e₁.2) from rfl, lookup_cons_eq_ite] at hk
      simp at hk
    | cons e₂ r₂ =>
      obtain ⟨k₁, a₁⟩ := e₁
      obtain ⟨k₂, a₂⟩ := e₂
      obtain ⟨hk₁, hr₁⟩ := List.pairwise_cons.mp h₁
      obtain ⟨hk₂, hr₂⟩ := List.pairwise_cons.mp h₂
      have mem₁ : ∀ k a, (k, a) ∈ (k₁, a₁) :: r₁ ↔ (k, a) ∈ (k₂, a₂) :: r₂ := fun k a =>
        (mem_entries_iff (t := ⟨_, h₁⟩)).trans
          (.trans (by simp only [find?, h k]) (mem_entries_iff (t := ⟨_, h₂⟩)).symm)
      have hk : k₁ = k₂ := by
        rcases List.mem_cons.mp ((mem₁ k₁ a₁).mp List.mem_cons_self) with heq | hmem
        · exact (Prod.mk.inj heq).1
        · rcases List.mem_cons.mp ((mem₁ k₂ a₂).mpr List.mem_cons_self) with heq | hmem'
          · exact (Prod.mk.inj heq).1.symm
          · exact absurd (UInt32.lt_trans (hk₂ _ hmem) (hk₁ _ hmem')) (UInt32.lt_irrefl _)
      subst hk
      have ha : a₁ = a₂ := by simpa [lookup_cons_eq_ite] using h k₁
      subst ha
      refine congrArg _ (ih hr₁ hr₂ fun k => ?_)
      have hcons := h k
      rw [lookup_cons_eq_ite, lookup_cons_eq_ite] at hcons
      by_cases hkk : k = k₁
      · -- an id of the head occurs in neither rest
        subst hkk
        have none₁ : r₁.lookup k = none := Option.eq_none_iff_forall_ne_some.mpr fun a ha =>
          UInt32.lt_irrefl _ (hk₁ (k, a) ((mem_entries_iff (t := ⟨_, hr₁⟩)).mpr ha))
        have none₂ : r₂.lookup k = none := Option.eq_none_iff_forall_ne_some.mpr fun a ha =>
          UInt32.lt_irrefl _ (hk₂ (k, a) ((mem_entries_iff (t := ⟨_, hr₂⟩)).mpr ha))
        rw [none₁, none₂]
      · simpa [hkk] using hcons

/-- Two tables with the same look-ups are equal. -/
theorem ext_find? {t₁ t₂ : Table α} (h : ∀ k, t₁.find? k = t₂.find? k) : t₁ = t₂ := by
  obtain ⟨l₁, h₁⟩ := t₁
  obtain ⟨l₂, h₂⟩ := t₂
  have := eq_of_lookup_eq h₁ h₂ h
  subst this
  rfl

end Table

end SpriteStage
