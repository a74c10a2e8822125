/-
Values and records on the wire, written and read.

Integers that fit a word, and texts, are read as they were written. A record that is written as an
object with distinct keys gives the values of its fields back, whatever other members stand beside
them (`allFields?_ofMembers`). A tagged record is such an object whose first member is the tag, and
it is read exactly if all of it is sound (`tagged?_tagged`).
-/
import SpriteStage.Proofs.Json.RoundTrip
import SpriteStage.Wire.Value

set_option autoImplicit false

namespace SpriteStage

/-! ## Lists read item by item -/

section Items

variable {α β γ : Type} {l : List α} {read? : β → Option γ}

theorem mapM_map_eq_some {write : α → β} {value : α → γ}
    (h : ∀ a ∈ l, read? (write a) = some (value a)) :
    (l.map write).mapM read? = some (l.map value) := by
  induction l with
  | nil => rfl
  | cons a l ih =>
    rw [List.map_cons, List.mapM_cons, h a List.mem_cons_self,
      ih fun b hb => h b (List.mem_cons_of_mem a hb)]
    rfl

theorem mapM_mapIdx_eq_some {write : Nat → α → β} {read? : β → Option α}
    (h : ∀ i a, l[i]? = some a → read? (write i a) = some a) :
    (l.mapIdx write).mapM read? = some l := by
  induction l generalizing write with
  | nil => rfl
  | cons a l ih =>
    rw [List.mapIdx_cons, List.mapM_cons, h 0 a rfl, ih fun i b hb => h (i + 1) b hb]
    rfl

theorem mapM_eq_none {l : List β} {b : β} (hb : b ∈ l) (h : read? b = none) :
    l.mapM read? = none := by
  induction l with
  | nil => cases hb
  | cons c l ih =>
    rw [List.mapM_cons]
    rcases List.mem_cons.1 hb with rfl | hmem
    · rw [h]
      rfl
    · rw [ih hmem]
      cases read? c <;> rfl

end Items

namespace Json

/-! ## Integers and texts -/

theorem integerIn?_ofInt {lo hi n : Int} (hlo : lo ≤ n) (hhi : n ≤ hi) :
    (ofInt n).integerIn? lo hi = some n := by
  rw [ofInt, integerIn?, Numeral.integer?_ofInt, Option.filter_some, if_pos]
  simp [hlo, hhi]

theorem integerIn?_eq_none {lo hi : Int} {n : Numeral}
    (h : ∀ i, n.integer? = some i → i < lo ∨ hi < i) : (number n).integerIn? lo hi = none := by
  rw [integerIn?, Option.filter_eq_none_iff]
  intro i hi
  have := h i hi
  simp only [Bool.and_eq_true, decide_eq_true_iff]
  omega

@[simp] theorem word32?_ofInt (w : UInt32) : (ofInt w.toNat).word32? = some w := by
  have hw := w.toNat_lt
  rw [word32?, integerIn?_ofInt (by omega) (by omega), Option.map_some, Int.toNat_natCast,
    UInt32.ofNat_toNat]

@[simp] theorem word64?_ofInt (w : UInt64) : (ofInt w.toNat).word64? = some w := by
  have hw := w.toNat_lt
  rw [word64?, integerIn?_ofInt (by omega) (by omega), Option.map_some, Int.toNat_natCast,
    UInt64.ofNat_toNat]

@[simp] theorem int32?_ofInt (n : Int32) : (ofInt n.toInt).int32? = some n := by
  have hlo := n.le_toInt
  have hhi := n.toInt_lt
  rw [int32?, integerIn?_ofInt (by omega) (by omega), Option.map_some, Int32.ofInt_toInt]

@[simp] theorem text?_ofText (s : String) : (ofText s).text? = some s := rfl

/-! ## Values that are built -/

theorem wellFormed_ofInt (n : Int) : (ofInt n).WellFormed := Numeral.wellFormed_ofInt n

theorem allWellFormed_iff {items : List Json} :
    AllWellFormed items ↔ ∀ j ∈ items, j.WellFormed := by
  induction items with
  | nil => simp [AllWellFormed]
  | cons j items ih => simp [AllWellFormed, ih]

theorem wellFormed_ofMembers_iff {members : List (String × Json)} :
    (ofMembers members).WellFormed ↔ ∀ m ∈ members, m.2.WellFormed := by
  rw [ofMembers, WellFormed]
  induction members with
  | nil => simp [MembersWellFormed]
  | cons m members ih => simp [MembersWellFormed, ih]

variable {room : Nat}

theorem isSound_ofInt {n : Int} (h : n.natAbs < 0x10000000000000000) : (ofInt n).isSound room = true :=
  Numeral.isFinite_ofInt h

theorem areSound_iff {items : List Json} :
    areSound room items = true ↔ ∀ j ∈ items, j.isSound room = true := by
  induction items with
  | nil => simp [areSound]
  | cons j items ih => simp [areSound, ih]

theorem isSound_ofMembers_iff {members : List (String × Json)} :
    (ofMembers members).isSound room = true ↔
      0 < room ∧ ∀ m ∈ members, m.2.isSound (room - 1) = true := by
  rw [ofMembers, isSound, Bool.and_eq_true, decide_eq_true_iff]
  refine and_congr_right fun _ => ?_
  induction members with
  | nil => simp [haveSound]
  | cons m members ih => simp [haveSound, ih]

end Json

namespace Wire

/-! ## Field values -/

/-- What a field of a message is written as: a text, an integer of at most 64 bits, or the words of
an array. -/
inductive FieldValue : Json → Prop
  | text (s : String) : FieldValue (.ofText s)
  | int {n : Int} (h : n.natAbs < 0x10000000000000000) : FieldValue (.ofInt n)
  | words (ws : List UInt32) : FieldValue (.array (ws.map fun w => .ofInt w.toNat))

namespace FieldValue

attribute [simp] FieldValue.text FieldValue.words

@[simp] theorem word32 (w : UInt32) : FieldValue (.ofInt w.toNat) := by
  have hw := w.toNat_lt
  exact .int (by omega)

@[simp] theorem word64 (w : UInt64) : FieldValue (.ofInt w.toNat) := by
  have hw := w.toNat_lt
  exact .int (by omega)

@[simp] theorem int32 (n : Int32) : FieldValue (.ofInt n.toInt) := by
  have hlo := n.le_toInt
  have hhi := n.toInt_lt
  exact .int (by omega)

theorem wellFormed {j : Json} (hj : FieldValue j) : j.WellFormed := by
  cases hj with
  | text s => trivial
  | int h => exact Json.wellFormed_ofInt _
  | words ws =>
    rw [Json.WellFormed, Json.allWellFormed_iff]
    intro j hj
    obtain ⟨w, -, rfl⟩ := List.mem_map.1 hj
    exact Json.wellFormed_ofInt _

theorem isSound {j : Json} (hj : FieldValue j) {room : Nat} (hroom : 0 < room) :
    j.isSound room = true := by
  cases hj with
  | text s => rfl
  | int h => exact Json.isSound_ofInt h
  | words ws =>
    rw [Json.isSound, Bool.and_eq_true, Json.areSound_iff]
    refine ⟨decide_eq_true hroom, fun j hj => ?_⟩
    obtain ⟨w, -, rfl⟩ := List.mem_map.1 hj
    have hw := w.toNat_lt
    exact Json.isSound_ofInt (by omega)

end FieldValue

/-! ## Plain records -/

section Plain

variable {fields members : List (String × Json)} {key : String} {value : Json}

theorem valuesOf_eq_nil (h : key ∉ members.map (·.1)) :
    valuesOf key (members.map fun (k, v) => (some k, v)) = [] := by
  induction members with
  | nil => rfl
  | cons m members ih =>
    rw [List.map_cons, List.mem_cons, not_or] at h
    have hhead : ¬ (some m.1 = some key) := fun heq => h.1 (Option.some.inj heq).symm
    have htail := ih h.2
    rw [valuesOf] at htail ⊢
    rw [List.map_cons, List.filter_cons_of_neg (by simpa using hhead)]
    exact htail

/-- Under distinct keys a member is found under its key, and nothing else is. -/
theorem valuesOf_of_mem (hkeys : (members.map (·.1)).Nodup) (h : (key, value) ∈ members) :
    valuesOf key (members.map fun (k, v) => (some k, v)) = [value] := by
  induction members with
  | nil => cases h
  | cons m members ih =>
    rw [List.map_cons, List.nodup_cons] at hkeys
    rcases List.mem_cons.1 h with rfl | hmem
    · have htail := valuesOf_eq_nil hkeys.1
      rw [valuesOf] at htail ⊢
      rw [List.map_cons, List.filter_cons_of_pos (by simp), List.map_cons, htail]
    · have hne : m.1 ≠ key := by
        rintro rfl
        exact hkeys.1 (List.mem_map_of_mem (f := (·.1)) hmem)
      have htail := ih hkeys.2 hmem
      rw [valuesOf] at htail ⊢
      rw [List.map_cons, List.filter_cons_of_neg (by simpa using hne)]
      exact htail

theorem fields?_ofMembers (hkeys : (members.map (·.1)).Nodup) (hfields : fields ⊆ members) :
    fields? (fields.map (·.1)) (.ofMembers members) = some (fields.map fun f => some f.2) := by
  rw [Json.ofMembers, fields?, fieldsOfMembers?, if_pos (by simp)]
  refine mapM_map_eq_some fun f hf => ?_
  rw [valuesOf_of_mem hkeys (hfields hf)]
  rfl

/-- **The fields of a record are read as they were written**, whatever stands beside them. -/
theorem allFields?_ofMembers (hkeys : (members.map (·.1)).Nodup) (hfields : fields ⊆ members) :
    allFields? (fields.map (·.1)) (.ofMembers members) = some (fields.map (·.2)) := by
  rw [allFields?, fields?_ofMembers hkeys hfields]
  exact mapM_map_eq_some fun _ _ => rfl

end Plain

/-! ## Tagged records -/

section Tagged

variable {fields : List (String × Json)} {key tag : String}

/-- The tag is the only member under the key of tags. -/
theorem valuesOf_tagged (hkeys : (key :: fields.map (·.1)).Nodup) :
    valuesOf key (((key, .ofText tag) :: fields).map fun (k, v) => (some k, v)) = [.ofText tag] :=
  valuesOf_of_mem hkeys List.mem_cons_self

variable {names? : String → Option (List String)} {room : Nat}

/-- An object with one tag is looked into if all of it is sound. -/
theorem tagged?_object {members : List (Option String × Json)}
    (h : valuesOf key members = [.ofText tag]) :
    tagged? key names? room (.object members) =
      if (Json.object members).isSound room then
        (names? tag).bind fun names =>
          (allFields? names (.object members)).bind fun values => some (tag, values)
      else none := by
  simp only [tagged?, h, Json.ofText]
  rfl

/-- **What is read of a tagged record**: its tag and its fields if all of it is sound, else
nothing. -/
theorem tagged?_tagged (hnames : names? tag = some (fields.map (·.1)))
    (hkeys : (key :: fields.map (·.1)).Nodup) :
    tagged? key names? room (tagged key tag fields) =
      if (tagged key tag fields).isSound room then some (tag, fields.map (·.2)) else none := by
  have hread : allFields? (fields.map (·.1)) (tagged key tag fields) = some (fields.map (·.2)) :=
    allFields?_ofMembers hkeys (List.subset_cons_self _ _)
  calc tagged? key names? room (tagged key tag fields)
    _ = if (tagged key tag fields).isSound room then
          (names? tag).bind fun names =>
            (allFields? names (tagged key tag fields)).bind fun values => some (tag, values)
        else none := tagged?_object (valuesOf_tagged hkeys)
    _ = _ := by rw [hnames, Option.bind_some, hread, Option.bind_some]

theorem isSound_tagged (hfields : ∀ f ∈ fields, FieldValue f.2) (hroom : 2 ≤ room) :
    (tagged key tag fields).isSound room = true := by
  refine Json.isSound_ofMembers_iff.2 ⟨by omega, List.forall_mem_cons.2 ⟨rfl, fun f hf => ?_⟩⟩
  exact (hfields f hf).isSound (by omega)

/-- What is taken from the tag and the fields of a record is read from the record. -/
theorem read_tagged {α : Type} {ofFields? : String → List Json → Option α} {a : α}
    (hnames : names? tag = some (fields.map (·.1))) (hkeys : (key :: fields.map (·.1)).Nodup)
    (hfields : ∀ f ∈ fields, FieldValue f.2) (hroom : 2 ≤ room)
    (hread : ofFields? tag (fields.map (·.2)) = some a) :
    ((tagged? key names? room (tagged key tag fields)).bind fun r => ofFields? r.1 r.2) =
      some a := by
  rw [tagged?_tagged hnames hkeys, if_pos (isSound_tagged hfields hroom)]
  exact hread

theorem wellFormed_tagged (hfields : ∀ f ∈ fields, f.2.WellFormed) :
    (tagged key tag fields).WellFormed :=
  Json.wellFormed_ofMembers_iff.2 (List.forall_mem_cons.2 ⟨trivial, hfields⟩)

/-- The same from the text of the record. -/
theorem read_text {α : Type} {ofFields? : String → List Json → Option α} {a : α}
    (hnames : names? tag = some (fields.map (·.1))) (hkeys : (key :: fields.map (·.1)).Nodup)
    (hfields : ∀ f ∈ fields, FieldValue f.2)
    (hread : ofFields? tag (fields.map (·.2)) = some a) :
    ((Json.parse? (tagged key tag fields).toText).bind fun j =>
      (tagged? key names? depth j).bind fun r => ofFields? r.1 r.2) = some a := by
  have hparse := Json.parse?_toText
    (wellFormed_tagged fun f hf => (hfields f hf).wellFormed : (tagged key tag fields).WellFormed)
  rw [hparse, Option.bind_some]
  exact read_tagged hnames hkeys hfields (by decide) hread

end Tagged

end Wire

end SpriteStage
