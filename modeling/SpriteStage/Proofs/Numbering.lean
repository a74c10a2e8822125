/-
The numbering of elements over whole runs.

A creation that goes through is answered with the next id of its kind, and nothing else moves a
counter. Read along a history, the ids of a kind are therefore the numbers from one, with no gap
where a creation failed or an element was removed (`Host.ids_number_creations`).

All of this is counting modulo the width of an id. What turns it into numbers is that fewer than
`2 ^ 32` creations of each kind have gone through (`Unexhausted`). From there on no id is issued
twice, and ids in ascending order, which is how tables keep them, are ids in the order of creation.
-/
import Mathlib.Data.List.Sort
import SpriteStage.Proofs.Presence

set_option autoImplicit false

namespace SpriteStage

/-! ## Creations that went through -/

/-- Whether an entry is a creation of some kind that went through. -/
def Entry.creates (k : Kind) (e : Entry) : Bool :=
  e.call.creates? == some k && e.result.isOk

/-- Pasts in which no kind has run out of ids. -/
def Unexhausted (past : List Entry) : Prop := ∀ k, past.countP (Entry.creates k) < 2 ^ 32

theorem Unexhausted.of_append {past more : List Entry} (h : Unexhausted (past ++ more)) :
    Unexhausted past := by
  intro k
  have hk := h k
  rw [List.countP_append] at hk
  omega

namespace Entry

variable {k : Kind} {e : Entry}

/-- Entries that reply an id if they are creations. -/
def Answers (e : Entry) : Prop := ∀ k, e.creates k = (e.issues? k).isSome

theorem answers_error (c : Call) (fault : Fault) : Answers ⟨c, .error fault⟩ := by
  intro k
  have hcreates : creates k ⟨c, .error fault⟩ = false := Bool.and_false _
  rw [hcreates, issues?, created?_error]
  rfl

theorem result_of_issues? {id : Ident} (h : e.issues? k = some id) : e.result = .ok (.id id) := by
  have hcreated := issues?_eq_some.mp h
  unfold created? at hcreated
  split at hcreated
  · next hresult =>
    cases hcreated
    exact hresult
  · cases hcreated

end Entry

/-! ## Ids in order -/

theorem length_numbered (n : Nat) : (numbered n).length = n := by
  rw [numbered, List.length_map, List.length_range]

theorem toNat_of_numbered {n i : Nat} (hn : n < 2 ^ 32) {id : Ident}
    (h : (numbered n)[i]? = some id) : id.toNat = i + 1 := by
  have hi : i < n := by
    have hlt := (List.getElem?_eq_some_iff.mp h).1
    rwa [length_numbered] at hlt
  rw [numbered, List.getElem?_map, List.getElem?_range hi] at h
  have hsize : UInt32.size = 2 ^ 32 := rfl
  rw [← Option.some.inj h, UInt32.toNat_ofNat_of_lt' (by omega)]

theorem pairwise_numbered {n : Nat} (hn : n < 2 ^ 32) : (numbered n).Pairwise (· < ·) := by
  refine List.pairwise_iff_getElem.mpr ?_
  intro i j hi hj hij
  have hfirst := toNat_of_numbered hn (List.getElem?_eq_getElem hi)
  have hsecond := toNat_of_numbered hn (List.getElem?_eq_getElem hj)
  rw [UInt32.lt_iff_toNat_lt, hfirst, hsecond]
  omega

theorem zero_not_mem_numbered {n : Nat} (hn : n < 2 ^ 32) : 0 ∉ numbered n := by
  intro hmem
  obtain ⟨i, hi⟩ := List.mem_iff_getElem?.mp hmem
  have hnat := toNat_of_numbered hn hi
  rw [UInt32.toNat_zero] at hnat
  omega

namespace Table

variable {α : Type}

theorem pairwise_keys (t : Table α) : (t.entries.map (·.1)).Pairwise (· < ·) :=
  List.pairwise_map.mpr t.ascending

theorem mem_keys {t : Table α} {id : Ident} : id ∈ t.entries.map (·.1) ↔ t.contains id := by
  rw [contains, Option.isSome_iff_exists]
  constructor
  · intro h
    obtain ⟨⟨k, a⟩, hmem, rfl⟩ := List.mem_map.mp h
    exact ⟨a, mem_entries_iff.mp hmem⟩
  · rintro ⟨a, hfind⟩
    exact List.mem_map.mpr ⟨(id, a), mem_entries_iff.mpr hfind, rfl⟩

end Table

/-- The list of live sprites has the ids of the sprite table. -/
theorem Stage.Sound.ids_toList {σ : Type} {s : Stage σ} (hs : s.Sound) :
    s.sprites.toList.map Sprite.id = s.sprites.table.entries.map (·.1) := by
  rw [SpriteTable.toList, Table.values, List.map_map]
  refine List.map_congr_left ?_
  rintro ⟨id, sp⟩ hmem
  exact (hs.sprite (Table.mem_entries_iff.mp hmem)).id_eq

theorem Stage.Sound.find?_of_mem_toList {σ : Type} {s : Stage σ} (hs : s.Sound) {sp : Sprite}
    (h : sp ∈ s.sprites.toList) : s.sprites.find? sp.id = some sp := by
  obtain ⟨⟨id, sp⟩, hmem, rfl⟩ := List.mem_map.mp h
  have hfind := Table.mem_entries_iff.mp hmem
  rw [(hs.sprite hfind).id_eq]
  exact hfind

namespace Host

variable {σ : Type} [EventSink σ] {h h' : Host σ} {c : Call} {reply : Reply}

theorem Accepts.answers (ha : h.Accepts c reply h') : (⟨c, .ok reply⟩ : Entry).Answers := by
  intro k
  cases ha with
  | createTextView | createButton | createCanvas | createBitmap | createText =>
    cases k <;> rfl
  | _ => rfl

/-- One call moves the counter of a kind exactly if it is a creation of the kind that goes
through. -/
theorem last_after (hs : h.stage.Sound) (c : Call) (k : Kind) :
    (h.after c).stage.counters.last k =
      if Entry.creates k ⟨c, h.answer c⟩ then h.stage.counters.next k
      else h.stage.counters.last k := by
  rcases answer_cases hs c with ⟨reply, hanswer, ha⟩ | ⟨fault, hanswer, hafter, -⟩
  · rw [hanswer, ha.answers k]
    rcases ha.counts k with ⟨hnone, hlast⟩ | ⟨hnext, hlast⟩
    · rw [hnone]
      exact hlast
    · rw [hnext]
      exact hlast
  · rw [hanswer, hafter, Entry.answers_error c fault k, Entry.issues?, Entry.created?_error]
    rfl

variable (settings : Settings) (sink : σ) (calls : List Call)

theorem answers_run : ∀ e ∈ (start settings sink).history calls, e.Answers := by
  refine run_induction (motive := fun past _ => ∀ e ∈ past, e.Answers) settings sink
    (fun _ he => absurd he List.not_mem_nil) (fun ih ha => ?_) (fun ih _ => ?_) calls
  · intro e he
    rcases List.mem_append.mp he with he | he
    · exact ih e he
    · rw [List.mem_singleton.mp he]
      exact ha.answers
  · intro e he
    rcases List.mem_append.mp he with he | he
    · exact ih e he
    · rw [List.mem_singleton.mp he]
      exact Entry.answers_error _ _

end Host

theorem mem_issued_of_live {k : Kind} {id : Ident} {past : List Entry} (h : Live k id past) :
    id ∈ issued k past := by
  obtain ⟨before, origin, since, rfl, hcreated, -⟩ := h
  exact mem_issued.mpr ⟨origin, by simp, hcreated⟩

/-- The creations that went through were answered with the ids that were issued. -/
theorem results_of_answers {past : List Entry} (h : ∀ e ∈ past, e.Answers) (k : Kind) :
    (past.filter (Entry.creates k)).map Entry.result =
      (issued k past).map fun id => .ok (.id id) := by
  induction past with
  | nil => rfl
  | cons e rest ih =>
    have hrest := ih fun e' he' => h e' (List.mem_cons_of_mem e he')
    have hanswers := h e List.mem_cons_self k
    cases hissues : e.issues? k with
    | none =>
      rw [hissues] at hanswers
      rw [List.filter_cons_of_neg (Bool.eq_false_iff.mp hanswers), hrest, issued, issued,
        List.filterMap_cons_none hissues]
    | some id =>
      rw [hissues] at hanswers
      rw [List.filter_cons_of_pos hanswers, List.map_cons, hrest, Entry.result_of_issues? hissues,
        issued, issued, List.filterMap_cons_some hissues, List.map_cons]

namespace Host

variable {σ : Type} [EventSink σ] {settings : Settings} {sink : σ} {calls : List Call}

theorem results_run (k : Kind) :
    (((start settings sink).history calls).filter (Entry.creates k)).map Entry.result =
      (issued k ((start settings sink).history calls)).map fun id => .ok (.id id) :=
  results_of_answers (answers_run settings sink calls) k

theorem length_issued_run (k : Kind) :
    (issued k ((start settings sink).history calls)).length =
      ((start settings sink).history calls).countP (Entry.creates k) := by
  have hlength := congrArg List.length (@results_run σ _ settings sink calls k)
  rw [List.length_map, List.length_map] at hlength
  rw [List.countP_eq_length_filter, hlength]

theorem issued_eq_numbered (k : Kind) :
    issued k ((start settings sink).history calls) =
      numbered (((start settings sink).history calls).countP (Entry.creates k)) := by
  rw [(issued_run settings sink calls k).1, length_issued_run]

/-- The counter of a kind stands at the number of its creations. -/
theorem toNat_last_run (hfew : Unexhausted ((start settings sink).history calls)) (k : Kind) :
    (((start settings sink).run calls).stage.counters.last k).toNat =
      ((start settings sink).history calls).countP (Entry.creates k) := by
  rw [(issued_run settings sink calls k).2, length_issued_run,
    UInt32.toNat_ofNat_of_lt' (hfew k)]

/-- Creations are answered with their number. -/
theorem answered_in_order (hfew : Unexhausted ((start settings sink).history calls)) {k : Kind}
    {n : Nat} {e : Entry}
    (h : (((start settings sink).history calls).filter (Entry.creates k))[n]? = some e) :
    ∃ id, e.result = .ok (.id id) ∧ id.toNat = n + 1 := by
  -- the answer stands where its id stands among the issued ones
  have hresult := congrArg (Option.map Entry.result) h
  rw [← List.getElem?_map, results_run, List.getElem?_map, Option.map_some,
    Option.map_eq_some_iff] at hresult
  obtain ⟨id, hid, heq⟩ := hresult
  refine ⟨id, heq.symm, ?_⟩
  rw [issued_eq_numbered] at hid
  exact toNat_of_numbered (hfew k) hid

/-- The ids of a kind, as long as the kind has not run out of them, are ascending numbers. -/
theorem pairwise_issued (hfew : Unexhausted ((start settings sink).history calls)) (k : Kind) :
    (issued k ((start settings sink).history calls)).Pairwise (· < ·) := by
  rw [issued_eq_numbered]
  exact pairwise_numbered (hfew k)

theorem countP_lt_of_concat {k : Kind} {c : Call} {n : Nat}
    (hfew : ((start settings sink).history (calls ++ [c])).countP (Entry.creates k) < n) :
    ((start settings sink).history calls).countP (Entry.creates k) < n := by
  rw [history_concat, List.countP_append] at hfew
  omega

/-- A kind that has not run out of ids has a next id that nothing on the stage has. -/
theorem next_absent {k : Kind}
    (hfew : ((start settings sink).history calls).countP (Entry.creates k) < 2 ^ 32) :
    ¬ ((start settings sink).run calls).stage.has k
      (((start settings sink).run calls).stage.counters.next k) := by
  intro hhas
  have hlive := (has_run_iff settings sink calls k _).mp hhas
  have hissued := mem_issued_of_live hlive
  rw [issued_eq_numbered, Counters.next, (issued_run settings sink calls k).2,
    length_issued_run] at hissued
  obtain ⟨i, hi⟩ := List.mem_iff_getElem?.mp hissued
  have hlt := (List.getElem?_eq_some_iff.mp hi).1
  have hnat := toNat_of_numbered hfew hi
  rw [length_numbered] at hlt
  -- the next number is one more than those that were issued, or else zero
  rw [UInt32.toNat_add, UInt32.toNat_ofNat_of_lt' hfew, UInt32.toNat_one] at hnat
  omega

/-- What an accepted call creates was not on the stage. -/
theorem Accepts.not_has_of_created {c : Call} {reply : Reply} {h' : Host σ} {k : Kind} {id : Ident}
    (ha : ((start settings sink).run calls).Accepts c reply h')
    (hcreated : (⟨c, .ok reply⟩ : Entry).created? = some (k, id))
    (hfew : ((start settings sink).history calls).countP (Entry.creates k) < 2 ^ 32) :
    ¬ ((start settings sink).run calls).stage.has k id := by
  have hissued := Entry.issues?_eq_some.mpr hcreated
  rcases ha.counts k with ⟨hnone, -⟩ | ⟨hnext, -⟩
  · rw [hnone] at hissued
    cases hissued
  · -- it got the next id of its kind
    rw [Option.some.inj (hissued.symm.trans hnext)]
    exact next_absent hfew

/-- An id that was issued is not issued again. -/
theorem not_mem_issued_later (hfew : Unexhausted ((start settings sink).history calls)) {k : Kind}
    {id : Ident} {earlier later : List Entry}
    (hsplit : (start settings sink).history calls = earlier ++ later)
    (hid : id ∈ issued k earlier) : id ∉ issued k later := by
  have hnodup := (pairwise_issued hfew k).nodup
  rw [hsplit, issued, List.filterMap_append] at hnodup
  intro hlater
  exact (List.nodup_append.mp hnodup).2.2 id hid id hlater rfl

/-- The live sprites are listed in the order of their creation. -/
theorem ids_toList_run (hfew : Unexhausted ((start settings sink).history calls)) :
    ((start settings sink).run calls).stage.sprites.toList.map Sprite.id =
      (issued .sprite ((start settings sink).history calls)).filter
        ((start settings sink).run calls).stage.sprites.contains := by
  rw [(sound_run settings sink calls).ids_toList]
  -- both lists are ascending, so it is enough that they have the same members
  refine (Table.pairwise_keys _).eq_of_mem_iff ((pairwise_issued hfew .sprite).filter _) ?_
  intro id
  rw [Table.mem_keys, List.mem_filter]
  constructor
  · intro hcontains
    have hlive := (has_run_iff settings sink calls .sprite id).mp hcontains
    exact ⟨mem_issued_of_live hlive, hcontains⟩
  · intro hmem
    exact hmem.2

variable (settings sink calls) in
/-- **Ids number the creations.** After every run in which no kind has run out of ids, the creations
of a kind that went through were answered with one, two, three and so on. The counter of the kind
stands at their number, and the next call moves it only if it is one more of them. So no id of a kind
was issued twice, none is zero, and the list of live sprites has their ids in the order in which they
were issued. -/
theorem ids_number_creations (hfew : Unexhausted ((start settings sink).history calls)) :
    let past := (start settings sink).history calls
    let h := (start settings sink).run calls
    (∀ k,
      (∀ n e, (past.filter (Entry.creates k))[n]? = some e →
        ∃ id, e.result = .ok (.id id) ∧ id.toNat = n + 1) ∧
      (h.stage.counters.last k).toNat = past.countP (Entry.creates k) ∧
      (∀ c, (h.after c).stage.counters.last k =
        if Entry.creates k ⟨c, h.answer c⟩ then h.stage.counters.next k
        else h.stage.counters.last k) ∧
      (issued k past).Nodup ∧ 0 ∉ issued k past) ∧
    (h.stage.sprites.toList.map Sprite.id =
        (issued .sprite past).filter h.stage.sprites.contains ∧
      (∀ id, h.stage.sprites.contains id ↔ Live .sprite id past) ∧
      ∀ sp ∈ h.stage.sprites.toList, h.stage.sprites.find? sp.id = some sp) := by
  intro past h
  have hs : h.stage.Sound := sound_run settings sink calls
  refine ⟨?_, ids_toList_run hfew, has_run_iff settings sink calls .sprite, ?_⟩
  · intro k
    refine ⟨?_, toNat_last_run hfew k, fun c => last_after hs c k, ?_, ?_⟩
    · intro n e hentry
      exact answered_in_order hfew hentry
    · exact (pairwise_issued hfew k).nodup
    · rw [issued_eq_numbered]
      exact zero_not_mem_numbered (hfew k)
  · intro sp hsp
    exact hs.find?_of_mem_toList hsp

/-- A bitmap that is refused takes no id, and a deletion gives none back. -/
theorem third_sprite_after_deletion :
    let calls := [.createBitmap 2 2, .createBitmap 0 1, .createText "hi" .black 12,
      .canvasDeleteBitmap 1, .createCanvas 4 4, .createBitmap 1 1]
    let past := (start {} {} : Host Recorder).history calls
    let h : Host Recorder := (start {} {}).run calls
    (∃ e, (past.filter (Entry.creates .sprite))[2]? = some e ∧ e.result = .ok (.id 3)) ∧
    (h.stage.counters.last .sprite).toNat = 3 ∧ h.stage.sprites.toList.map Sprite.id = [2, 3] := by
  intro calls past h
  have hfew : Unexhausted past := by
    intro k
    cases k <;> decide +kernel
  obtain ⟨hkinds, hlisted, -⟩ := ids_number_creations {} ({} : Recorder) calls hfew
  obtain ⟨hreplies, hcounter, -⟩ := hkinds .sprite
  have hthird : ((past.filter (Entry.creates .sprite))[2]?).isSome := by decide +kernel
  obtain ⟨e, he⟩ := Option.isSome_iff_exists.mp hthird
  obtain ⟨id, hresult, hid⟩ := hreplies 2 e he
  obtain rfl : id = 3 := UInt32.toNat_inj.mp hid
  refine ⟨⟨e, he, hresult⟩, ?_, ?_⟩
  · exact hcounter.trans (by decide +kernel)
  · exact hlisted.trans (by decide +kernel)

end Host

end SpriteStage
