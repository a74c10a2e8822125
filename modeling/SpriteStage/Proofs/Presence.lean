/-
What a history says about elements.

Which elements there are can be read off the history of a run: an element is there exactly if some
call was answered with its id and no later call removed it (`Host.has_run_iff`). Only text views and
sprites can be removed. The ids themselves are the numbers from one, in the order of creation
(`Host.issued_run`), so as long as the counter of a kind has not gone around no id is issued twice.
-/
import Mathlib.Data.List.Nodup
import SpriteStage.Proofs.History

set_option autoImplicit false

namespace SpriteStage

/-! ## Creations and removals -/

/-- The kind of element that a call asks for. -/
def Call.creates? : Call → Option Kind
  | .createTextView _ => some .textView
  | .createButton _ => some .button
  | .createCanvas .. => some .canvas
  | .createBitmap .. => some .sprite
  | .createText .. => some .sprite
  | _ => none

/-- The element that a call takes away, if it is there. -/
def Call.removes? : Call → Option (Kind × Ident)
  | .removeTextView id => some (.textView, id)
  | .canvasDeleteBitmap id => some (.sprite, id)
  | _ => none

/-- The element that an entry tells the creation of, with the id that was replied. -/
def Entry.created? (e : Entry) : Option (Kind × Ident) :=
  match e.call.creates?, e.result with
  | some k, .ok (.id id) => some (k, id)
  | _, _ => none

@[simp] theorem Entry.created?_error (c : Call) (fault : Fault) :
    (⟨c, .error fault⟩ : Entry).created? = none := by
  unfold Entry.created?
  split
  · next h => cases h
  · rfl

/-- Elements that were created and not removed since. -/
def Live (k : Kind) (id : Ident) (past : List Entry) : Prop :=
  ∃ before origin since, past = before ++ origin :: since ∧
    origin.created? = some (k, id) ∧ ∀ e ∈ since, e.call.removes? ≠ some (k, id)

theorem not_live_nil (k : Kind) (id : Ident) : ¬ Live k id [] := by
  rintro ⟨before, origin, since, hsplit, -⟩
  simp at hsplit

/-- The entry that a past with one more entry is split at is the new one, or it is an earlier one and
the new one belongs to what follows it. -/
theorem exists_split_concat {P Q : Entry → Prop} {past : List Entry} {e : Entry} :
    (∃ before origin since, past ++ [e] = before ++ origin :: since ∧
        P origin ∧ ∀ e' ∈ since, Q e') ↔
      P e ∨ (∃ before origin since, past = before ++ origin :: since ∧
        P origin ∧ ∀ e' ∈ since, Q e') ∧ Q e := by
  constructor
  · rintro ⟨before, origin, since, hsplit, horigin, hsince⟩
    rcases List.eq_nil_or_concat since with rfl | ⟨since, last, rfl⟩
    · obtain ⟨-, heq⟩ := List.append_inj' hsplit rfl
      cases heq
      exact .inl horigin
    · rw [List.concat_eq_append] at hsplit hsince
      rw [← List.cons_append, ← List.append_assoc] at hsplit
      obtain ⟨rfl, heq⟩ := List.append_inj' hsplit rfl
      cases heq
      refine .inr ⟨⟨before, origin, since, rfl, horigin, fun e he => ?_⟩, ?_⟩
      · exact hsince e (List.mem_append_left _ he)
      · exact hsince _ (List.mem_append_right _ List.mem_cons_self)
  · rintro (horigin | ⟨⟨before, origin, since, rfl, horigin, hsince⟩, hlast⟩)
    · exact ⟨past, e, [], rfl, horigin, fun _ he => absurd he List.not_mem_nil⟩
    · refine ⟨before, origin, since ++ [e], by simp, horigin, fun e' he' => ?_⟩
      rcases List.mem_append.mp he' with he' | he'
      · exact hsince e' he'
      · rw [List.mem_singleton.mp he']
        exact hlast

/-- With one more entry, an element is live if it was just created, or if it was live before and was
not just removed. -/
theorem live_concat {k : Kind} {id : Ident} {past : List Entry} {e : Entry} :
    Live k id (past ++ [e]) ↔
      e.created? = some (k, id) ∨ Live k id past ∧ e.call.removes? ≠ some (k, id) :=
  exists_split_concat

/-! ## Elements on the stage -/

namespace Table

variable {α : Type}

theorem isSome_find?_insert (t : Table α) (id : Ident) (a : α) (k : Ident) :
    ((t.insert id a).find? k).isSome ↔ id = k ∨ (t.find? k).isSome := by
  rw [find?_insert, eq_comm (b := k)]
  split <;> simp_all

theorem isSome_find?_erase (t : Table α) (id k : Ident) :
    ((t.erase id).find? k).isSome ↔ (t.find? k).isSome ∧ id ≠ k := by
  rw [find?_erase, ne_comm]
  split <;> simp_all

/-- Storing another value under an id that has one changes nothing about which ids have one. -/
theorem isSome_find?_replace {t : Table α} {id : Ident} {b : α} (h : t.find? id = some b) (a : α)
    (k : Ident) : ((t.insert id a).find? k).isSome ↔ (t.find? k).isSome := by
  rw [isSome_find?_insert]
  constructor
  · rintro (rfl | hk)
    · rw [h]
      rfl
    · exact hk
  · exact .inr

end Table

/-- Whether an element is on the stage. -/
def Stage.has {σ : Type} (s : Stage σ) : Kind → Ident → Prop
  | .textView, id => (s.textViews.find? id).isSome
  | .button, id => (s.buttons.find? id).isSome
  | .canvas, id => (s.canvases.find? id).isSome
  | .sprite, id => (s.sprites.find? id).isSome

namespace Stage

variable {σ : Type} {s : Stage σ}

/-- A changed sprite is stored where it was found. -/
theorem Sound.has_storeSprite (hs : s.Sound) {target : Ident} {old new : Sprite}
    (hfind : s.sprites.find? target = some old) (hid : new.id = old.id) (k : Kind) (id : Ident) :
    (s.storeSprite new).has k id ↔ s.has k id := by
  cases k with
  | sprite =>
    refine Table.isSome_find?_replace (b := old) ?_ new id
    rw [hid, (hs.sprite hfind).id_eq]
    exact hfind
  | _ => exact .rfl

/-- A changed canvas is stored where it was found. -/
theorem has_storeCanvas {target : Ident} {old : Canvas} (hfind : s.canvases.find? target = some old)
    (new : Canvas) (k : Kind) (id : Ident) : (s.storeCanvas target new).has k id ↔ s.has k id := by
  cases k with
  | canvas => exact Table.isSome_find?_replace hfind new id
  | _ => exact .rfl

end Stage

/-- Entries that say what has become of the elements of a stage: one was added, or one was taken
away, or neither. -/
def Entry.Accounts {σ : Type} (e : Entry) (s s' : Stage σ) : Prop :=
  ∀ k id, s'.has k id ↔
    e.created? = some (k, id) ∨ s.has k id ∧ e.call.removes? ≠ some (k, id)

theorem Entry.accounts_of_kept {σ : Type} {e : Entry} {s s' : Stage σ}
    (hc : e.call.creates? = none) (hr : e.call.removes? = none)
    (hsame : ∀ k id, s'.has k id ↔ s.has k id) : e.Accounts s s' := by
  intro k id
  have hcreated : e.created? = none := by
    unfold Entry.created?
    rw [hc]
  rw [hcreated, hr, hsame]
  simp

namespace Host

variable {σ : Type} [EventSink σ] {h h' : Host σ} {c : Call} {reply : Reply}

/-- An accepted call adds the element that it creates and takes away the one that it removes. -/
theorem Accepts.accounts (ha : h.Accepts c reply h') (hs : h.stage.Sound) :
    (⟨c, .ok reply⟩ : Entry).Accounts h.stage h'.stage := by
  cases ha with
  | createTextView | createButton | createCanvas | createBitmap | createText =>
    intro k id
    cases k <;> simp [Stage.has, Stage.storeSprite, SpriteTable.store, SpriteTable.find?,
      Entry.created?, Call.creates?, Call.removes?, Table.isSome_find?_insert]
  | removeTextView | canvasDeleteBitmap =>
    intro k id
    cases k <;> simp [Stage.has, SpriteTable.delete, SpriteTable.find?, Entry.created?,
      Call.creates?, Call.removes?, Table.isSome_find?_erase]
  | removeNoTextView absent =>
    -- the element that the call names was not there to begin with
    intro k id
    cases k with
    | textView =>
      simp only [Stage.has, Entry.created?, Call.creates?, Call.removes?, reduceCtorEq, false_or]
      refine (and_iff_left_of_imp fun hsome heq => ?_).symm
      cases heq
      rw [absent] at hsome
      cases hsome
    | _ => simp [Entry.created?, Call.creates?, Call.removes?]
  | modifyTextView found text =>
    refine Entry.accounts_of_kept rfl rfl fun k id => ?_
    cases k with
    | textView => exact Table.isSome_find?_replace found text id
    | _ => exact .rfl
  | setText found | modifyBitmap found | bitmapSetPixels found | bitmapSetPosition found
  | bitmapSetZIndex found =>
    exact Entry.accounts_of_kept rfl rfl (hs.has_storeSprite found (by rfl))
  | canvasAddBitmap live found | canvasRemoveBitmap found | canvasRedraw found =>
    exact Entry.accounts_of_kept rfl rfl (Stage.has_storeCanvas (by assumption) _)
  | registerOnClick | registerOnTick | pressButton =>
    exact Entry.accounts_of_kept rfl rfl fun k id => by cases k <;> rfl

omit [EventSink σ] in
/-- Removals are never refused. -/
theorem Refuses.removes?_eq {fault : Fault} (hr : h.Refuses c fault) : c.removes? = none := by
  cases hr <;> rfl

/-- **What there is.** After every run, an element is on the stage exactly if it was created and not
removed since. -/
theorem has_run_iff (settings : Settings) (sink : σ) (calls : List Call) (k : Kind) (id : Ident) :
    ((start settings sink).run calls).stage.has k id ↔
      Live k id ((start settings sink).history calls) := by
  refine run_induction (motive := fun past h => h.stage.has k id ↔ Live k id past) settings sink
    ?_ (fun {calls c reply h'} ih ha => ?_) (fun ih hr => ?_) calls
  · refine iff_of_false ?_ (not_live_nil k id)
    cases k <;> exact Bool.false_ne_true
  · rw [ha.accounts (sound_run settings sink calls), live_concat, ih]
  · rw [live_concat, ih, Entry.created?_error, hr.removes?_eq]
    simp

end Host

/-- Canvases and buttons are never removed, so they are live from their creation on. -/
theorem live_iff_created {k : Kind} (hk : k = .canvas ∨ k = .button) {id : Ident}
    {past : List Entry} : Live k id past ↔ ∃ e ∈ past, e.created? = some (k, id) := by
  constructor
  · rintro ⟨before, origin, since, rfl, hcreated, -⟩
    exact ⟨origin, by simp, hcreated⟩
  · rintro ⟨origin, hmem, hcreated⟩
    obtain ⟨before, since, rfl⟩ := List.append_of_mem hmem
    refine ⟨before, origin, since, rfl, hcreated, fun e _ hr => ?_⟩
    cases hc : e.call <;> rw [hc] at hr <;> cases hr <;> simp at hk

/-! ## The last creation of an id -/

/-- A past that is split at the last creation of a live element. -/
structure Lineage (k : Kind) (id : Ident) (past before : List Entry) (origin : Entry)
    (since : List Entry) : Prop where
  split : past = before ++ origin :: since
  created : origin.created? = some (k, id)
  last : ∀ e ∈ since, e.created? ≠ some (k, id)
  kept : ∀ e ∈ since, e.call.removes? ≠ some (k, id)

namespace Lineage

variable {k : Kind} {id : Ident} {past before before' since since' : List Entry}
  {origin origin' e : Entry}

theorem live (hl : Lineage k id past before origin since) : Live k id past :=
  ⟨before, origin, since, hl.split, hl.created, hl.kept⟩

theorem of_created (h : e.created? = some (k, id)) : Lineage k id (past ++ [e]) past e [] :=
  ⟨rfl, h, fun _ he => absurd he List.not_mem_nil, fun _ he => absurd he List.not_mem_nil⟩

theorem concat (hl : Lineage k id past before origin since) (hc : e.created? ≠ some (k, id))
    (hr : e.call.removes? ≠ some (k, id)) :
    Lineage k id (past ++ [e]) before origin (since ++ [e]) where
  split := by simp [hl.split]
  created := hl.created
  last := by
    intro e' he'
    rcases List.mem_append.mp he' with he' | he'
    · exact hl.last e' he'
    · rw [List.mem_singleton.mp he']
      exact hc
  kept := by
    intro e' he'
    rcases List.mem_append.mp he' with he' | he'
    · exact hl.kept e' he'
    · rw [List.mem_singleton.mp he']
      exact hr

/-- The last creation of an id is one entry of the past. -/
theorem unique (hl : Lineage k id past before origin since)
    (hl' : Lineage k id past before' origin' since') : origin = origin' ∧ since = since' := by
  -- were the splits different, the later creation would be among what follows the earlier one
  have hno {b b' s s' : List Entry} {o o' : Entry} {mid : List Entry}
      (h : Lineage k id past b o s) (h' : Lineage k id past b' o' s')
      (heq : o :: s = mid ++ o' :: s') : o = o' ∧ s = s' := by
    cases mid with
    | nil => exact List.cons.inj heq
    | cons first rest =>
      obtain ⟨-, rfl⟩ := List.cons.inj heq
      exact absurd h'.created (h.last o' (by simp))
  have hsplit := hl.split.symm.trans hl'.split
  rcases List.append_eq_append_iff.mp hsplit with ⟨mid, -, heq⟩ | ⟨mid, -, heq⟩
  · exact hno hl hl' heq
  · obtain ⟨ho, hs⟩ := hno hl' hl heq
    exact ⟨ho.symm, hs.symm⟩

end Lineage

/-! ## The ids of a history -/

/-- The id of a kind that an entry tells the creation of. -/
def Entry.issues? (k : Kind) (e : Entry) : Option Ident :=
  e.created?.bind fun (j, id) => if j = k then some id else none

theorem Entry.issues?_eq_some {k : Kind} {e : Entry} {id : Ident} :
    e.issues? k = some id ↔ e.created? = some (k, id) := by
  unfold Entry.issues?
  cases e.created? with
  | none => simp
  | some created =>
    obtain ⟨j, i⟩ := created
    by_cases hj : j = k <;> simp [hj]

/-- Entries that say what has become of the counters: for each kind the next id was issued, or none
was. -/
def Entry.Counts (e : Entry) (before after : Counters) : Prop :=
  ∀ k, (e.issues? k = none ∧ after.last k = before.last k) ∨
    (e.issues? k = some (before.next k) ∧ after.last k = before.next k)

theorem Entry.counts_of_created {e : Entry} {k : Kind} {counters : Counters}
    (h : e.created? = some (k, counters.next k)) : e.Counts counters (counters.advance k) := by
  intro j
  by_cases hj : j = k
  · subst hj
    exact .inr ⟨Entry.issues?_eq_some.mpr h, Counters.last_advance_self counters j⟩
  · refine .inl ⟨?_, Counters.last_advance_of_ne counters hj⟩
    rw [Option.eq_none_iff_forall_ne_some]
    intro id hid
    cases h.symm.trans (Entry.issues?_eq_some.mp hid)
    exact hj rfl

/-- The ids of a kind in the order in which they were issued. -/
def issued (k : Kind) (past : List Entry) : List Ident := past.filterMap (Entry.issues? k)

theorem issued_concat (k : Kind) (past : List Entry) (e : Entry) :
    issued k (past ++ [e]) = issued k past ++ (e.issues? k).toList := by
  rw [issued, List.filterMap_append, ← issued]
  cases h : e.issues? k <;> simp [h]

theorem mem_issued {k : Kind} {past : List Entry} {id : Ident} :
    id ∈ issued k past ↔ ∃ e ∈ past, e.created? = some (k, id) := by
  simp only [issued, List.mem_filterMap, Entry.issues?_eq_some]

/-- The first so many ids, counted from one. -/
def numbered (n : Nat) : List Ident := (List.range n).map fun i => UInt32.ofNat (i + 1)

theorem numbered_succ (n : Nat) : numbered (n + 1) = numbered n ++ [UInt32.ofNat (n + 1)] := by
  rw [numbered, List.range_succ, List.map_append]
  rfl

/-- As long as a counter has not gone around, its ids are different. -/
theorem nodup_numbered {n : Nat} (hn : n < 2 ^ 32) : (numbered n).Nodup := by
  refine List.nodup_range.map_on fun i hi j hj heq => ?_
  rw [List.mem_range] at hi hj
  have hsize : UInt32.size = 2 ^ 32 := rfl
  have hnat := congrArg UInt32.toNat heq
  rw [UInt32.toNat_ofNat_of_lt' (by omega), UInt32.toNat_ofNat_of_lt' (by omega)] at hnat
  omega

namespace Host

variable {σ : Type} [EventSink σ] {h h' : Host σ} {c : Call} {reply : Reply}

/-- An accepted call issues the next id of a kind and advances its counter, or does neither. -/
theorem Accepts.counts (ha : h.Accepts c reply h') :
    (⟨c, .ok reply⟩ : Entry).Counts h.stage.counters h'.stage.counters := by
  cases ha with
  | createTextView | createButton | createCanvas | createBitmap | createText =>
    exact Entry.counts_of_created rfl
  | _ => exact fun k => .inl ⟨rfl, rfl⟩

/-- **Ids count up.** The ids of a kind are the numbers from one in the order of creation, and the
counter stands at the number of creations. -/
theorem issued_run (settings : Settings) (sink : σ) (calls : List Call) (k : Kind) :
    let past := (start settings sink).history calls
    issued k past = numbered (issued k past).length ∧
      ((start settings sink).run calls).stage.counters.last k =
        UInt32.ofNat (issued k past).length := by
  refine run_induction (motive := fun past h =>
    issued k past = numbered (issued k past).length ∧
      h.stage.counters.last k = UInt32.ofNat (issued k past).length) settings sink
    ?_ (fun {calls c reply h'} ih ha => ?_) (fun ih hr => ?_) calls
  · exact ⟨rfl, by cases k <;> rfl⟩
  · obtain ⟨hids, hlast⟩ := ih
    rcases ha.counts k with ⟨hnone, hcount⟩ | ⟨hnext, hcount⟩
    · rw [issued_concat, hnone, Option.toList_none, List.append_nil, hcount]
      exact ⟨hids, hlast⟩
    · have hid : ((start settings sink).run calls).stage.counters.next k =
          UInt32.ofNat ((issued k ((start settings sink).history calls)).length + 1) := by
        rw [Counters.next, hlast, UInt32.ofNat_add]
        rfl
      rw [issued_concat, hnext, Option.toList_some, List.length_append, List.length_singleton,
        numbered_succ, ← hids, hcount, hid]
      exact ⟨rfl, rfl⟩
  · rw [issued_concat, Entry.issues?, Entry.created?_error, Option.bind_none, Option.toList_none,
      List.append_nil]
    exact ih

/-- **No id twice.** Before the last creation of an id there was none, as long as the counter of the
kind has not gone around. -/
theorem created_once {settings : Settings} {sink : σ} {calls : List Call} {k : Kind} {id : Ident}
    {before since : List Entry} {origin : Entry}
    (hl : Lineage k id ((start settings sink).history calls) before origin since)
    (hfew : (issued k ((start settings sink).history calls)).length < 2 ^ 32) :
    ∀ e ∈ before, e.created? ≠ some (k, id) := by
  intro e he hcreated
  have hnodup := nodup_numbered hfew
  rw [← (issued_run settings sink calls k).1, hl.split, issued, List.filterMap_append,
    List.filterMap_cons_some (Entry.issues?_eq_some.mpr hl.created)] at hnodup
  have hdisjoint := (List.nodup_append.mp hnodup).2.2
  exact hdisjoint id (mem_issued.mpr ⟨e, he, hcreated⟩) id List.mem_cons_self rfl

end Host

end SpriteStage
