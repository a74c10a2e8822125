/-
References as a history of attachments.

The references of a canvas are a list that three calls change: the creation of the canvas empties it,
an attachment adds to its end, a detachment takes the first reference to a sprite out. A deletion of
a sprite does not. So the list can be computed from the history, without a look at sprites or at
what became of them (`Host.references_run`).

Counting along this computation gives a bound: a sprite is not referred to more often than it was
attached since its creation (`Host.count_references_le`). This needs that ids are not issued twice,
for a reference left behind would otherwise count for the sprite that got its id.
-/
import SpriteStage.Proofs.Failures
import SpriteStage.Proofs.Numbering

set_option autoImplicit false

namespace SpriteStage

/-! ## Wirings -/

/-- A change of the references of a canvas. -/
inductive Wiring where
  | reset
  | attach (sprite : Ident)
  | detach (sprite : Ident)
deriving DecidableEq

/-- What a wiring makes of a list of references. -/
def Wiring.apply (refs : List Ident) : Wiring → List Ident
  | reset => []
  | attach sprite => refs ++ [sprite]
  | detach sprite => refs.erase sprite

/-- The wiring of an entry, with the canvas that it goes to. A failed call wires nothing. -/
def Entry.wiring? : Entry → Option (Ident × Wiring)
  | ⟨.createCanvas .., .ok (.id canvas)⟩ => some (canvas, .reset)
  | ⟨.canvasAddBitmap canvas sprite, .ok _⟩ => some (canvas, .attach sprite)
  | ⟨.canvasRemoveBitmap canvas sprite, .ok _⟩ => some (canvas, .detach sprite)
  | _ => none

/-- The wiring of an entry to one canvas. -/
def Entry.wiringOf? (canvas : Ident) (e : Entry) : Option Wiring :=
  e.wiring?.bind fun (target, w) => if target = canvas then some w else none

/-- The wirings of one canvas, the first one first. -/
def wiringsOf (canvas : Ident) (past : List Entry) : List Wiring :=
  past.filterMap (Entry.wiringOf? canvas)

theorem wiringsOf_append (canvas : Ident) (past more : List Entry) :
    wiringsOf canvas (past ++ more) = wiringsOf canvas past ++ wiringsOf canvas more :=
  List.filterMap_append

theorem wiringsOf_singleton (canvas : Ident) (e : Entry) :
    wiringsOf canvas [e] = (e.wiringOf? canvas).toList := rfl

theorem Entry.wiringOf?_error (canvas : Ident) (c : Call) (fault : Fault) :
    (⟨c, .error fault⟩ : Entry).wiringOf? canvas = none := by
  cases c <;> rfl

theorem Entry.wiring?_of_wiringOf? {canvas : Ident} {e : Entry} {w : Wiring}
    (h : e.wiringOf? canvas = some w) : e.wiring? = some (canvas, w) := by
  rw [wiringOf?, Option.bind_eq_some_iff] at h
  obtain ⟨⟨target, w'⟩, hwiring, hw⟩ := h
  have hif : (if target = canvas then some w' else none) = some w := hw
  by_cases heq : target = canvas
  · rw [if_pos heq] at hif
    rw [hwiring, heq, Option.some.inj hif]
  · rw [if_neg heq] at hif
    cases hif

theorem Entry.attached_of_wiringOf? {canvas sprite : Ident} {e : Entry}
    (h : e.wiringOf? canvas = some (.attach sprite)) :
    e.call = .canvasAddBitmap canvas sprite ∧ ∃ reply, e.result = .ok reply := by
  have hwiring := Entry.wiring?_of_wiringOf? h
  unfold wiring? at hwiring
  split at hwiring
  · cases hwiring
  · next reply =>
    cases hwiring
    exact ⟨rfl, reply, rfl⟩
  · cases hwiring
  · cases hwiring

theorem Entry.detached_of_wiringOf? {canvas sprite : Ident} {e : Entry}
    (h : e.wiringOf? canvas = some (.detach sprite)) :
    e.call = .canvasRemoveBitmap canvas sprite := by
  have hwiring := Entry.wiring?_of_wiringOf? h
  unfold wiring? at hwiring
  split at hwiring
  · cases hwiring
  · cases hwiring
  · cases hwiring
    rfl
  · cases hwiring

theorem Entry.created?_of_reset {canvas : Ident} {e : Entry}
    (h : e.wiringOf? canvas = some .reset) : e.created? = some (.canvas, canvas) := by
  have hwiring := Entry.wiring?_of_wiringOf? h
  unfold wiring? at hwiring
  split at hwiring
  · cases hwiring
    rfl
  · cases hwiring
  · cases hwiring
  · cases hwiring

/-- The creation of a sprite wires nothing. -/
theorem Entry.wiringOf?_of_created {canvas id : Ident} {e : Entry}
    (h : e.created? = some (.sprite, id)) : e.wiringOf? canvas = none := by
  obtain ⟨c, result⟩ := e
  rcases Entry.text_or_bitmap h with ⟨content, color, size, hcall⟩ | ⟨width, height, hcall⟩
  · subst hcall
    rfl
  · subst hcall
    rfl

/-! ## Counting references -/

/-- Each wiring adds at most the reference that it attaches. -/
theorem count_apply_le (id : Ident) (ws : List Wiring) (refs : List Ident) :
    (ws.foldl Wiring.apply refs).count id ≤ refs.count id + ws.count (.attach id) := by
  induction ws generalizing refs with
  | nil => exact Nat.le_refl _
  | cons w rest ih =>
    have hrest := ih (Wiring.apply refs w)
    rw [List.foldl_cons, List.count_cons]
    cases w with
    | reset =>
      rw [Wiring.apply, List.count_nil] at hrest
      rw [Wiring.apply]
      omega
    | attach sprite =>
      rw [Wiring.apply, List.count_append, List.count_singleton] at hrest
      rw [Wiring.apply]
      by_cases heq : sprite = id
      · rw [heq, if_pos (beq_self_eq_true id)] at hrest
        rw [heq, if_pos (beq_self_eq_true _)]
        omega
      · rw [if_neg (by simpa using heq)] at hrest
        omega
    | detach sprite =>
      have herase : (refs.erase sprite).count id ≤ refs.count id :=
        List.erase_sublist.count_le id
      rw [Wiring.apply] at hrest
      rw [Wiring.apply]
      omega

/-- Without attachments and without a reset, a sprite loses one reference for each detachment. -/
theorem count_apply_eq {id : Ident} {ws : List Wiring} (hreset : .reset ∉ ws)
    (hattach : .attach id ∉ ws) (refs : List Ident) :
    (ws.foldl Wiring.apply refs).count id = refs.count id - ws.count (.detach id) := by
  induction ws generalizing refs with
  | nil => rfl
  | cons w rest ih =>
    rw [List.mem_cons, not_or] at hreset hattach
    rw [List.foldl_cons, ih hreset.2 hattach.2, List.count_cons]
    cases w with
    | reset => exact absurd rfl hreset.1
    | attach sprite =>
      have hne : sprite ≠ id := fun heq => hattach.1 (congrArg Wiring.attach heq.symm)
      rw [Wiring.apply, List.count_append, List.count_singleton, if_neg (by simpa using hne),
        if_neg (by simp)]
      rfl
    | detach sprite =>
      rw [Wiring.apply]
      by_cases heq : sprite = id
      · rw [heq, List.count_erase_self, if_pos (beq_self_eq_true _)]
        omega
      · rw [List.count_erase_of_ne (Ne.symm heq), if_neg (by simpa using heq)]
        rfl

/-! ## References on the stage -/

/-- The references of a canvas; there are none where there is no canvas. -/
def Stage.references {σ : Type} (s : Stage σ) (canvas : Ident) : List Ident :=
  ((s.canvases.find? canvas).map Canvas.references).getD []

namespace Stage

variable {σ : Type} {s : Stage σ} {canvas : Ident} {c : Canvas}

theorem references_of_find? (h : s.canvases.find? canvas = some c) :
    s.references canvas = c.references := by
  rw [references, h]
  rfl

theorem has_of_references (h : s.references canvas ≠ []) : s.has .canvas canvas := by
  cases hfind : s.canvases.find? canvas with
  | none =>
    rw [references, hfind] at h
    exact absurd rfl h
  | some c => exact Option.isSome_of_eq_some hfind

theorem references_storeCanvas (target : Ident) (c : Canvas) (canvas : Ident) :
    (s.storeCanvas target c).references canvas =
      if target = canvas then c.references else s.references canvas := by
  rw [references, storeCanvas, Table.find?_insert]
  by_cases h : canvas = target
  · rw [if_pos h, if_pos h.symm]
    rfl
  · rw [if_neg h, if_neg (Ne.symm h)]
    rfl

/-- Storing a canvas whose references were wired wires the references of that canvas only. -/
theorem references_wired {target : Ident} {w : Wiring}
    (h : c.references = w.apply (s.references target)) (canvas : Ident) :
    (s.storeCanvas target c).references canvas =
      (if target = canvas then some w else none).toList.foldl Wiring.apply
        (s.references canvas) := by
  rw [references_storeCanvas]
  by_cases heq : target = canvas
  · subst heq
    rw [if_pos rfl, if_pos rfl]
    exact h
  · rw [if_neg heq, if_neg heq]
    rfl

end Stage

namespace Host

variable {σ : Type} [EventSink σ] {h h' : Host σ} {c : Call} {reply : Reply}

/-- An accepted call wires the references of a canvas as its entry says. -/
theorem Accepts.references (ha : h.Accepts c reply h') (canvas : Ident) :
    h'.stage.references canvas =
      ((⟨c, .ok reply⟩ : Entry).wiringOf? canvas).toList.foldl Wiring.apply
        (h.stage.references canvas) := by
  cases ha with
  | createCanvas within =>
    exact Stage.references_wired (s := h.stage) (w := .reset) rfl canvas
  | canvasAddBitmap live found =>
    refine Stage.references_wired (w := .attach _) ?_ canvas
    rw [Stage.references_of_find? found]
    rfl
  | canvasRemoveBitmap found sprite =>
    refine Stage.references_wired (w := .detach sprite) ?_ canvas
    rw [Stage.references_of_find? found]
    rfl
  | canvasRedraw found =>
    -- the redrawn canvas has the references that it had
    rw [stage_put, Stage.references_storeCanvas]
    split
    · next heq =>
      subst heq
      exact (Stage.references_of_find? found).symm
    · rfl
  | _ => rfl

/-- A call wires the references of a canvas as its entry says. -/
theorem references_after (hs : h.stage.Sound) (c : Call) (canvas : Ident) :
    (h.after c).stage.references canvas =
      ((⟨c, h.answer c⟩ : Entry).wiringOf? canvas).toList.foldl Wiring.apply
        (h.stage.references canvas) := by
  rcases answer_cases hs c with ⟨reply, hanswer, ha⟩ | ⟨fault, hanswer, hafter, -⟩
  · rw [hanswer]
    exact ha.references canvas
  · rw [hanswer, hafter, Entry.wiringOf?_error]
    rfl

/-- Only live sprites are attached. -/
theorem Accepts.live_of_attach (ha : h.Accepts c reply h') {canvas sprite : Ident}
    (hw : (⟨c, .ok reply⟩ : Entry).wiringOf? canvas = some (.attach sprite)) :
    h.stage.has .sprite sprite := by
  have hwiring := Entry.wiring?_of_wiringOf? hw
  cases ha with
  | canvasAddBitmap live found =>
    cases hwiring
    exact Option.isSome_of_eq_some live
  | _ => cases hwiring

variable (settings : Settings) (sink : σ) (calls : List Call) (canvas : Ident)

/-- **References are wirings.** After every run the references of a canvas are what the wirings of
its history make of none. -/
theorem references_run :
    ((start settings sink).run calls).stage.references canvas =
      (wiringsOf canvas ((start settings sink).history calls)).foldl Wiring.apply [] := by
  induction calls using List.reverseRecOn with
  | nil => rfl
  | append_singleton calls c ih =>
    rw [run_concat, history_concat, references_after (sound_run settings sink calls), ih,
      wiringsOf_append, List.foldl_append, wiringsOf_singleton]

/-- The calls that follow a run wire on from the references that it left. -/
theorem references_run_append (more : List Call) :
    ((start settings sink).run (calls ++ more)).stage.references canvas =
      (wiringsOf canvas (((start settings sink).run calls).history more)).foldl Wiring.apply
        (((start settings sink).run calls).stage.references canvas) := by
  rw [references_run, references_run, history_append, wiringsOf_append, List.foldl_append]

/-- Every reference has an id that was issued, for the sprite was live when it was attached. -/
theorem mem_issued_of_reference : ∀ id ∈ ((start settings sink).run calls).stage.references canvas,
    id ∈ issued .sprite ((start settings sink).history calls) := by
  refine run_induction (motive := fun past h =>
    ∀ id ∈ h.stage.references canvas, id ∈ issued .sprite past) settings sink
    (fun _ hid => absurd hid List.not_mem_nil) (fun {calls c reply h'} ih ha => ?_)
    (fun ih _ => ?_) calls
  · intro id hid
    rw [issued_concat]
    refine List.mem_append_left _ ?_
    rw [ha.references canvas] at hid
    cases hw : (⟨c, .ok reply⟩ : Entry).wiringOf? canvas with
    | none =>
      rw [hw] at hid
      exact ih id hid
    | some w =>
      rw [hw, Option.toList_some, List.foldl_cons, List.foldl_nil] at hid
      cases w with
      | reset => exact absurd hid List.not_mem_nil
      | detach sprite => exact ih id (List.mem_of_mem_erase hid)
      | attach sprite =>
        rcases List.mem_append.mp hid with hold | hnew
        · exact ih id hold
        · rw [List.mem_singleton.mp hnew]
          exact mem_issued_of_live
            ((has_run_iff settings sink calls .sprite sprite).mp (ha.live_of_attach hw))
  · intro id hid
    rw [issued_concat]
    exact List.mem_append_left _ (ih id hid)

/-- **References are attachments.** A sprite is not referred to more often than it was attached since
its creation. -/
theorem count_references_le (hfew : Unexhausted ((start settings sink).history calls)) {id : Ident}
    {earlier later : List Entry} {origin : Entry}
    (hsplit : (start settings sink).history calls = earlier ++ origin :: later)
    (hcreated : origin.created? = some (.sprite, id)) :
    (((start settings sink).run calls).stage.references canvas).count id ≤
      (wiringsOf canvas later).count (.attach id) := by
  -- the entries before the creation are the history of a shorter run, which has not issued the id
  have hearlier : earlier = (start settings sink).history (calls.take earlier.length) := by
    rw [← take_history, hsplit, List.take_left]
  have hfresh : id ∉ issued .sprite earlier := by
    intro hid
    refine not_mem_issued_later hfew hsplit hid ?_
    exact mem_issued.mpr ⟨origin, List.mem_cons_self, hcreated⟩
  have hbefore : ((wiringsOf canvas earlier).foldl Wiring.apply []).count id = 0 := by
    rw [List.count_eq_zero, hearlier, ← references_run]
    intro hid
    rw [hearlier] at hfresh
    exact hfresh (mem_issued_of_reference settings sink _ canvas id hid)
  -- neither does the creation itself attach anything
  have horigin : wiringsOf canvas (origin :: later) = wiringsOf canvas later :=
    List.filterMap_cons_none (Entry.wiringOf?_of_created hcreated)
  rw [references_run, hsplit, wiringsOf_append, List.foldl_append, horigin]
  have hbound := count_apply_le id (wiringsOf canvas later)
    ((wiringsOf canvas earlier).foldl Wiring.apply [])
  rw [hbefore, Nat.zero_add] at hbound
  exact hbound

end Host

end SpriteStage
