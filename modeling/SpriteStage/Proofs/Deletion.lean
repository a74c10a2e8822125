/-
Deleted sprites.

Nothing looks at the canvases when a sprite is deleted: references to it stay, and resolve to
nothing. That they never resolve again rests on three facts. A reference has an id that was issued
(`Host.mem_issued_of_reference`), an id that was issued is not issued again
(`Host.not_mem_issued_later`), and what is on the stage was created and not removed since
(`Host.has_run_iff`). So whatever calls follow a deletion, the sprite is not on the stage
(`Host.absent_after_deletion`), and a stage without a sprite refuses to touch it and never shows it
(`Host.gone_of_absent`).
-/
import SpriteStage.Proofs.Redraw
import SpriteStage.Proofs.References

set_option autoImplicit false

namespace SpriteStage

/-! ## Deletion and plans -/

/-- Deleting a sprite hides what has its id. -/
theorem Stage.Sound.find?_delete {σ : Type} {s : Stage σ} (hs : s.Sound) (id ref : Ident) :
    (s.sprites.delete id).find? ref =
      (s.sprites.find? ref).filter fun l => l.id ≠ id := by
  rw [SpriteTable.find?_delete]
  cases href : s.sprites.find? ref with
  | none => rw [ite_self, Option.filter_none]
  | some l =>
    rw [Option.filter_some, (hs.sprite href).id_eq]
    by_cases heq : ref = id
    · rw [if_pos heq, if_neg (by simpa using heq)]
    · rw [if_neg heq, if_pos (by simpa using heq)]

namespace Canvas

variable {σ : Type} {s : Stage σ} (c : Canvas) (clear : Argb)

/-- A plan paints a live sprite as often as the canvas refers to it. -/
theorem count_ops (hs : s.Sound) {id : Ident} {sp : Sprite}
    (hfind : s.sprites.find? id = some sp) :
    (c.plan s.sprites clear).ops.count sp = c.references.count id := by
  rw [(c.ops_perm s.sprites clear).count_eq, List.count_eq_countP, List.countP_filterMap,
    List.count_eq_countP]
  -- a reference resolves to the sprite exactly if it is its id
  refine List.countP_congr fun ref _ => ?_
  cases href : s.sprites.find? ref with
  | none =>
    have hne : ref ≠ id := by
      rintro rfl
      cases href.symm.trans hfind
    simp [hne]
  | some sp' =>
    have hid := (hs.sprite hfind).id_eq
    have hid' := (hs.sprite href).id_eq
    rw [Option.map_some, Option.getD_some, beq_iff_eq, beq_iff_eq]
    constructor
    · intro heq
      rw [← hid, ← hid', heq]
    · intro heq
      rw [heq, hfind] at href
      exact (Option.some.inj href).symm

/-- Deleting a sprite takes it out of every plan and leaves the rest of the plan as it is. -/
theorem ops_delete (hs : s.Sound) (id : Ident) :
    (c.plan (s.sprites.delete id) clear).ops =
      (c.plan s.sprites clear).ops.filter fun l => l.id ≠ id := by
  have hresolve := funext (hs.find?_delete id)
  have hperm : (c.plan (s.sprites.delete id) clear).ops.Perm
      ((c.plan s.sprites clear).ops.filter fun l => l.id ≠ id) := by
    refine (c.ops_perm _ clear).trans (.trans (.of_eq ?_) ((c.ops_perm _ clear).filter _).symm)
    rw [List.filter_filterMap, hresolve]
  refine Sprite.eq_of_painting_order hperm (c.ops_pairwise _ clear)
    ((c.ops_pairwise s.sprites clear).filter _) ?_
  intro l hl m hm
  exact eq_of_mem_ops hs.keyed l (List.mem_filter.mp hl).1 m (List.mem_filter.mp hm).1

end Canvas

/-! ## Stages without a sprite -/

/-- The sprite that a call fails without. -/
def Call.needs? : Call → Option Ident
  | .setText id _ => some id
  | .modifyBitmap id _ _ _ => some id
  | .bitmapSetPixels id _ => some id
  | .bitmapSetPosition id _ _ => some id
  | .bitmapSetZIndex id _ => some id
  | .canvasAddBitmap _ sprite => some sprite
  | _ => none

/-- Hosts on which a sprite is gone. Calls that need it fail. Of every canvas the plan leaves it out
and has every other sprite as often as the canvas refers to it, and that is what a redraw shows. -/
structure Host.Gone {σ : Type} [EventSink σ] (h : Host σ) (id : Ident) : Prop where
  refused : ∀ c : Call, c.needs? = some id → h.answer c = .error (.notFound .sprite id)
  shown : ∀ {canvas c}, h.stage.canvases.find? canvas = some c →
    ∃ plan r, h.stage.planOf canvas = .ok plan ∧
      h.step (.canvasRedraw canvas) = (.ok (.redrawn canvas (c.raster.frame + 1)),
        h.put (h.stage.storeCanvas canvas { c with raster := r })) ∧
      c.ShownBy h.stage.sprites h.stage.settings.clear plan.ops r ∧
      (∀ l ∈ plan.ops, l.id ≠ id) ∧
      ∀ ref sp, h.stage.sprites.find? ref = some sp → plan.ops.count sp = c.references.count ref

namespace Host

variable {σ : Type} [EventSink σ] {h : Host σ}

omit [EventSink σ] in
theorem refuses_of_absent {id : Ident} (habsent : h.stage.sprites.find? id = none) {c : Call}
    (hneeds : c.needs? = some id) : h.Refuses c (.notFound .sprite id) := by
  have hnone (sp : Sprite) : h.stage.sprites.find? id ≠ some sp := by
    rw [habsent]
    exact Option.some_ne_none sp ∘ Eq.symm
  cases c with
  | setText target text =>
    cases hneeds
    exact .noText (fun sp _ hfind => absurd hfind (hnone sp)) text
  | modifyBitmap target x y color =>
    cases hneeds
    exact .noBitmap (fun sp _ hfind => absurd hfind (hnone sp)) x y color
  | bitmapSetPixels target words =>
    cases hneeds
    exact .noBitmapForPixels (fun sp _ hfind => absurd hfind (hnone sp)) words
  | bitmapSetPosition target left top =>
    cases hneeds
    exact .noSpriteToMove habsent left top
  | bitmapSetZIndex target z =>
    cases hneeds
    exact .noSpriteToLift habsent z
  | canvasAddBitmap canvas sprite =>
    cases hneeds
    exact .noSpriteToAttach habsent canvas
  | _ => cases hneeds

/-- A sprite that is not on a sound stage is gone. -/
theorem gone_of_absent (hs : h.stage.Sound) {id : Ident}
    (habsent : h.stage.sprites.find? id = none) : h.Gone id where
  refused := by
    intro c hneeds
    rw [answer_eq_error_iff hs]
    exact refuses_of_absent habsent hneeds
  shown := by
    intro canvas c hfind
    refine ⟨c.plan h.stage.sprites h.stage.settings.clear, _, ?_,
      step_of_accepts hs (.canvasRedraw hfind), ?_, ?_, ?_⟩
    · rw [Stage.planOf, Stage.canvas, hfind]
      rfl
    · rw [(hs.canvas hfind).raster_extent]
      exact c.shownBy_picture hs h.stage.settings.clear (c.raster.frame + 1)
    · intro l hl heq
      obtain ⟨ref, -, href⟩ := Canvas.mem_ops.mp hl
      rw [← (hs.sprite href).id_eq, heq, habsent] at href
      cases href
    · intro ref sp href
      exact c.count_ops h.stage.settings.clear hs href

end Host

/-! ## After a deletion -/

/-- What was removed and is not created again is not live. -/
theorem not_live_of_removed {k : Kind} {id : Ident} {past later : List Entry} {e : Entry}
    (hremoved : e.call.removes? = some (k, id)) (hold : e.created? = none)
    (hnever : id ∉ issued k later) : ¬ Live k id (past ++ e :: later) := by
  induction later using List.reverseRecOn with
  | nil =>
    rw [live_concat, hold]
    rintro (hcreated | ⟨-, hkept⟩)
    · cases hcreated
    · exact hkept hremoved
  | append_singleton later last ih =>
    rw [mem_issued] at hnever
    push Not at hnever
    rw [← List.cons_append, ← List.append_assoc, live_concat]
    rintro (hcreated | ⟨hlive, -⟩)
    · exact hnever last (List.mem_append_right _ List.mem_cons_self) hcreated
    · refine ih ?_ hlive
      rw [mem_issued]
      rintro ⟨e', he', hcreated⟩
      exact hnever e' (List.mem_append_left _ he') hcreated

namespace Host

variable {σ : Type} [EventSink σ] {settings : Settings} {sink : σ} {before since : List Call}
  {s : Ident}

theorem history_deletion (h : Host σ) (before since : List Call) (s : Ident) :
    h.history (before ++ .canvasDeleteBitmap s :: since) =
      h.history before ++ ⟨.canvasDeleteBitmap s, (h.run before).answer (.canvasDeleteBitmap s)⟩ ::
        ((h.run before).after (.canvasDeleteBitmap s)).history since :=
  h.history_append before _

theorem run_deletion (h : Host σ) (before since : List Call) (s : Ident) :
    h.run (before ++ .canvasDeleteBitmap s :: since) =
      ((h.run before).after (.canvasDeleteBitmap s)).run since :=
  h.run_append before _

/-- No call after a deletion makes anew a canvas that was there before. -/
theorem reset_not_mem_since {canvas : Ident}
    (hcanvas : canvas ∈ issued .canvas ((start settings sink).history before))
    (hfew : Unexhausted
      ((start settings sink).history (before ++ .canvasDeleteBitmap s :: since))) :
    .reset ∉ wiringsOf canvas
      ((((start settings sink).run before).after (.canvasDeleteBitmap s)).history since) := by
  intro hmem
  obtain ⟨e, he, hw⟩ := List.mem_filterMap.mp hmem
  have hsplit := history_deletion (start settings sink) before since s
  refine not_mem_issued_later hfew hsplit hcanvas (mem_issued.mpr ⟨e, ?_, ?_⟩)
  · exact List.mem_cons_of_mem _ he
  · exact Entry.created?_of_reset hw

section Deletion

variable (hcreated : s ∈ issued .sprite ((start settings sink).history before))
  (hfew : Unexhausted
    ((start settings sink).history (before ++ .canvasDeleteBitmap s :: since)))

include hcreated hfew

/-- **Deletion is final.** Whatever calls follow, a deleted sprite is not on the stage. -/
theorem absent_after_deletion :
    ((start settings sink).run (before ++ .canvasDeleteBitmap s :: since)).stage.sprites.find? s =
      none := by
  have hsplit := history_deletion (start settings sink) before since s
  -- the deletion issues nothing, and what follows it cannot issue the id again
  have hnever := not_mem_issued_later hfew hsplit hcreated
  rw [issued, List.filterMap_cons_none rfl] at hnever
  have hdead : ¬ Live .sprite s
      ((start settings sink).history (before ++ .canvasDeleteBitmap s :: since)) := by
    rw [hsplit]
    exact not_live_of_removed rfl rfl hnever
  rw [← has_run_iff settings sink] at hdead
  exact Option.not_isSome_iff_eq_none.mp hdead

/-- No call after a deletion attaches the sprite. -/
theorem attach_not_mem_since (canvas : Ident) :
    .attach s ∉ wiringsOf canvas
      ((((start settings sink).run before).after (.canvasDeleteBitmap s)).history since) := by
  intro hmem
  obtain ⟨e, he, hw⟩ := List.mem_filterMap.mp hmem
  obtain ⟨earlier, later, rfl, hresult⟩ := exists_of_mem_history he
  obtain ⟨hcall, reply, hok⟩ := Entry.attached_of_wiringOf? hw
  -- the sprite is absent when the call is made, which is therefore refused
  rw [← List.cons_append, ← List.append_assoc, history_append] at hfew
  have hgone := gone_of_absent (sound_run settings sink _)
    (absent_after_deletion hcreated hfew.of_append)
  have hrefused := hgone.refused (.canvasAddBitmap canvas s) rfl
  rw [run_deletion, ← hcall, ← hresult, hok] at hrefused
  cases hrefused

/-- **References left behind stay.** After a deletion each canvas loses one reference to the sprite
with every detachment, and otherwise keeps them. -/
theorem count_references_deletion (canvas : Ident) :
    let h₀ := (start settings sink).run before
    let h₁ := h₀.after (.canvasDeleteBitmap s)
    ((h₁.run since).stage.references canvas).count s =
      (h₀.stage.references canvas).count s -
        (wiringsOf canvas (h₁.history since)).count (.detach s) := by
  intro h₀ h₁
  -- the deletion wires nothing
  have hrefs : (h₁.run since).stage.references canvas =
      (wiringsOf canvas (h₁.history since)).foldl Wiring.apply (h₀.stage.references canvas) := by
    rw [← run_deletion, references_run_append]
    rfl
  have hattach := attach_not_mem_since hcreated hfew canvas
  rw [hrefs]
  by_cases hzero : (h₀.stage.references canvas).count s = 0
  · -- the canvas may not be there yet, and then it starts without references
    have hbound := count_apply_le s (wiringsOf canvas (h₁.history since))
      (h₀.stage.references canvas)
    rw [hzero, List.count_eq_zero.mpr hattach] at hbound
    omega
  · have hcanvas : canvas ∈ issued .canvas ((start settings sink).history before) := by
      refine mem_issued_of_live ((has_run_iff settings sink before .canvas canvas).mp ?_)
      have hmem := List.count_pos_iff.mp (Nat.pos_of_ne_zero hzero)
      exact Stage.has_of_references (List.ne_nil_of_mem hmem)
    exact count_apply_eq (reset_not_mem_since hcanvas hfew) hattach _

end Deletion

variable (settings sink before since) in
/-- **A deleted sprite never comes back.** Take any run in which a sprite was created, and any calls
after its deletion. At their end the sprite is gone. The deletion itself leaves the canvases as they
are, and their plans too but for the sprite. References to the sprite are taken off a canvas by
detachments and by nothing else. And no sprite is referred to more often than it was attached since
its creation, so none is shown through a reference that was there before. -/
theorem deleted_sprite_stays_gone
    (hcreated : s ∈ issued .sprite ((start settings sink).history before))
    (hfew : Unexhausted
      ((start settings sink).history (before ++ .canvasDeleteBitmap s :: since))) :
    let h₀ := (start settings sink).run before
    let h₁ := h₀.after (.canvasDeleteBitmap s)
    let h := h₁.run since
    h.Gone s ∧
    (h₁.stage.canvases = h₀.stage.canvases ∧
      ∀ (c : Canvas) clear, (c.plan h₁.stage.sprites clear).ops =
        (c.plan h₀.stage.sprites clear).ops.filter fun l => l.id ≠ s) ∧
    (∀ canvas, (h.stage.references canvas).count s =
      (h₀.stage.references canvas).count s -
        (wiringsOf canvas (h₁.history since)).count (.detach s)) ∧
    ∀ canvas id earlier origin later,
      (start settings sink).history (before ++ .canvasDeleteBitmap s :: since) =
        earlier ++ origin :: later →
      origin.created? = some (.sprite, id) →
      (h.stage.references canvas).count id ≤ (wiringsOf canvas later).count (.attach id) := by
  intro h₀ h₁ h
  have hs₀ : h₀.stage.Sound := sound_run settings sink before
  have hrun : h = (start settings sink).run (before ++ .canvasDeleteBitmap s :: since) :=
    (run_deletion (start settings sink) before since s).symm
  have hdeleted : h₁ = h₀.put { h₀.stage with sprites := h₀.stage.sprites.delete s } :=
    congrArg Prod.snd (step_of_accepts hs₀ (.canvasDeleteBitmap s))
  refine ⟨?_, ⟨?_, ?_⟩, ?_, ?_⟩
  · rw [hrun]
    exact gone_of_absent (sound_run settings sink _) (absent_after_deletion hcreated hfew)
  · rw [hdeleted]
    rfl
  · intro c clear
    rw [hdeleted]
    exact c.ops_delete clear hs₀ s
  · exact count_references_deletion hcreated hfew
  · intro canvas id earlier origin later hsplit horigin
    rw [hrun]
    exact count_references_le settings sink _ canvas hfew hsplit horigin

/-- A canvas that referred twice to a deleted sprite refers to it once after a detachment. It does
not show it, nor can it be attached again, and the sprite created since has another id. -/
theorem one_reference_left_behind :
    let before : List Call :=
      [.createCanvas 2 2, .createBitmap 1 1, .canvasAddBitmap 1 1, .canvasAddBitmap 1 1]
    let since : List Call :=
      [.createBitmap 1 1, .canvasRemoveBitmap 1 1, .canvasAddBitmap 1 2]
    let h : Host Recorder := (((start {} {}).run before).after (.canvasDeleteBitmap 1)).run since
    h.answer (.canvasAddBitmap 1 1) = .error (.notFound .sprite 1) ∧
    (h.stage.references 1).count 1 = 1 ∧ (h.stage.references 1).count 2 ≤ 1 ∧
    ∃ plan, h.stage.planOf 1 = .ok plan ∧ ∀ l ∈ plan.ops, l.id ≠ 1 := by
  intro before since h
  have hfew : Unexhausted ((start {} {} : Host Recorder).history
      (before ++ .canvasDeleteBitmap 1 :: since)) := by
    intro k
    cases k <;> decide +kernel
  obtain ⟨hgone, -, hleft, hattached⟩ := deleted_sprite_stays_gone {} ({} : Recorder) before since
    (s := 1) (by decide +kernel) hfew
  have hcanvas : (h.stage.canvases.find? 1).isSome := by decide +kernel
  obtain ⟨c, hfind⟩ := Option.isSome_iff_exists.mp hcanvas
  obtain ⟨plan, -, hplan, -, -, hnone, -⟩ := Gone.shown (h := h) hgone hfind
  refine ⟨hgone.refused _ rfl, ?_, ?_, plan, hplan, hnone⟩
  · exact (hleft 1).trans (by decide +kernel)
  · -- the second sprite was created by the first call after the deletion
    have hsplit := history_append (start {} {} : Host Recorder) (before ++ [.canvasDeleteBitmap 1])
      since
    rw [List.append_assoc] at hsplit
    exact (hattached 1 2 _ _ _ hsplit (by decide +kernel)).trans (by decide +kernel)

end Host

end SpriteStage
