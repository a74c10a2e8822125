/-
Plans as the canonical view of a canvas.

A canvas keeps references in the order in which they came, some of them more than once, some to
sprites that are gone. None of this can be seen in a plan, except how often a live sprite is
referred to. A plan is sorted, and a tie in the painting order is a tie between sprites with the
same id, so between sprites that are the same; then two plans over the same sprites, each as often,
are equal (`Canvas.plan_of_perm`).

What this needs of a sprite table is that it keeps every sprite under its own id. No operation can
undo that, because an operation that goes through comes down to storing a sprite that was checked or
to deleting an id (`SpriteTable.Step.store_or_delete`). That everything stays as it was checked, in
every table that operations make, is one induction (`SpriteTable.Reachable.sound`).
-/
import SpriteStage.Proofs.References

set_option autoImplicit false

namespace SpriteStage

/-! ## Sprite tables and their operations -/

namespace SpriteTable

/-- An operation that goes through, and the sprite table that it leaves. A creation may take its id
from any counters. -/
inductive Step (s : SpriteTable) : SpriteTable → Prop where
  | createBitmap {counters counters' : Counters} {width height : Int32} {id : Ident}
      {s' : SpriteTable} (done : s.createBitmap counters width height = .ok (id, counters', s')) :
    Step s s'
  | createText {counters counters' : Counters} {content : String} {color : Argb} {size : Int32}
      {id : Ident} {s' : SpriteTable}
      (done : s.createText counters content color size = .ok (id, counters', s')) : Step s s'
  | setText {id : Ident} {content : String} {s' : SpriteTable}
      (done : s.setText id content = .ok s') : Step s s'
  | setPixel {id : Ident} {x y : Int32} {color : Argb} {s' : SpriteTable}
      (done : s.setPixel id x y color = .ok s') : Step s s'
  | upload {id : Ident} {words : List UInt32} {s' : SpriteTable}
      (done : s.upload id words = .ok s') : Step s s'
  | setPosition {id : Ident} {left top : Int32} {s' : SpriteTable}
      (done : s.setPosition id left top = .ok s') : Step s s'
  | setDepth {id : Ident} {z : Int32} {s' : SpriteTable} (done : s.setDepth id z = .ok s') :
    Step s s'
  | delete (id : Ident) : Step s (s.delete id)

/-- Sprite tables that operations make out of an empty one. -/
inductive Reachable : SpriteTable → Prop where
  | empty (limit : UInt32) : Reachable (.empty limit)
  | step {s s' : SpriteTable} (before : Reachable s) (last : s.Step s') : Reachable s'

/-- Sprite tables in which everything is as it was checked at its creation. -/
def Sound (s : SpriteTable) : Prop :=
  ∀ {id : Ident} {sp : Sprite}, s.find? id = some sp → sp.Sound s.limit id

variable {s s' : SpriteTable}

theorem Step.store_or_delete (h : s.Step s') (hs : s.Sound) :
    (∃ id sp, s' = s.store sp ∧ sp.Sound s.limit id) ∨ ∃ id, s' = s.delete id := by
  cases h with
  | @createBitmap _ _ width height _ _ done =>
    rw [SpriteTable.createBitmap, Extent.request_eq] at done
    by_cases hsize : Extent.Within s.limit width height
    · rw [if_pos hsize] at done
      cases done
      exact .inl ⟨_, _, rfl, Sprite.sound_blank _ hsize.admitted⟩
    · rw [if_neg hsize] at done
      cases done
  | @createText _ _ content color size _ _ done =>
    unfold SpriteTable.createText at done
    by_cases hsize : size ≤ 0
    · rw [if_pos hsize] at done
      cases done
    · rw [if_neg hsize] at done
      cases done
      have hpos : 0 < size.toInt := Int32.lt_iff_toInt_lt.mp (Int32.not_le.mp hsize)
      exact .inl ⟨_, _, rfl, Sprite.sound_text _ content color hpos⟩
  | @setText id content _ done =>
    rcases s.text_or_other id with ⟨sp, t, hfind, hf⟩ | hother
    · rw [setText_of_text hfind hf] at done
      exact .inl ⟨id, _, (Except.ok.inj done).symm, (hs hfind).withContent hf content⟩
    · rw [setText_of_other hother] at done
      cases done
  | @setPixel id x y color _ done =>
    rcases s.bitmap_or_other id with ⟨sp, b, hfind, hf⟩ | hother
    · cases hset : b.setPixel? x y color with
      | none =>
        rw [setPixel_outside hfind hf hset] at done
        cases done
      | some b' =>
        rw [setPixel_of_bitmap hfind hf hset] at done
        obtain ⟨hextent, hsize⟩ := Bitmap.extent_setPixel? hset
        exact .inl ⟨id, _, (Except.ok.inj done).symm, (hs hfind).withPixels hf hextent hsize⟩
    · rw [setPixel_of_other hother] at done
      cases done
  | @upload id words _ done =>
    rcases s.bitmap_or_other id with ⟨sp, b, hfind, hf⟩ | hother
    · by_cases hcount : words.length = b.pixels.size
      · rw [upload_of_bitmap hfind hf hcount] at done
        have hsize : (words.map Argb.mk).toArray.size = b.pixels.size := by
          rw [List.size_toArray, List.length_map, hcount]
        exact .inl ⟨id, _, (Except.ok.inj done).symm, (hs hfind).withPixels hf rfl hsize⟩
      · rw [upload_of_count hfind hf hcount] at done
        cases done
    · rw [upload_of_other hother] at done
      cases done
  | @setPosition id left top _ done =>
    cases hfind : s.find? id with
    | none =>
      rw [setPosition_of_absent hfind] at done
      cases done
    | some sp =>
      rw [setPosition_of_find? hfind] at done
      have hsp := hs hfind
      exact .inl ⟨id, _, (Except.ok.inj done).symm,
        hsp.id_eq, hsp.extent, hsp.size_eq, hsp.fontSize⟩
  | @setDepth id z _ done =>
    cases hfind : s.find? id with
    | none =>
      rw [setDepth_of_absent hfind] at done
      cases done
    | some sp =>
      rw [setDepth_of_find? hfind] at done
      have hsp := hs hfind
      exact .inl ⟨id, _, (Except.ok.inj done).symm,
        hsp.id_eq, hsp.extent, hsp.size_eq, hsp.fontSize⟩
  | delete id => exact .inr ⟨id, rfl⟩

theorem Step.sound (h : s.Step s') (hs : s.Sound) : s'.Sound := by
  intro k found hfind
  rcases h.store_or_delete hs with ⟨id, sp, rfl, hsp⟩ | ⟨id, rfl⟩
  · rw [find?_store] at hfind
    by_cases heq : k = sp.id
    · rw [if_pos heq] at hfind
      rw [heq, hsp.id_eq, ← Option.some.inj hfind]
      exact hsp
    · rw [if_neg heq] at hfind
      exact hs hfind
  · rw [find?_delete] at hfind
    by_cases heq : k = id
    · rw [if_pos heq] at hfind
      cases hfind
    · rw [if_neg heq] at hfind
      exact hs hfind

theorem Reachable.sound (h : s.Reachable) : s.Sound := by
  induction h with
  | empty limit => exact nofun
  | step _ last ih => exact last.sound ih

theorem Reachable.keyed (h : s.Reachable) : s.Keyed := fun _ _ hfind => (h.sound hfind).id_eq

end SpriteTable

/-! ## Plans -/

namespace Canvas

variable {s : SpriteTable}

/-- **The order of the references does not show.** -/
theorem plan_of_perm (hs : s.Keyed) (c c' : Canvas) (hextent : c'.extent = c.extent)
    (hrefs : c'.references.Perm c.references) (clear : Argb) :
    c'.plan s clear = c.plan s clear := by
  have hperm : (c'.plan s clear).ops.Perm (c.plan s clear).ops :=
    (c'.ops_perm s clear).trans ((hrefs.filterMap s.find?).trans (c.ops_perm s clear).symm)
  have hops : (c'.plan s clear).ops = (c.plan s clear).ops :=
    Sprite.eq_of_painting_order hperm (c'.ops_pairwise s clear) (c.ops_pairwise s clear)
      (eq_of_mem_ops hs)
  show Plan.mk c'.extent clear _ = Plan.mk c.extent clear _
  rw [hextent]
  exact congrArg (Plan.mk c.extent clear) hops

end Canvas

theorem Stage.references_redrawCanvas {σ : Type} (s : Stage σ) (id canvas : Ident) :
    ((redrawCanvas id : Attempt (Stage σ) UInt64).runOn s).2.references canvas =
      s.references canvas := by
  cases hfind : s.canvases.find? id with
  | none =>
    simp only [redrawCanvas, Attempt.runOn_bind, Attempt.runOn_get, Attempt.runOn_liftM,
      Stage.canvas, hfind]
  | some c =>
    simp only [redrawCanvas, Attempt.runOn_bind, Attempt.runOn_get, Attempt.runOn_liftM,
      Stage.canvas, hfind]
    -- whatever carrying out the plan answers, the canvas comes back with another raster only
    rcases (Plan.execute (c.plan s.sprites s.settings.clear)).run.run c.raster with
      ⟨result, raster⟩
    simp only [Attempt.runOn_bind, Attempt.runOn_set, Attempt.runOn_liftM]
    rw [references_storeCanvas]
    by_cases heq : id = canvas
    · rw [if_pos heq, ← heq, references_of_find? hfind]
    · rw [if_neg heq]

namespace Canvas

/-- **A plan is the canonical view of a canvas.** Take any sprite table that operations have made,
any canvas, whatever it refers to and how often, and any background. The plan has the size of the
canvas and the background. It paints one sprite for every reference that resolves, namely what the
sprite table holds under that id at the moment, in the order of depth over all signed values and
then of creation. Making the plan changes no reference, and carrying it out in a redraw does not
either. So a canvas of the same size with the same references in another order has the same plan,
and so has the canvas after a sprite was attached and one reference to it taken off again. -/
theorem plan_is_canonical {s : SpriteTable} (hs : s.Reachable) (c : Canvas) (clear : Argb) :
    let p := c.plan s clear
    (p.extent = c.extent ∧ p.clear = clear) ∧
    p.ops.Perm (c.references.filterMap s.find?) ∧
    (∀ l ∈ p.ops, l.id ∈ c.references ∧ s.find? l.id = some l) ∧
    p.ops.Pairwise (fun l m => l.z.toInt < m.z.toInt ∨ l.z.toInt = m.z.toInt ∧ l.id ≤ m.id) ∧
    (∀ {σ : Type} (stage : Stage σ) (id canvas : Ident),
      ((Stage.redrawCanvas id).runOn stage).2.references canvas = stage.references canvas) ∧
    (∀ c' : Canvas, c'.extent = c.extent → c'.references.Perm c.references →
      c'.plan s clear = p) ∧
    ∀ sprite, ((c.attach sprite).detach sprite).plan s clear = p := by
  intro p
  refine ⟨⟨rfl, rfl⟩, c.ops_perm s clear, ?_, ?_, fun stage => stage.references_redrawCanvas,
    fun c' hextent hrefs => plan_of_perm hs.keyed c c' hextent hrefs clear, ?_⟩
  · intro l hl
    obtain ⟨id, hid, hfind⟩ := mem_ops.mp hl
    rw [hs.keyed id l hfind]
    exact ⟨hid, hfind⟩
  · refine (c.ops_pairwise s clear).imp ?_
    intro l m hlm
    rw [Int32.toInt_inj, ← Int32.lt_iff_toInt_lt]
    exact hlm
  · intro sprite
    have hrefs : ((c.attach sprite).detach sprite).references.Perm c.references := by
      -- with the new reference in front, the erasure takes that one
      have hfront := (List.perm_append_singleton sprite c.references).erase sprite
      rwa [List.erase_cons_head] at hfront
    exact plan_of_perm hs.keyed c ((c.attach sprite).detach sprite) rfl hrefs clear

/-- A canvas refers to a sprite twice, to one that was deleted, and to an id that was never issued.
Attaching the first sprite and detaching it again moves its references to the end of the list. -/
theorem plan_of_rotated_references :
    let lifted : Sprite := ⟨1, -3, 0, 0, .bitmap (.blank ⟨1, 1⟩)⟩
    let label (id : Ident) : Sprite := ⟨id, 0, 0, 0, .text ⟨"hi", .black, 12⟩⟩
    let s := (((((SpriteTable.empty 8).store { lifted with z := 0 }).store (label 2)).store
      (label 3)).store lifted).delete 3
    let c : Canvas := ⟨1, ⟨4, 4⟩, [2, 1, 9, 3, 1], .blank ⟨4, 4⟩⟩
    s.Reachable ∧ (c.plan s .black).ops.Perm [label 2, lifted, lifted] ∧
      ((c.attach 1).detach 1).references = [2, 9, 3, 1, 1] ∧
      ((c.attach 1).detach 1).plan s .black = c.plan s .black := by
  intro lifted label s c
  have hbitmap : ((SpriteTable.empty 8).store { lifted with z := 0 }).Reachable :=
    .step (.empty 8) (.createBitmap (rfl : (SpriteTable.empty 8).createBitmap {} 1 1 =
      .ok (1, { sprite := 1 }, (SpriteTable.empty 8).store { lifted with z := 0 })))
  have htext := hbitmap.step (.createText
    (rfl : SpriteTable.createText _ { sprite := 1 } "hi" .black 12 = .ok (2, { sprite := 2 }, _)))
  have hdoomed := htext.step (.createText
    (rfl : SpriteTable.createText _ { sprite := 2 } "hi" .black 12 = .ok (3, { sprite := 3 }, _)))
  have hlifted := hdoomed.step (.setDepth (rfl : SpriteTable.setDepth _ 1 (-3) = .ok _))
  have hs : s.Reachable := hlifted.step (.delete 3)
  obtain ⟨-, hperm, -, -, -, -, hrotated⟩ := plan_is_canonical hs c .black
  have hfound : c.references.filterMap s.find? = [label 2, lifted, lifted] := by decide +kernel
  exact ⟨hs, hfound ▸ hperm, by decide, hrotated 1⟩

end Canvas

end SpriteStage
