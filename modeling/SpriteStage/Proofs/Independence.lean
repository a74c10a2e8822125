/-
Calls that do not meet.

A sprite call reads and changes the sprite that it names, and nothing else on the stage
(`Host.sprite_edit`). A canvas call reads the sprites, but what it changes is the canvas that it
names (`Host.canvas_edit`). So two calls of one sort that name different sprites, or different
canvases, may change places: each finds what it would have found before the other, answers the same,
and puts its result into a place of its own (`Host.independent_calls_commute`).

An edit is a value put under an id, or taken away from it. A call that fails is an edit as well, one
that puts back what was there, so that the pairs of calls need not be told apart by success.
-/
import SpriteStage.Proofs.History

set_option autoImplicit false

namespace SpriteStage

/-! ## Edits -/

namespace Table

variable {α : Type}

/-- The table with a value under an id, or with none. -/
def put (t : Table α) (id : Ident) : Option α → Table α
  | some a => t.insert id a
  | none => t.erase id

theorem find?_put (t : Table α) (id : Ident) (a : Option α) (k : Ident) :
    (t.put id a).find? k = if k = id then a else t.find? k := by
  cases a with
  | some a => exact t.find?_insert id a k
  | none => exact t.find?_erase id k

theorem find?_put_of_ne (t : Table α) {id k : Ident} (a : Option α) (h : k ≠ id) :
    (t.put id a).find? k = t.find? k := by
  rw [find?_put, if_neg h]

/-- Putting back what is there changes nothing. -/
theorem put_find? (t : Table α) (id : Ident) : t.put id (t.find? id) = t := by
  refine ext_find? fun k => ?_
  rw [find?_put]
  split
  · next heq => rw [heq]
  · rfl

/-- Edits under different ids may change places. -/
theorem put_comm (t : Table α) {id id' : Ident} (h : id ≠ id') (a a' : Option α) :
    (t.put id a).put id' a' = (t.put id' a').put id a := by
  refine ext_find? fun k => ?_
  simp only [find?_put]
  by_cases hk : k = id
  · rw [if_pos hk, if_pos hk, if_neg fun hk' => h (hk.symm.trans hk')]
  · rw [if_neg hk, if_neg hk]

end Table

/-- The sprite that a call names, if it is a call that changes a sprite or deletes it. -/
def Call.sprite? : Call → Option Ident
  | .setText id _ => some id
  | .modifyBitmap id _ _ _ => some id
  | .bitmapSetPixels id _ => some id
  | .bitmapSetPosition id _ _ => some id
  | .bitmapSetZIndex id _ => some id
  | .canvasDeleteBitmap id => some id
  | _ => none

/-- The canvas that a call names, if it is a call on the references or the picture of a canvas. -/
def Call.canvas? : Call → Option Ident
  | .canvasAddBitmap id _ => some id
  | .canvasRemoveBitmap id _ => some id
  | .canvasRedraw id => some id
  | _ => none

/-- Two calls of one sort that name different sprites, or different canvases. -/
inductive Call.Independent (c d : Call) : Prop where
  | sprites {id id' : Ident} (hc : c.sprite? = some id) (hd : d.sprite? = some id') (ne : id ≠ id')
  | canvases {id id' : Ident} (hc : c.canvas? = some id) (hd : d.canvas? = some id') (ne : id ≠ id')

namespace Host

variable {σ : Type}

/-- The host with a sprite under an id, or with none. -/
def putSprite (h : Host σ) (id : Ident) (s : Option Sprite) : Host σ :=
  h.put { h.stage with
    sprites := { h.stage.sprites with table := h.stage.sprites.table.put id s } }

/-- The host with a canvas under an id, or with none. -/
def putCanvas (h : Host σ) (id : Ident) (c : Option Canvas) : Host σ :=
  h.put { h.stage with canvases := h.stage.canvases.put id c }

theorem find?_putSprite (h : Host σ) {id k : Ident} (s : Option Sprite) (hne : k ≠ id) :
    (h.putSprite id s).stage.sprites.find? k = h.stage.sprites.find? k :=
  Table.find?_put_of_ne _ s hne

theorem find?_putCanvas (h : Host σ) {id k : Ident} (c : Option Canvas) (hne : k ≠ id) :
    (h.putCanvas id c).stage.canvases.find? k = h.stage.canvases.find? k :=
  Table.find?_put_of_ne _ c hne

theorem putSprite_comm (h : Host σ) {id id' : Ident} (hne : id ≠ id') (s s' : Option Sprite) :
    (h.putSprite id s).putSprite id' s' = (h.putSprite id' s').putSprite id s := by
  simp only [putSprite, put, Table.put_comm _ hne]

theorem putCanvas_comm (h : Host σ) {id id' : Ident} (hne : id ≠ id') (c c' : Option Canvas) :
    (h.putCanvas id c).putCanvas id' c' = (h.putCanvas id' c').putCanvas id c := by
  simp only [putCanvas, put, Table.put_comm _ hne]

theorem putSprite_find? (h : Host σ) (id : Ident) :
    h.putSprite id (h.stage.sprites.find? id) = h := by
  rw [putSprite, SpriteTable.find?, Table.put_find?]
  rfl

theorem putCanvas_find? (h : Host σ) (id : Ident) :
    h.putCanvas id (h.stage.canvases.find? id) = h := by
  rw [putCanvas, Table.put_find?]
  rfl

variable [EventSink σ] {h : Host σ} {c d : Call}

/-! ## Calls on one sprite -/

/-- A sprite call that is accepted is accepted wherever its sprite is the same, and puts the same in
its place. -/
theorem Accepts.sprite_edit {id : Ident} {reply : Reply} {h' : Host σ}
    (ha : h.Accepts c reply h') (hs : h.stage.Sound) (hc : c.sprite? = some id) :
    ∃ new, ∀ g : Host σ, g.stage.sprites.find? id = h.stage.sprites.find? id →
      g.Accepts c reply (g.putSprite id new) := by
  cases ha with
  | setText found shape text =>
    cases hc
    obtain rfl := (hs.sprite found).id_eq
    exact ⟨some _, fun g hg => .setText (hg.trans found) shape text⟩
  | modifyBitmap found shape inside =>
    cases hc
    obtain rfl := (hs.sprite found).id_eq
    exact ⟨some _, fun g hg => .modifyBitmap (hg.trans found) shape inside⟩
  | bitmapSetPixels found shape count =>
    cases hc
    obtain rfl := (hs.sprite found).id_eq
    exact ⟨some _, fun g hg => .bitmapSetPixels (hg.trans found) shape count⟩
  | bitmapSetPosition found left top =>
    cases hc
    obtain rfl := (hs.sprite found).id_eq
    exact ⟨some _, fun g hg => .bitmapSetPosition (hg.trans found) left top⟩
  | bitmapSetZIndex found z =>
    cases hc
    obtain rfl := (hs.sprite found).id_eq
    exact ⟨some _, fun g hg => .bitmapSetZIndex (hg.trans found) z⟩
  | canvasDeleteBitmap sprite =>
    cases hc
    exact ⟨none, fun g _ => .canvasDeleteBitmap id⟩
  | _ => cases hc

omit [EventSink σ] in
/-- A sprite call that is refused is refused wherever its sprite is the same. -/
theorem Refuses.of_same_sprite {id : Ident} {fault : Fault} (hr : h.Refuses c fault)
    (hc : c.sprite? = some id) {g : Host σ}
    (hg : g.stage.sprites.find? id = h.stage.sprites.find? id) : g.Refuses c fault := by
  cases hr with
  | noText other text =>
    cases hc
    exact .noText (fun s t hfind => other s t (hg.symm.trans hfind)) text
  | noBitmap other x y color =>
    cases hc
    exact .noBitmap (fun s b hfind => other s b (hg.symm.trans hfind)) x y color
  | outside found shape out color =>
    cases hc
    exact .outside (hg.trans found) shape out color
  | noBitmapForPixels other words =>
    cases hc
    exact .noBitmapForPixels (fun s b hfind => other s b (hg.symm.trans hfind)) words
  | pixelCount found shape count =>
    cases hc
    exact .pixelCount (hg.trans found) shape count
  | noSpriteToMove absent left top =>
    cases hc
    exact .noSpriteToMove (hg.trans absent) left top
  | noSpriteToLift absent z =>
    cases hc
    exact .noSpriteToLift (hg.trans absent) z
  | _ => cases hc

/-- **A sprite call is an edit of its sprite.** What it answers and what it makes of the sprite
depend on that sprite alone. -/
theorem sprite_edit (hs : h.stage.Sound) {id : Ident} (hc : c.sprite? = some id) :
    ∃ answer new, ∀ g : Host σ, g.stage.Sound →
      g.stage.sprites.find? id = h.stage.sprites.find? id →
      g.step c = (answer, g.putSprite id new) := by
  rcases step_cases hs c with ⟨reply, h', -, ha⟩ | ⟨fault, -, hr⟩
  · obtain ⟨new, hnew⟩ := ha.sprite_edit hs hc
    exact ⟨_, new, fun g hsg hg => step_of_accepts hsg (hnew g hg)⟩
  · refine ⟨.error fault, h.stage.sprites.find? id, fun g hsg hg => ?_⟩
    have hanswer := (answer_eq_error_iff hsg).mpr (hr.of_same_sprite hc hg)
    rw [← hg, putSprite_find?]
    exact Prod.ext hanswer (after_of_error hsg hanswer)

/-! ## Calls on one canvas -/

/-- Hosts with the same sprites and settings. -/
def SameSprites (g h : Host σ) : Prop :=
  g.stage.sprites = h.stage.sprites ∧ g.stage.settings = h.stage.settings

/-- A canvas call that is accepted is accepted wherever its canvas is the same, and the sprites are,
and puts the same in its place. -/
theorem Accepts.canvas_edit {id : Ident} {reply : Reply} {h' : Host σ}
    (ha : h.Accepts c reply h') (hc : c.canvas? = some id) :
    ∃ new, ∀ g : Host σ, g.SameSprites h →
      g.stage.canvases.find? id = h.stage.canvases.find? id →
      g.Accepts c reply (g.putCanvas id new) := by
  cases ha with
  | canvasAddBitmap live found =>
    cases hc
    exact ⟨some _, fun g hsame hg => .canvasAddBitmap
      ((congrArg (SpriteTable.find? · _) hsame.1).trans live) (hg.trans found)⟩
  | canvasRemoveBitmap found sprite =>
    cases hc
    exact ⟨some _, fun g _ hg => .canvasRemoveBitmap (hg.trans found) sprite⟩
  | @canvasRedraw _ shown found =>
    cases hc
    refine ⟨some (shown.redrawn h.stage.sprites h.stage.settings.clear), fun g hsame hg => ?_⟩
    rw [← hsame.1, ← hsame.2]
    exact .canvasRedraw (hg.trans found)
  | _ => cases hc

omit [EventSink σ] in
theorem Refuses.of_same_canvas {id : Ident} {fault : Fault} (hr : h.Refuses c fault)
    (hc : c.canvas? = some id) {g : Host σ} (hsame : g.SameSprites h)
    (hg : g.stage.canvases.find? id = h.stage.canvases.find? id) : g.Refuses c fault := by
  cases hr with
  | noSpriteToAttach absent canvas =>
    rw [← hsame.1] at absent
    exact .noSpriteToAttach absent canvas
  | noCanvasToAttach live absent =>
    cases hc
    rw [← hsame.1] at live
    exact .noCanvasToAttach live (hg.trans absent)
  | noCanvasToDetach absent sprite =>
    cases hc
    exact .noCanvasToDetach (hg.trans absent) sprite
  | noCanvasToRedraw absent =>
    cases hc
    exact .noCanvasToRedraw (hg.trans absent)
  | _ => cases hc

/-- **A canvas call is an edit of its canvas.** What it answers and what it makes of the canvas
depend on that canvas, the sprites and the settings. -/
theorem canvas_edit (hs : h.stage.Sound) {id : Ident} (hc : c.canvas? = some id) :
    ∃ answer new, ∀ g : Host σ, g.stage.Sound → g.SameSprites h →
      g.stage.canvases.find? id = h.stage.canvases.find? id →
      g.step c = (answer, g.putCanvas id new) := by
  rcases step_cases hs c with ⟨reply, h', -, ha⟩ | ⟨fault, -, hr⟩
  · obtain ⟨new, hnew⟩ := ha.canvas_edit hc
    exact ⟨_, new, fun g hsg hsame hg => step_of_accepts hsg (hnew g hsame hg)⟩
  · refine ⟨.error fault, h.stage.canvases.find? id, fun g hsg hsame hg => ?_⟩
    have hanswer := (answer_eq_error_iff hsg).mpr (hr.of_same_canvas hc hsame hg)
    rw [← hg, putCanvas_find?]
    exact Prod.ext hanswer (after_of_error hsg hanswer)

/-! ## Two calls -/

/-- Two calls that answer the same in either order, and lead to the same host. -/
def Commute (h : Host σ) (c d : Call) : Prop :=
  (h.after d).answer c = h.answer c ∧ (h.after c).answer d = h.answer d ∧
    (h.after c).after d = (h.after d).after c

/-- Two calls commute if each is one edit, also after the other, and the edits may change places. -/
theorem commute_of_edits {x y : Except Fault Reply} (e f : Host σ → Host σ) (hs : h.stage.Sound)
    (hc : h.step c = (x, e h)) (hd : h.step d = (y, f h))
    (hc' : (f h).stage.Sound → (f h).step c = (x, e (f h)))
    (hd' : (e h).stage.Sound → (e h).step d = (y, f (e h))) (hcomm : f (e h) = e (f h)) :
    h.Commute c d := by
  have hac : h.after c = e h := congrArg Prod.snd hc
  have had : h.after d = f h := congrArg Prod.snd hd
  have hsc := sound_after hs c
  have hsd := sound_after hs d
  rw [hac] at hsc
  rw [had] at hsd
  refine ⟨?_, ?_, ?_⟩
  · rw [had, answer, hc' hsd, answer, hc]
  · rw [hac, answer, hd' hsc, answer, hd]
  · rw [hac, had, after, hd' hsc, after, hc' hsd]
    exact hcomm

theorem sprite_calls_commute (hs : h.stage.Sound) {id id' : Ident} (hc : c.sprite? = some id)
    (hd : d.sprite? = some id') (hne : id ≠ id') : h.Commute c d := by
  obtain ⟨x, new, hedit⟩ := sprite_edit hs hc
  obtain ⟨y, new', hedit'⟩ := sprite_edit hs hd
  exact commute_of_edits (putSprite · id new) (putSprite · id' new') hs
    (hedit h hs rfl) (hedit' h hs rfl)
    (fun hsd => hedit _ hsd (h.find?_putSprite new' hne))
    (fun hsc => hedit' _ hsc (h.find?_putSprite new hne.symm))
    (h.putSprite_comm hne new new')

theorem canvas_calls_commute (hs : h.stage.Sound) {id id' : Ident} (hc : c.canvas? = some id)
    (hd : d.canvas? = some id') (hne : id ≠ id') : h.Commute c d := by
  obtain ⟨x, new, hedit⟩ := canvas_edit hs hc
  obtain ⟨y, new', hedit'⟩ := canvas_edit hs hd
  -- an edit of a canvas leaves the sprites and the settings to the other call
  exact commute_of_edits (putCanvas · id new) (putCanvas · id' new') hs
    (hedit h hs ⟨rfl, rfl⟩ rfl) (hedit' h hs ⟨rfl, rfl⟩ rfl)
    (fun hsd => hedit _ hsd ⟨rfl, rfl⟩ (h.find?_putCanvas new' hne))
    (fun hsc => hedit' _ hsc ⟨rfl, rfl⟩ (h.find?_putCanvas new hne.symm))
    (h.putCanvas_comm hne new new')

/-- **Independent calls commute.** On every stage that a run can end on, and whichever callbacks are
registered beside it, take two calls on different sprites, or two calls on different canvases. In
either order each of them answers the same, with its reply or its fault, and the host that both
leave is the same, with every canvas and its picture. -/
theorem independent_calls_commute {s : Stage σ} (hs : s.Reachable) (handlers : Handlers)
    (hcd : c.Independent d) :
    let h : Host σ := ⟨s, handlers⟩
    (h.after d).answer c = h.answer c ∧ (h.after c).answer d = h.answer d ∧
      (h.after c).after d = (h.after d).after c := by
  intro h
  cases hcd with
  | sprites hc hd hne => exact sprite_calls_commute (h := h) hs.sound hc hd hne
  | canvases hc hd hne => exact canvas_calls_commute (h := h) hs.sound hc hd hne

/-- Two canvases that show the same sprite are redrawn in either order. -/
theorem redraws_commute :
    let h : Host Recorder := (start {} {}).run [.createCanvas 1 1, .createCanvas 2 1,
      .createBitmap 1 1, .modifyBitmap 1 0 0 ⟨0xff00ff00⟩, .canvasAddBitmap 1 1,
      .canvasAddBitmap 2 1]
    (h.after (.canvasRedraw 1)).after (.canvasRedraw 2) =
      (h.after (.canvasRedraw 2)).after (.canvasRedraw 1) := by
  intro h
  have hs : h.stage.Reachable := ⟨{}, {}, _, rfl⟩
  exact (independent_calls_commute hs h.handlers
    (.canvases (c := .canvasRedraw 1) (d := .canvasRedraw 2) rfl rfl (by decide))).2.2

end Host

end SpriteStage
