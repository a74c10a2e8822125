/-
Coverage: the alpha of what was painted.

Painting never takes coverage away. Where a bitmap is composited, the alpha afterwards is no smaller
than the alpha before, nor than the alpha of the bitmap there, although what shows through is rounded
(`Rgba.max_alpha_le`). Elsewhere it is what it was.

So a frame that starts from an opaque background is opaque when it is presented. A canvas that was
redrawn keeps such a frame until it is redrawn again, since no other call draws. The straight form of
an opaque frame has the same bytes, for there is nothing to divide by.
-/
import SpriteStage.Proofs.Presence
import SpriteStage.Proofs.Strokes

set_option autoImplicit false

namespace SpriteStage

/-! ## One color -/

/-- The part of a channel value that does not show through is no more than what covers it. -/
theorem le_add_scale {d a : Nat} (hd : d ≤ 255) (ha : a ≤ 255) : d ≤ a + scale d (255 - a) := by
  have hcovered : d * a ≤ 255 * a := Nat.mul_le_mul_right a hd
  have hsplit : d * (255 - a) + d * a = d * 255 := by
    rw [← Nat.mul_add, Nat.sub_add_cancel ha]
  -- what rounds to the nearest does not fall below a whole number that the fraction reaches
  unfold scale
  omega

namespace Rgba

variable {dst src : Rgba}

/-- **Coverage accumulates.** A pixel composited over another has the larger of the two alphas at
least. -/
theorem max_alpha_le (hs : src.Premultiplied) (dst : Rgba) :
    max dst.a.toNat src.a.toNat ≤ (dst.sourceOver src).a.toNat := by
  have hsum : (dst.sourceOver src).a.toNat = src.a.toNat + scale dst.a.toNat (255 - src.a.toNat) :=
    toNat_channel_sourceOver hs dst .alpha
  have hkept := le_add_scale (toNat_le_255 dst.a) (toNat_le_255 src.a)
  rw [hsum]
  exact Nat.max_le.mpr ⟨hkept, Nat.le_add_right _ _⟩

theorem alpha_eq_of_le {p : Rgba} (h : 255 ≤ p.a.toNat) : p.a = 255 :=
  UInt8.toNat_inj.mp (Nat.le_antisymm (toNat_le_255 p.a) h)

theorem alpha_sourceOver (hd : dst.a = 255) (hs : src.Premultiplied) :
    (dst.sourceOver src).a = 255 := by
  have hmax := max_alpha_le hs dst
  rw [hd] at hmax
  exact alpha_eq_of_le (Nat.le_trans (Nat.le_max_left _ _) hmax)

theorem unpremultiply_of_solid {p : Rgba} (hp : p.a = 255) : p.unpremultiply = p := by
  have hne : ¬ p.a = 0 := by
    rw [hp]
    decide
  rw [unpremultiply, if_neg hne, if_pos hp]

end Rgba

/-! ## Rasters without transparency -/

namespace Raster

/-- Rasters on which nothing shines through. -/
def Solid (r : Raster) : Prop := ∀ p ∈ r.pixels, p.a = 255

theorem Solid.pixel?_readback {r : Raster} (h : r.Solid) (hr : r.pixels.size = r.extent.area)
    {x y : UInt32} (hx : x < r.extent.width) (hy : y < r.extent.height) :
    ∃ p, r.readback.pixel? x y = some p ∧ p.a = 255 := by
  have hlt : y.toNat * r.extent.width.toNat + x.toNat < r.pixels.size := by
    rw [hr]
    exact Extent.rowMajor_lt_area hx hy
  refine ⟨_, ?_, h _ (Array.getElem_mem hlt)⟩
  rw [Raster.pixel?_readback hx hy, Array.getElem?_eq_getElem hlt]

/-- Without transparency the straight bytes are the premultiplied ones. -/
theorem Solid.toStraight_data {r : Raster} (h : r.Solid) :
    r.readback.toStraight.data = r.readback.data := by
  have hmap : r.pixels.map Rgba.unpremultiply = r.pixels := by
    rw [Array.map_congr_left fun p hp => Rgba.unpremultiply_of_solid (h p hp), Array.map_id']
  rw [toStraight_readback, hmap]
  rfl

/-- A blit leaves at least the coverage that there was, and that of the bitmap. -/
theorem blit_coverage {r : Raster} (hr : r.Filled) (left top : Int32) {b : Bitmap} (hb : b.Filled) :
    ∃ r', (blit left top b).runOn r = (.ok (), r') ∧
      ∀ x y p, r.readback.pixel? x y = some p →
        ∃ q, r'.readback.pixel? x y = some q ∧
          (∀ c, b.at? (x.toNat - left.toInt) (y.toNat - top.toInt) = some c →
            max p.a.toNat c.alpha.toNat ≤ q.a.toNat) ∧
          (b.at? (x.toNat - left.toInt) (y.toNat - top.toInt) = none → q.a = p.a) := by
  refine ⟨_, runOn_blit left top hr hb, ?_⟩
  intro x y p hp
  obtain ⟨hin, -⟩ := mem_of_pixel?_readback hp
  refine ⟨_, (pixel?_recolor _ hin.1 hin.2).trans (congrArg (Option.map _) hp), ?_, ?_⟩
  · intro c hc
    rw [hc]
    exact Rgba.max_alpha_le c.premultiplied_premultiply p
  · intro hnone
    rw [hnone]
    rfl

end Raster

namespace Plan

/-- On an opaque background every pixel of a plan is opaque. -/
theorem alpha_pixel {p : Plan} (hclear : p.clear.alpha = 255) (x y : Nat) :
    (p.pixel x y).a = 255 := by
  rw [pixel_eq_foldl]
  refine List.foldlRecOn (motive := fun q : Rgba => q.a = 255) _ _ hclear fun q hq c _ => ?_
  exact Rgba.alpha_sourceOver hq c.premultiplied_premultiply

end Plan

theorem Canvas.solid_redrawn {clear : Argb} (hclear : clear.alpha = 255) (c : Canvas)
    (sprites : SpriteTable) : (c.redrawn sprites clear).raster.Solid := by
  intro p hp
  obtain ⟨i, hi, rfl⟩ := Array.mem_iff_getElem.mp hp
  simp only [Canvas.redrawn, Plan.picture, Array.getElem_ofFn]
  exact Plan.alpha_pixel (p := c.plan sprites clear) hclear _ _

/-! ## Redrawn canvases -/

/-- Pasts in which a canvas was redrawn. A redraw before the canvas was created does not count: it
was one of another canvas, which had the id before the ids of canvases went around. -/
def Redrawn (id : Ident) (past : List Entry) : Prop :=
  ∃ before redraw since, past = before ++ redraw :: since ∧
    (redraw.call = .canvasRedraw id ∧ redraw.result.isOk) ∧
    ∀ e ∈ since, e.created? ≠ some (.canvas, id)

/-- With one more entry, a canvas was redrawn if it just was, or if it was before and has not just
been created. -/
theorem redrawn_concat {id : Ident} {past : List Entry} {e : Entry} :
    Redrawn id (past ++ [e]) ↔
      (e.call = .canvasRedraw id ∧ e.result.isOk) ∨
        Redrawn id past ∧ e.created? ≠ some (.canvas, id) :=
  exists_split_concat

theorem Redrawn.of_concat {id : Ident} {past : List Entry} {e : Entry}
    (h : Redrawn id (past ++ [e])) (hcall : e.call ≠ .canvasRedraw id) : Redrawn id past := by
  rcases redrawn_concat.mp h with ⟨hredraw, -⟩ | ⟨hpast, -⟩
  · exact absurd hredraw hcall
  · exact hpast

/-- Stages on which every canvas that was redrawn is opaque. -/
def Stage.SolidSince {σ : Type} (s : Stage σ) (past : List Entry) : Prop :=
  ∀ id c, s.canvases.find? id = some c → Redrawn id past → c.raster.Solid

namespace Stage.SolidSince

variable {σ : Type} {s : Stage σ} {past : List Entry} {e : Entry}

/-- A call that stores a canvas with the raster that it had keeps the rasters. -/
theorem storeCanvas (h : s.SolidSince past) {target : Ident} {old new : Canvas}
    (hcall : ∀ id, e.call ≠ .canvasRedraw id) (hfind : s.canvases.find? target = some old)
    (hraster : new.raster = old.raster) :
    (s.storeCanvas target new).SolidSince (past ++ [e]) := by
  intro id c hc hredrawn
  have hpast := hredrawn.of_concat (hcall id)
  rw [Stage.storeCanvas, Table.find?_insert] at hc
  split at hc
  · next heq =>
    cases hc
    rw [hraster]
    exact h _ _ (heq ▸ hfind) hpast
  · exact h _ _ hc hpast

end Stage.SolidSince

namespace Host

variable {σ : Type} [EventSink σ] {h h' : Host σ} {c : Call} {reply : Reply} {past : List Entry}

/-- A redraw that goes through counts from then on, as long as its canvas is not made anew. -/
theorem redrawn_history {first later : List Call} {id : Ident}
    (hok : ((h.run first).answer (.canvasRedraw id)).isOk)
    (hkept : ∀ e ∈ ((h.run first).after (.canvasRedraw id)).history later,
      e.created? ≠ some (.canvas, id)) :
    Redrawn id (h.history (first ++ .canvasRedraw id :: later)) :=
  ⟨_, _, _, h.history_append first _, ⟨rfl, hok⟩, hkept⟩

/-- On an opaque background an accepted call keeps the redrawn canvases opaque. -/
theorem Accepts.solidSince (ha : h.Accepts c reply h')
    (hclear : h.stage.settings.clear.alpha = 255) (hs : h.stage.SolidSince past) :
    h'.stage.SolidSince (past ++ [⟨c, .ok reply⟩]) := by
  cases ha with
  | createCanvas within =>
    intro id c hfind hredrawn
    rw [stage_put, Table.find?_insert] at hfind
    split at hfind
    · next heq =>
      -- a canvas that was just created has not been redrawn
      rcases redrawn_concat.mp hredrawn with ⟨hcall, -⟩ | ⟨-, hnew⟩
      · cases hcall
      · exact absurd (by rw [heq]; rfl) hnew
    · exact hs _ _ hfind (hredrawn.of_concat fun hcall => by cases hcall)
  | canvasAddBitmap live found => exact hs.storeCanvas (fun _ hcall => by cases hcall) found rfl
  | canvasRemoveBitmap found sprite =>
    exact hs.storeCanvas (fun _ hcall => by cases hcall) found rfl
  | canvasRedraw found =>
    intro id c hfind hredrawn
    rw [stage_put, Stage.storeCanvas, Table.find?_insert] at hfind
    split at hfind
    · cases hfind
      exact Canvas.solid_redrawn hclear _ _
    · next hne =>
      refine hs _ _ hfind (hredrawn.of_concat fun hcall => hne ?_)
      cases hcall
      rfl
  | _ =>
    -- the canvases are the same as before, and the call is another one
    intro id c hfind hredrawn
    refine hs _ _ hfind (hredrawn.of_concat fun hcall => ?_)
    cases hcall

theorem solidSince_run (settings : Settings) (sink : σ) (calls : List Call)
    (hclear : settings.clear.alpha = 255) :
    ((start settings sink).run calls).stage.SolidSince ((start settings sink).history calls) := by
  refine run_induction (motive := fun past h => h.stage.SolidSince past) settings sink nofun
    (fun {calls c reply h'} ih ha => ?_) (fun ih _ => ?_) calls
  · refine ha.solidSince ?_ ih
    rw [settings_run]
    exact hclear
  · -- a redraw that was refused is none
    intro id c hfind hredrawn
    rcases redrawn_concat.mp hredrawn with ⟨-, hok⟩ | ⟨hpast, -⟩
    · cases hok
    · exact ih _ _ hfind hpast

/-- **Coverage only accumulates.** Whatever was drawn on a raster, a blit leaves at every point under
the bitmap at least the larger of the alpha before and the alpha of the bitmap, and the alpha that
there was at every other point. So under settings with an opaque background, every canvas that was
redrawn in a run is opaque at its end, and the straight bytes of its frame are the premultiplied
ones. -/
theorem coverage_accumulates :
    (∀ (e : Extent) (ss : List Stroke) (left top : Int32) (b : Bitmap), e.area < 2 ^ 63 → b.Filled →
      let r := (Raster.blank e).strokes ss
      ∃ r', (Raster.blit left top b).runOn r = (.ok (), r') ∧
        ∀ x y p, r.readback.pixel? x y = some p →
          ∃ q, r'.readback.pixel? x y = some q ∧
            (∀ c, b.at? (x.toNat - left.toInt) (y.toNat - top.toInt) = some c →
              max p.a.toNat c.alpha.toNat ≤ q.a.toNat) ∧
            (b.at? (x.toNat - left.toInt) (y.toNat - top.toInt) = none → q.a = p.a)) ∧
    ∀ (settings : Settings) (sink : σ) (calls : List Call), settings.clear.alpha = 255 →
      ∀ {id c}, ((start settings sink).run calls).stage.canvases.find? id = some c →
        Redrawn id ((start settings sink).history calls) →
        (∀ x y : UInt32, x < c.extent.width → y < c.extent.height →
          ∃ p, c.raster.readback.pixel? x y = some p ∧ p.a = 255) ∧
        c.raster.readback.toStraight.data = c.raster.readback.data := by
  constructor
  · intro e ss left top b hfits hb r
    have hholds := Raster.holds_premultiplied e ss
    refine Raster.blit_coverage ⟨?_, ?_⟩ left top hb
    · rw [hholds.size_eq, hholds.extent_eq]
    · rw [hholds.extent_eq]
      exact hfits
  · intro settings sink calls hclear id c hfind hredrawn
    have hsolid := solidSince_run settings sink calls hclear _ _ hfind hredrawn
    have hcanvas := (sound_run settings sink calls).canvas hfind
    refine ⟨?_, hsolid.toStraight_data⟩
    intro x y hx hy
    rw [← hcanvas.raster_extent] at hx hy
    refine hsolid.pixel?_readback ?_ hx hy
    rw [hcanvas.raster_size, hcanvas.raster_extent]

/-- Green of a quarter alpha over red of half alpha leaves half alpha at least. A canvas with a
translucent sprite on it is opaque once it was redrawn, also when the sprite is gone. -/
theorem coverage_of_translucent :
    let r := (Raster.blank ⟨1, 1⟩).strokes [.clear ⟨0x80ff0000⟩, .present]
    let first : List Call := [.createCanvas 2 1, .createBitmap 1 1,
      .bitmapSetPixels 1 [0x40112233], .canvasAddBitmap 1 1]
    let later : List Call := [.canvasDeleteBitmap 1, .createCanvas 1 1]
    let h : Host Recorder := (start {} {}).run (first ++ .canvasRedraw 1 :: later)
    (∃ r' q, (Raster.blit 0 0 ⟨⟨1, 1⟩, #[⟨0x4000ff00⟩]⟩).runOn r = (.ok (), r') ∧
      r'.readback.pixel? 0 0 = some q ∧ 128 ≤ q.a.toNat) ∧
    ∃ c p, h.stage.canvases.find? 1 = some c ∧ c.raster.readback.pixel? 1 0 = some p ∧ p.a = 255 ∧
      c.raster.readback.toStraight.data = c.raster.readback.data := by
  intro r first later h
  obtain ⟨hblit, hopaque⟩ := @coverage_accumulates Recorder _
  constructor
  · obtain ⟨r', hrun, hpixels⟩ := hblit ⟨1, 1⟩ [.clear ⟨0x80ff0000⟩, .present] 0 0
      ⟨⟨1, 1⟩, #[⟨0x4000ff00⟩]⟩ (by decide) (by decide)
    have hbefore : r.readback.pixel? 0 0 = some ⟨128, 0, 0, 128⟩ := by decide +kernel
    obtain ⟨q, hq, hcovered, -⟩ := hpixels 0 0 _ hbefore
    refine ⟨r', q, hrun, hq, ?_⟩
    exact Nat.le_trans (Nat.le_max_left _ _) (hcovered ⟨0x4000ff00⟩ (by decide +kernel))
  · have hcanvas : (h.stage.canvases.find? 1).isSome := by decide +kernel
    obtain ⟨c, hfind⟩ := Option.isSome_iff_exists.mp hcanvas
    -- the canvas that was created since is another one
    have hredrawn : Redrawn 1
        ((start {} {} : Host Recorder).history (first ++ .canvasRedraw 1 :: later)) :=
      redrawn_history (by decide +kernel) (by decide +kernel)
    have hextent : (h.stage.canvases.find? 1).map Canvas.extent = some ⟨2, 1⟩ := by decide +kernel
    rw [hfind, Option.map_some, Option.some.injEq] at hextent
    obtain ⟨hpixels, hbytes⟩ := hopaque {} {} _ rfl hfind hredrawn
    obtain ⟨p, hp, halpha⟩ := hpixels 1 0 (by rw [hextent]; decide) (by rw [hextent]; decide)
    exact ⟨c, p, hfind, hp, halpha, hbytes⟩

end Host

end SpriteStage
