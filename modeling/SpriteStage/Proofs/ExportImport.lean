/-
Frames out and in again.

A picture leaves a raster as a frame of straight pixels, and it can come back: packed into words,
uploaded into a bitmap sprite of its size and drawn as the only sprite of a canvas of that size. Over
a transparent background the canvas then shows the frame that was exported, byte for byte.

Three things have to meet. The word of a pixel has to have the pixel as its premultiplied form, which
holds only because reached pixels are premultiplied (`Rgba.Premultiplied.premultiply_pack`). The
orders of the pixels have to agree in the frame, in the words, in the bitmap and on the canvas
(`Raster.words_toStraight`, `Plan.picture_of_import`). And the calls have to go through, which is a
matter of the sizes (`Host.import_frame`).
-/
import SpriteStage.Proofs.History
import SpriteStage.Proofs.Strokes

set_option autoImplicit false

namespace SpriteStage

/-- The pixels of a straight frame as words, row by row. -/
def Frame.words (f : Frame) : List UInt32 := (pixelsOf f.data).toList.map fun p => p.pack.word

/-- The bitmap that the words of exported pixels make. -/
def Bitmap.ofExport (e : Extent) (pixels : Array Rgba) : Bitmap :=
  ⟨e, pixels.map fun p => p.unpremultiply.pack⟩

/-! ## Pixels on the way -/

theorem Raster.words_toStraight (r : Raster) :
    r.readback.toStraight.words = r.pixels.toList.map fun p => p.unpremultiply.pack.word := by
  simp only [Frame.words, toStraight_readback, Frame.pixelsOf_bytesOf, Array.toList_map,
    List.map_map]
  rfl

theorem Bitmap.ofExport_words (b : Bitmap) (r : Raster) :
    { b with pixels := (r.readback.toStraight.words.map Argb.mk).toArray } =
      ofExport b.extent r.pixels := by
  rw [r.words_toStraight, List.map_map, ofExport]
  congr 1
  exact Array.toList_inj.mp (by rw [Array.toList_map]; rfl)

theorem Raster.readback_congr {r r' : Raster} (he : r.extent = r'.extent)
    (hp : r.pixels = r'.pixels) : r.readback = r'.readback := by
  rw [readback, readback, he, hp]

/-- A color without alpha has the transparent pixel. -/
theorem Argb.premultiply_of_alpha {c : Argb} (h : c.alpha = 0) : c.premultiply = .clear :=
  c.premultiplied_premultiply.eq_clear h

/-- A plan that paints nothing but an exported picture, at the origin and over a transparent
background, has that picture. -/
theorem Plan.picture_of_import {p : Plan} {s : Sprite} {e : Extent} {pixels : Array Rgba}
    (hclear : p.clear.alpha = 0) (hops : p.ops = [s])
    (hfigure : s.figure = .bitmap (.ofExport e pixels)) (hleft : s.left = 0) (htop : s.top = 0)
    (hsize : pixels.size = e.area) (hpixels : ∀ q ∈ pixels, q.Premultiplied) :
    p.picture e = pixels := by
  refine Array.ext_getElem? fun i => ?_
  by_cases hi : i < e.area
  · obtain ⟨hx, hy, hindex⟩ := exists_rowMajor hi
    have hin : i < pixels.size := by rw [hsize]; exact hi
    have hpre : (pixels[i]).Premultiplied := hpixels _ (Array.getElem_mem hin)
    have hentry := p.getElem?_picture hx hy
    rw [hindex] at hentry
    rw [hentry, Array.getElem?_eq_getElem hin]
    -- the sprite has the exported color of the pixel at its point, and nothing shines through
    have hcovers : e.Covers (i % e.width.toNat : Nat) (i / e.width.toNat : Nat) :=
      ⟨Int.natCast_nonneg _, Int.ofNat_lt.mpr hx, Int.natCast_nonneg _, Int.ofNat_lt.mpr hy⟩
    have hat : (Bitmap.ofExport e pixels).at? (i % e.width.toNat : Nat) (i / e.width.toNat : Nat) =
        some (pixels[i]).unpremultiply.pack := by
      rw [Bitmap.at?, if_pos (by exact hcovers), Bitmap.ofExport, Extent.indexAt, Int.toNat_natCast,
        Int.toNat_natCast, hindex, Array.getElem?_map, Array.getElem?_eq_getElem hin]
      rfl
    have hzero : (0 : Int32).toInt = 0 := rfl
    rw [pixel, hops, List.foldl_cons, List.foldl_nil, Argb.premultiply_of_alpha hclear,
      Sprite.paint, hfigure]
    simp only [hleft, htop, hzero, Int.sub_zero, hat, Rgba.overlay]
    rw [hpre.premultiply_pack, hpre.sourceOver_clear]
  · rw [Array.getElem?_eq_none (by rw [size_picture]; omega),
      Array.getElem?_eq_none (by rw [hsize]; omega)]

theorem Canvas.ops_of_single {c : Canvas} {sprites : SpriteTable} {id : Ident} {s : Sprite}
    (hc : c.references = [id]) (hs : sprites.find? id = some s) (clear : Argb) :
    (c.plan sprites clear).ops = [s] := by
  simp only [plan, hc, List.filterMap_cons, hs, List.filterMap_nil, List.mergeSort_singleton]

/-! ## The calls -/

/-- Stages with a canvas that nothing is attached to, and with a bitmap sprite of its size at the
origin. -/
structure Stage.Ready {σ : Type} (s : Stage σ) (canvas sprite : Ident) (e : Extent) : Prop where
  canvas : ∃ c, s.canvases.find? canvas = some c ∧ c.extent = e ∧ c.references = []
  sprite : ∃ sp b, s.sprites.find? sprite = some sp ∧ sp.figure = .bitmap b ∧ b.extent = e ∧
    sp.left = 0 ∧ sp.top = 0

namespace Host

variable {σ : Type} [EventSink σ] {h : Host σ}

/-- A canvas and a sprite of any admitted size can be made, and are ready for an import. -/
theorem ready_of_creation (hs : h.stage.Sound) {width height : Int32}
    (hsize : Extent.Within h.stage.settings.limit width height) :
    (h.history [.createCanvas width height, .createBitmap width height]).map Entry.result =
        [.ok (.id (h.stage.counters.next .canvas)), .ok (.id (h.stage.counters.next .sprite))] ∧
      (h.run [.createCanvas width height, .createBitmap width height]).stage.Ready
        (h.stage.counters.next .canvas) (h.stage.counters.next .sprite)
        ⟨width.toUInt32, height.toUInt32⟩ := by
  obtain ⟨h₁, hcanvas, hsettings, hnext, hfind⟩ : ∃ h₁,
      h.Accepts (.createCanvas width height) (.id (h.stage.counters.next .canvas)) h₁ ∧
        h₁.stage.settings = h.stage.settings ∧
        h₁.stage.counters.next .sprite = h.stage.counters.next .sprite ∧
        h₁.stage.canvases.find? (h.stage.counters.next .canvas) =
          some (.blank (h.stage.counters.next .canvas) ⟨width.toUInt32, height.toUInt32⟩) :=
    ⟨_, .createCanvas hsize, rfl, rfl, Table.find?_insert_self ..⟩
  rw [← hsettings] at hsize
  have hbitmap := Accepts.createBitmap hsize
  have hs₁ := hcanvas.sound hs
  rw [history_cons_of_accepts hs hcanvas, history_cons_of_accepts hs₁ hbitmap,
    run_cons_of_accepts hs hcanvas, run_cons_of_accepts hs₁ hbitmap, ← hnext]
  exact ⟨rfl, ⟨_, hfind, rfl, rfl⟩, _, _, Table.find?_insert_self .., rfl, rfl, rfl, rfl⟩

/-- The upload of an exported picture is accepted by a sprite of its size, which then has it. -/
theorem upload_accepted (hs : h.stage.Sound) {sprite : Ident} {sp : Sprite} {b : Bitmap}
    (hfind : h.stage.sprites.find? sprite = some sp) (hfigure : sp.figure = .bitmap b) {r : Raster}
    (hsize : r.pixels.size = b.extent.area) :
    ∃ h', h.Accepts (.bitmapSetPixels sprite r.readback.toStraight.words) .done h' ∧
      h'.stage.settings = h.stage.settings ∧ h'.stage.canvases = h.stage.canvases ∧
      h'.stage.sprites.find? sprite =
        some { sp with figure := .bitmap (.ofExport b.extent r.pixels) } := by
  have hcount : r.readback.toStraight.words.length = b.pixels.size := by
    rw [r.words_toStraight, List.length_map, Array.length_toList, hsize,
      (hs.sprite hfind).size_eq b hfigure]
  refine ⟨_, .bitmapSetPixels hfind hfigure hcount, rfl, rfl, ?_⟩
  rw [b.ofExport_words, stage_put, Stage.storeSprite, SpriteTable.find?_store,
    if_pos (hs.sprite hfind).id_eq.symm]

/-- **An import goes through.** On a sound stage with a transparent background, the frame of a
raster of the right size can be uploaded, attached and drawn, and the canvas then reads back as that
frame. -/
theorem import_frame (hs : h.stage.Sound) (hclear : h.stage.settings.clear.alpha = 0)
    {canvas sprite : Ident} {e : Extent} (hready : h.stage.Ready canvas sprite e) {r : Raster}
    (hr : r.Holds e Rgba.Premultiplied) :
    let steps := [.bitmapSetPixels sprite r.readback.toStraight.words,
      .canvasAddBitmap canvas sprite, .canvasRedraw canvas]
    (∀ entry ∈ h.history steps, ∃ reply, entry.result = .ok reply) ∧
      ∃ c, (h.run steps).stage.canvases.find? canvas = some c ∧ c.references = [sprite] ∧
        c.raster.readback = r.readback := by
  obtain ⟨⟨c, hcanvas, hce, hrefs⟩, sp, b, hsprite, hfigure, hbe, hleft, htop⟩ := hready
  have hraster : c.raster.extent = e := (hs.canvas hcanvas).raster_extent.trans hce
  obtain ⟨h₁, hupload, hsettings, hcanvases, hlive⟩ :=
    upload_accepted hs hsprite hfigure (by rw [hr.size_eq, hbe])
  rw [← hcanvases] at hcanvas
  have hattach := Accepts.canvasAddBitmap hlive hcanvas
  -- after the attachment the canvas refers to the sprite and to nothing else
  have hfound : (h₁.stage.storeCanvas canvas (c.attach sprite)).canvases.find? canvas =
      some (c.attach sprite) := Table.find?_insert_self ..
  have hone : (c.attach sprite).references = [sprite] := by
    rw [Canvas.attach, hrefs]
    rfl
  have hredraw := Accepts.canvasRedraw (h := h₁.put _) hfound
  have hs₁ := hupload.sound hs
  have hs₂ := hattach.sound hs₁
  intro steps
  rw [history_cons_of_accepts hs hupload, history_cons_of_accepts hs₁ hattach,
    history_cons_of_accepts hs₂ hredraw, run_cons_of_accepts hs hupload,
    run_cons_of_accepts hs₁ hattach, run_cons_of_accepts hs₂ hredraw]
  refine ⟨by simp [history], _, Table.find?_insert_self .., hone, ?_⟩
  refine Raster.readback_congr (hraster.trans hr.extent_eq.symm) ?_
  have hpicture := Plan.picture_of_import
    (p := (c.attach sprite).plan h₁.stage.sprites h₁.stage.settings.clear)
    ((congrArg (·.clear.alpha) hsettings).trans hclear)
    (Canvas.ops_of_single hone hlive _) rfl hleft htop (by rw [hr.size_eq, hbe]) hr.pixel
  rw [hbe] at hpicture
  rw [← hpicture]
  -- the raster of the canvas has the extent of the exported one
  exact congrArg ((c.attach sprite).plan h₁.stage.sprites h₁.stage.settings.clear).picture hraster

/-- **Export and import lose nothing.** After any drawing calls a raster has a frame. On every stage
that a run can end on, if the background is without alpha and the limit admits the size, a canvas and
a bitmap sprite of that size can be made. On every such stage where a canvas of the size has no
references and a bitmap sprite of the size stands at the origin, the words of the frame can be
uploaded, the sprite attached and the canvas redrawn, and the canvas then reads back as the frame. -/
theorem export_import_lossless (settings : Settings) (sink : σ) (calls : List Call)
    {width height : Int32} (hsize : Extent.Within settings.limit width height)
    (hclear : settings.clear.alpha = 0) (ss : List Stroke) :
    let e : Extent := ⟨width.toUInt32, height.toUInt32⟩
    let frame := ((Raster.blank e).strokes ss).readback
    let h := (start settings sink).run calls
    (let creation := [.createCanvas width height, .createBitmap width height];
      (h.history creation).map Entry.result =
          [.ok (.id (h.stage.counters.next .canvas)), .ok (.id (h.stage.counters.next .sprite))] ∧
        (h.run creation).stage.Ready (h.stage.counters.next .canvas)
          (h.stage.counters.next .sprite) e) ∧
    ∀ canvas sprite, h.stage.Ready canvas sprite e →
      let steps := [.bitmapSetPixels sprite frame.toStraight.words,
        .canvasAddBitmap canvas sprite, .canvasRedraw canvas]
      (∀ entry ∈ h.history steps, ∃ reply, entry.result = .ok reply) ∧
        ∃ c, (h.run steps).stage.canvases.find? canvas = some c ∧ c.references = [sprite] ∧
          c.raster.readback = frame := by
  intro e frame h
  have hs : h.stage.Sound := sound_run settings sink calls
  have hsettings : h.stage.settings = settings := settings_run settings sink calls
  refine ⟨?_, ?_⟩
  · rw [← hsettings] at hsize
    exact ready_of_creation hs hsize
  · intro canvas sprite hready
    rw [← hsettings] at hclear
    exact import_frame hs hclear hready (Raster.holds_premultiplied e ss)

/-- Two half-transparent points, one of them under a faint blue one, come back as they were. -/
theorem import_two_points :
    let r := (Raster.blank ⟨2, 1⟩).strokes
      [.clear ⟨0x80ff0000⟩, .blit 1 0 ⟨⟨1, 1⟩, #[⟨0x400000ff⟩]⟩]
    let h : Host Recorder :=
      (start { clear := .transparent } {}).run [.createCanvas 2 1, .createBitmap 2 1]
    r.readback.toStraight.words = [0x80ff0000, 0xa0990066] ∧
    ∃ c, (h.run [.bitmapSetPixels 1 r.readback.toStraight.words, .canvasAddBitmap 1 1,
        .canvasRedraw 1]).stage.canvases.find? 1 = some c ∧ c.raster.readback = r.readback := by
  intro r h
  have hready : h.stage.Ready 1 1 ⟨2, 1⟩ :=
    ⟨⟨_, rfl, rfl, rfl⟩, _, _, rfl, rfl, rfl, rfl, rfl⟩
  obtain ⟨-, himport⟩ := export_import_lossless { clear := .transparent } ({} : Recorder)
    [.createCanvas 2 1, .createBitmap 2 1] (by decide : Extent.Within 4096 2 1) (by decide)
    [.clear ⟨0x80ff0000⟩, .blit 1 0 ⟨⟨1, 1⟩, #[⟨0x400000ff⟩]⟩]
  obtain ⟨-, c, hfind, -, hframe⟩ := himport 1 1 hready
  exact ⟨by decide +kernel, c, hfind, hframe⟩

end Host

end SpriteStage
