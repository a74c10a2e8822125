/-
Sprites as the last writes of a history.

Five calls write to a sprite: its position, its depth, its text, one point, all points. The writes
of a history to an id are in the order of the calls that made them (`writesTo`), and only calls that
went through count. After every run a live sprite has, in each attribute, the last value that was
written to it since it was created, or else the one it was created with
(`Host.sprites_are_last_writes`). Sprites without a call that names them stay as they are, and so do
the other points of a bitmap when one point is written, for two points never share an index.
-/
import SpriteStage.Proofs.Presence

set_option autoImplicit false

namespace SpriteStage

/-! ## Writes -/

/-- A change of one attribute of a sprite. -/
inductive Write where
  | position (left top : Int32)
  | depth (z : Int32)
  | content (text : String)
  -- one point, and all points row by row
  | pixel (x y : Int32) (color : Argb)
  | pixels (words : List UInt32)

/-- The write of an entry, with the sprite that it goes to. A failed call writes nothing. -/
def Entry.write? : Entry → Option (Ident × Write)
  | ⟨.bitmapSetPosition id left top, .ok _⟩ => some (id, .position left top)
  | ⟨.bitmapSetZIndex id z, .ok _⟩ => some (id, .depth z)
  | ⟨.setText id text, .ok _⟩ => some (id, .content text)
  | ⟨.modifyBitmap id x y color, .ok _⟩ => some (id, .pixel x y color)
  | ⟨.bitmapSetPixels id words, .ok _⟩ => some (id, .pixels words)
  | _ => none

/-- The write of an entry to one sprite. -/
def Entry.writeTo? (id : Ident) (e : Entry) : Option Write :=
  e.write?.bind fun (target, w) => if target = id then some w else none

/-- The writes to one sprite, the first one first. -/
def writesTo (id : Ident) (past : List Entry) : List Write := past.filterMap (Entry.writeTo? id)

namespace Write

/-! What a write gives to each attribute, if it gives anything to it. -/

def position? : Write → Option (Int32 × Int32)
  | position left top => some (left, top)
  | _ => none

def depth? : Write → Option Int32
  | depth z => some z
  | _ => none

def content? : Write → Option String
  | content text => some text
  | _ => none

/-- The color that a write gives to a point of a bitmap: a single point has to be that point, and
among the words for all points it is the one at the index of the point. -/
def color? (e : Extent) (x y : Int32) : Write → Option Argb
  | pixel x' y' color => if x = x' ∧ y = y' then some color else none
  | pixels words => words[e.indexAt x.toInt y.toInt]?.map Argb.mk
  | _ => none

/-- The last value that writes give to an attribute. -/
def last? {α : Type} (value? : Write → Option α) (ws : List Write) : Option α :=
  (ws.filterMap value?).getLast?

theorem last?_concat {α : Type} (value? : Write → Option α) (ws : List Write) (w : Write) :
    last? value? (ws ++ [w]) = (value? w).or (last? value? ws) := by
  rw [last?, List.filterMap_append, List.getLast?_append]
  cases h : value? w <;> simp [last?, h]

/-- What a write makes of a sprite. A text is written to a text sprite, points to a bitmap sprite. -/
inductive Takes : Write → Sprite → Sprite → Prop where
  | position (s : Sprite) (left top : Int32) : Takes (position left top) s { s with left, top }
  | depth (s : Sprite) (z : Int32) : Takes (depth z) s { s with z }
  | content {s : Sprite} {t : Label} (shape : s.figure = .text t) (text : String) :
    Takes (content text) s { s with figure := .text { t with content := text } }
  | pixel {s : Sprite} {b b' : Bitmap} {x y : Int32} {color : Argb} (shape : s.figure = .bitmap b)
      (inside : b.setPixel? x y color = some b') :
    Takes (pixel x y color) s { s with figure := .bitmap b' }
  | pixels {s : Sprite} {b : Bitmap} {words : List UInt32} (shape : s.figure = .bitmap b)
      (count : words.length = b.pixels.size) :
    Takes (pixels words) s
      { s with figure := .bitmap { b with pixels := (words.map Argb.mk).toArray } }

theorem Takes.id_eq {w : Write} {s s' : Sprite} (ht : w.Takes s s') : s'.id = s.id := by
  cases ht <;> rfl

end Write

/-! ## Sprites that follow their writes -/

/-- Sprites that have in each attribute the last value written, or else the one from their
creation. -/
structure Sprite.Follows (s : Sprite) (origin : Call) (ws : List Write) : Prop where
  position : (s.left, s.top) = (Write.last? Write.position? ws).getD (0, 0)
  depth : s.z = (Write.last? Write.depth? ws).getD 0
  text : ∀ {content color size}, origin = .createText content color size →
    ∃ t, s.figure = .text t ∧ t.content = (Write.last? Write.content? ws).getD content ∧
      t.color = color ∧ t.fontSize.toNat = size.toInt
  bitmap : ∀ {width height}, origin = .createBitmap width height →
    ∃ b, s.figure = .bitmap b ∧
      b.extent.width.toNat = width.toInt ∧ b.extent.height.toNat = height.toInt ∧
      ∀ x y : Int32, b.extent.Covers x.toInt y.toInt →
        b.pixel? x y = some ((Write.last? (Write.color? b.extent x y) ws).getD .transparent)

namespace Sprite.Follows

variable {s s' : Sprite} {origin : Call} {ws : List Write} {w : Write}

/-- A new bitmap sprite follows no writes. -/
theorem created_bitmap (id : Ident) {limit : UInt32} {width height : Int32}
    (hsize : Extent.Within limit width height) :
    Follows { id, figure := .bitmap (.blank ⟨width.toUInt32, height.toUInt32⟩) }
      (.createBitmap width height) [] where
  position := rfl
  depth := rfl
  text := nofun
  bitmap := by
    rintro _ _ ⟨⟩
    obtain ⟨⟨hw, -⟩, hh, -⟩ := hsize
    have hwidth : width.toUInt32.toNat = width.toInt.toNat := toNat_toUInt32_of_nonneg (by omega)
    have hheight : height.toUInt32.toNat = height.toInt.toNat :=
      toNat_toUInt32_of_nonneg (by omega)
    refine ⟨_, rfl, ?_, ?_, fun x y hcovers => ?_⟩
    · rw [Bitmap.blank, hwidth, Int.toNat_of_nonneg (by omega)]
    · rw [Bitmap.blank, hheight, Int.toNat_of_nonneg (by omega)]
    · rw [Bitmap.pixel?_blank, if_pos (by exact hcovers)]
      rfl

/-- A new text sprite follows no writes. -/
theorem created_text (id : Ident) {size : Int32} (hsize : 0 < size.toInt) (text : String)
    (color : Argb) :
    Follows { id, figure := .text ⟨text, color, size.toUInt32⟩ } (.createText text color size) []
    where
  position := rfl
  depth := rfl
  text := by
    rintro _ _ _ ⟨⟩
    have hnat : size.toUInt32.toNat = size.toInt.toNat := toNat_toUInt32_of_nonneg (by omega)
    refine ⟨_, rfl, rfl, rfl, ?_⟩
    rw [hnat, Int.toNat_of_nonneg (by omega)]
  bitmap := nofun

/-- A write that is no text leaves the text of a sprite as it was. -/
theorem text_kept (hf : s.Follows origin ws) (hfigure : s'.figure = s.figure)
    (hw : w.content? = none) {content : String} {color : Argb} {size : Int32}
    (h : origin = .createText content color size) :
    ∃ t, s'.figure = .text t ∧
      t.content = (Write.last? Write.content? (ws ++ [w])).getD content ∧
      t.color = color ∧ t.fontSize.toNat = size.toInt := by
  rw [hfigure, Write.last?_concat, hw, Option.none_or]
  exact hf.text h

/-- A write that recolors no point leaves the bitmap of a sprite as it was. -/
theorem bitmap_kept (hf : s.Follows origin ws) (hfigure : s'.figure = s.figure)
    (hw : ∀ e x y, w.color? e x y = none) {width height : Int32}
    (h : origin = .createBitmap width height) :
    ∃ b, s'.figure = .bitmap b ∧
      b.extent.width.toNat = width.toInt ∧ b.extent.height.toNat = height.toInt ∧
      ∀ x y : Int32, b.extent.Covers x.toInt y.toInt →
        b.pixel? x y =
          some ((Write.last? (Write.color? b.extent x y) (ws ++ [w])).getD .transparent) := by
  obtain ⟨b, hb, hwidth, hheight, hpixel⟩ := hf.bitmap h
  refine ⟨b, hfigure.trans hb, hwidth, hheight, fun x y hcovers => ?_⟩
  rw [Write.last?_concat, hw, Option.none_or]
  exact hpixel x y hcovers

/-- A write that recolors points gives each point its color, if it has one for the point. -/
theorem bitmap_recolored {b b' : Bitmap} (hf : s.Follows origin ws) (hb : s.figure = .bitmap b)
    (hextent : b'.extent = b.extent)
    (hpixel : ∀ x y : Int32, b.extent.Covers x.toInt y.toInt →
      b'.pixel? x y = (w.color? b.extent x y).or (b.pixel? x y))
    {width height : Int32} (h : origin = .createBitmap width height) :
    ∃ b₁, Figure.bitmap b' = .bitmap b₁ ∧
      b₁.extent.width.toNat = width.toInt ∧ b₁.extent.height.toNat = height.toInt ∧
      ∀ x y : Int32, b₁.extent.Covers x.toInt y.toInt →
        b₁.pixel? x y =
          some ((Write.last? (Write.color? b₁.extent x y) (ws ++ [w])).getD .transparent) := by
  obtain ⟨b₀, hb₀, hwidth, hheight, hold⟩ := hf.bitmap h
  obtain rfl : b₀ = b := Figure.bitmap.inj (hb₀.symm.trans hb)
  rw [← hextent] at hwidth hheight hold hpixel
  refine ⟨b', rfl, hwidth, hheight, fun x y hcovers => ?_⟩
  rw [hpixel x y hcovers, Write.last?_concat, hold x y hcovers]
  cases w.color? b'.extent x y <;> rfl

/-- **One write.** A sprite that follows its writes takes one more and follows them still. -/
theorem takes {limit : UInt32} {id : Ident} (hf : s.Follows origin ws) (hs : s.Sound limit id)
    (ht : w.Takes s s') : s'.Follows origin (ws ++ [w]) := by
  -- position and depth keep their last values under every write that does not give them
  have hposition (h : w.position? = none) :
      (s.left, s.top) = (Write.last? Write.position? (ws ++ [w])).getD (0, 0) := by
    rw [Write.last?_concat, h, Option.none_or]
    exact hf.position
  have hdepth (h : w.depth? = none) : s.z = (Write.last? Write.depth? (ws ++ [w])).getD 0 := by
    rw [Write.last?_concat, h, Option.none_or]
    exact hf.depth
  cases ht with
  | position left top =>
    refine ⟨?_, hdepth rfl, hf.text_kept rfl rfl, hf.bitmap_kept rfl fun _ _ _ => rfl⟩
    rw [Write.last?_concat]
    rfl
  | depth z =>
    refine ⟨hposition rfl, ?_, hf.text_kept rfl rfl, hf.bitmap_kept rfl fun _ _ _ => rfl⟩
    rw [Write.last?_concat]
    rfl
  | content shape text =>
    refine ⟨hposition rfl, hdepth rfl, ?_, ?_⟩
    · intro content color size h
      obtain ⟨t, ht, -, hcolor, hsize⟩ := hf.text h
      obtain rfl := Figure.text.inj (shape.symm.trans ht)
      refine ⟨_, rfl, ?_, hcolor, hsize⟩
      rw [Write.last?_concat]
      rfl
    · intro width height h
      obtain ⟨b, hb, -⟩ := hf.bitmap h
      cases shape.symm.trans hb
  | pixel shape inside =>
    refine ⟨hposition rfl, hdepth rfl, ?_, ?_⟩
    · intro content color size h
      obtain ⟨t, ht, -⟩ := hf.text h
      cases shape.symm.trans ht
    · refine hf.bitmap_recolored shape (Bitmap.extent_setPixel? inside).1 fun x y _ => ?_
      rw [Bitmap.pixel?_setPixel? (hs.filled shape) inside, Write.color?]
      split <;> rfl
  | pixels shape count =>
    refine ⟨hposition rfl, hdepth rfl, ?_, ?_⟩
    · intro content color size h
      obtain ⟨t, ht, -⟩ := hf.text h
      cases shape.symm.trans ht
    · refine hf.bitmap_recolored shape (by rfl) fun x y hcovers => ?_
      -- there is a word for every point, so no point falls back on an earlier color
      have hindex := hcovers.index_lt
      rw [← hs.size_eq _ shape, ← count] at hindex
      rw [Bitmap.pixel?_words, if_pos hcovers, Write.color?, List.getElem?_eq_getElem hindex]
      rfl

end Sprite.Follows

/-! ## One call -/

@[simp] theorem Entry.writeTo?_error (id : Ident) (c : Call) (fault : Fault) :
    (⟨c, .error fault⟩ : Entry).writeTo? id = none := by
  cases c <;> rfl

/-- The call of a creation writes nothing. -/
theorem Entry.writeTo?_of_created {e : Entry} {created : Kind × Ident}
    (h : e.created? = some created) (id : Ident) : e.writeTo? id = none := by
  obtain ⟨c, result⟩ := e
  cases c <;> first | rfl | cases h

theorem writesTo_concat (id : Ident) (past : List Entry) (e : Entry) :
    writesTo id (past ++ [e]) = writesTo id past ++ (e.writeTo? id).toList := by
  rw [writesTo, List.filterMap_append, ← writesTo]
  cases h : e.writeTo? id <;> simp [h]

/-- What an entry tells about a sprite that is live after it: the sprite was just created, or it was
there before and was kept, and then it took the write of the entry if there is one. -/
inductive Entry.Leaves (e : Entry) (id : Ident) (before : Option Sprite) (s' : Sprite) : Prop where
  | created (hc : e.created? = some (.sprite, id)) (new : s'.Follows e.call [])
  | kept (hc : e.created? ≠ some (.sprite, id)) (hr : e.call.removes? ≠ some (.sprite, id))
      (hw : e.writeTo? id = none) (old : before = some s')
  | written {s : Sprite} {w : Write} (hc : e.created? ≠ some (.sprite, id))
      (hr : e.call.removes? ≠ some (.sprite, id)) (hw : e.writeTo? id = some w)
      (old : before = some s) (takes : w.Takes s s')

theorem Entry.not_created_sprite {e : Entry} (h : e.call.creates? ≠ some .sprite) (id : Ident) :
    e.created? ≠ some (.sprite, id) := by
  intro hc
  unfold Entry.created? at hc
  split at hc
  · next hk _ =>
    cases hc
    exact h hk
  · cases hc

namespace Host

variable {σ : Type} [EventSink σ] {h h' : Host σ} {c : Call} {reply : Reply}

omit [EventSink σ] in
/-- Storing a new sprite under the id that was replied. -/
theorem leaves_new {id : Ident} {new s' : Sprite} (hr : c.removes? = none)
    (hw : (⟨c, .ok reply⟩ : Entry).write? = none)
    (hc : (⟨c, .ok reply⟩ : Entry).created? = some (.sprite, new.id)) (hnew : new.Follows c [])
    (hfind : (h.stage.sprites.store new).find? id = some s') :
    (⟨c, .ok reply⟩ : Entry).Leaves id (h.stage.sprites.find? id) s' := by
  rw [SpriteTable.find?_store] at hfind
  split at hfind
  · next heq =>
    subst heq
    cases hfind
    exact .created hc hnew
  · next hne =>
    refine .kept (fun hc' => hne ?_) (by simp [hr]) (by simp [Entry.writeTo?, hw]) hfind
    cases hc.symm.trans hc'
    rfl

omit [EventSink σ] in
/-- Storing what a write made of a sprite is a write to that sprite and to no other. -/
theorem leaves_store (hs : h.stage.Sound) {target id : Ident} {old new s' : Sprite} {w : Write}
    (found : h.stage.sprites.find? target = some old) (ht : w.Takes old new)
    (hc : c.creates? = none) (hr : c.removes? = none)
    (hw : (⟨c, .ok reply⟩ : Entry).write? = some (target, w))
    (hfind : (h.stage.sprites.store new).find? id = some s') :
    (⟨c, .ok reply⟩ : Entry).Leaves id (h.stage.sprites.find? id) s' := by
  have hcreated : (⟨c, .ok reply⟩ : Entry).created? ≠ some (.sprite, id) :=
    Entry.not_created_sprite (by simp [hc]) id
  have hremoves : c.removes? ≠ some (.sprite, id) := by simp [hr]
  rw [SpriteTable.find?_store, ht.id_eq, (hs.sprite found).id_eq] at hfind
  split at hfind
  · next heq =>
    subst heq
    cases hfind
    exact .written hcreated hremoves (by simp [Entry.writeTo?, hw]) found ht
  · next hne =>
    exact .kept hcreated hremoves (by simp [Entry.writeTo?, hw, Ne.symm hne]) hfind

/-- **The sprites after an accepted call.** -/
theorem Accepts.leaves (ha : h.Accepts c reply h') (hs : h.stage.Sound) {id : Ident} {s' : Sprite}
    (hfind : h'.stage.sprites.find? id = some s') :
    (⟨c, .ok reply⟩ : Entry).Leaves id (h.stage.sprites.find? id) s' := by
  cases ha with
  | createBitmap within =>
    exact leaves_new rfl rfl rfl (.created_bitmap _ within) hfind
  | createText positive text color =>
    exact leaves_new rfl rfl rfl (.created_text _ positive text color) hfind
  | canvasDeleteBitmap sprite =>
    rw [stage_put, SpriteTable.find?_delete] at hfind
    split at hfind
    · cases hfind
    · next hne =>
      have hremoves : (Call.canvasDeleteBitmap sprite).removes? ≠ some (.sprite, id) := by
        simp [Call.removes?, Ne.symm hne]
      exact .kept (Entry.not_created_sprite (by simp [Call.creates?]) id) hremoves rfl hfind
  | setText found shape text =>
    exact leaves_store hs found (.content shape text) rfl rfl rfl hfind
  | modifyBitmap found shape inside =>
    exact leaves_store hs found (.pixel shape inside) rfl rfl rfl hfind
  | bitmapSetPixels found shape count =>
    exact leaves_store hs found (.pixels shape count) rfl rfl rfl hfind
  | bitmapSetPosition found left top =>
    exact leaves_store hs found (.position _ left top) rfl rfl rfl hfind
  | bitmapSetZIndex found z =>
    exact leaves_store hs found (.depth _ z) rfl rfl rfl hfind
  | _ =>
    -- the sprite table is the same as before
    exact .kept (Entry.not_created_sprite (by simp [Call.creates?]) id) (by simp [Call.removes?])
      rfl hfind

/-- A call that writes to a sprite is accepted only if the sprite is there. -/
theorem Accepts.has_of_write (ha : h.Accepts c reply h') {id : Ident} {w : Write}
    (hw : (⟨c, .ok reply⟩ : Entry).writeTo? id = some w) : h.stage.has .sprite id := by
  have htarget {target : Ident} {u : Write} {s : Sprite}
      (h₁ : (⟨c, .ok reply⟩ : Entry).write? = some (target, u))
      (found : h.stage.sprites.find? target = some s) : h.stage.has .sprite id := by
    obtain rfl : target = id := by
      by_contra hne
      simp [Entry.writeTo?, h₁, hne] at hw
    rw [Stage.has, found]
    rfl
  cases ha with
  | setText found | modifyBitmap found | bitmapSetPixels found | bitmapSetPosition found
  | bitmapSetZIndex found => exact htarget rfl found
  | _ => cases hw

/-! ## Runs -/

variable (settings : Settings) (sink : σ) (calls : List Call)

/-- Every live sprite follows the writes since its creation. -/
theorem follows_run {id : Ident} {s : Sprite}
    (hfind : ((start settings sink).run calls).stage.sprites.find? id = some s) :
    ∃ before origin since,
      Lineage .sprite id ((start settings sink).history calls) before origin since ∧
        s.Follows origin.call (writesTo id since) := by
  -- the induction is on the run; for every id it carries the lineage of the sprite found under it
  refine run_induction (motive := fun past h => ∀ {s}, h.stage.sprites.find? id = some s →
    ∃ before origin since, Lineage .sprite id past before origin since ∧
      s.Follows origin.call (writesTo id since)) settings sink nofun ?_ ?_ calls hfind
  · intro calls c reply h' ih ha s' hfind'
    have hs := sound_run settings sink calls
    rcases ha.leaves hs hfind' with ⟨hc, new⟩ | ⟨hc, hr, hw, old⟩ | ⟨hc, hr, hw, old, takes⟩
    · exact ⟨_, _, [], .of_created hc, new⟩
    · -- the sprite was there before, so its lineage only gets longer
      obtain ⟨before, origin, since, hl, hf⟩ := ih old
      refine ⟨before, origin, _, hl.concat hc hr, ?_⟩
      rw [writesTo_concat, hw, Option.toList_none, List.append_nil]
      exact hf
    · obtain ⟨before, origin, since, hl, hf⟩ := ih old
      refine ⟨before, origin, _, hl.concat hc hr, ?_⟩
      rw [writesTo_concat, hw, Option.toList_some]
      exact hf.takes (hs.sprite old) takes
  · intro calls c fault ih hr s hfind'
    obtain ⟨before, origin, since, hl, hf⟩ := ih hfind'
    refine ⟨before, origin, _, hl.concat (by simp) (by simp [hr.removes?_eq]), ?_⟩
    rw [writesTo_concat, Entry.writeTo?_error, Option.toList_none, List.append_nil]
    exact hf

/-- A sprite is written to only after an entry that tells its creation. -/
theorem created_of_write {id : Ident} {front : List Entry} {e : Entry} {w : Write}
    (hinit : front ++ [e] <+: (start settings sink).history calls)
    (hw : e.writeTo? id = some w) : ∃ e' ∈ front, e'.created? = some (.sprite, id) := by
  refine run_induction (motive := fun past _ => front ++ [e] <+: past →
    ∃ e' ∈ front, e'.created? = some (.sprite, id)) settings sink ?_ ?_ ?_ calls hinit
  · intro hnil
    simp at hnil
  · intro calls c reply h' ih ha hp
    rcases List.prefix_concat_iff.mp hp with heq | hp
    · -- the write is the last entry: its sprite was found, hence live, hence created before
      obtain ⟨rfl, hlast⟩ := List.append_inj' heq rfl
      cases hlast
      have hlive := (has_run_iff settings sink calls .sprite id).mp (ha.has_of_write hw)
      obtain ⟨before, origin, since, hsplit, hcreated, -⟩ := hlive
      exact ⟨origin, by simp [hsplit], hcreated⟩
    · exact ih hp
  · intro calls c fault ih hr hp
    rcases List.prefix_concat_iff.mp hp with heq | hp
    · obtain ⟨rfl, hlast⟩ := List.append_inj' heq rfl
      cases hlast
      rw [Entry.writeTo?_error] at hw
      cases hw
    · exact ih hp

/-- As long as no id was issued twice, all writes to a live sprite came after its creation. -/
theorem writesTo_history {id : Ident} {before since : List Entry} {origin : Entry}
    (hl : Lineage .sprite id ((start settings sink).history calls) before origin since)
    (hfew : (issued .sprite ((start settings sink).history calls)).length < 2 ^ 32) :
    writesTo id ((start settings sink).history calls) = writesTo id since := by
  -- a write before the creation would need a creation before it, and there is only one
  have hbefore : writesTo id before = [] := by
    rw [writesTo, List.filterMap_eq_nil_iff]
    intro e he
    by_contra hne
    obtain ⟨w, hw⟩ := Option.ne_none_iff_exists'.mp hne
    obtain ⟨front, rest, rfl⟩ := List.append_of_mem he
    have hinit : front ++ [e] <+: (start settings sink).history calls :=
      ⟨rest ++ origin :: since, by simp [hl.split]⟩
    obtain ⟨e', hmem, hcreated⟩ := created_of_write settings sink calls hinit hw
    exact created_once hl hfew e' (List.mem_append_left _ hmem) hcreated
  have horigin : origin.writeTo? id = none := Entry.writeTo?_of_created hl.created id
  rw [hl.split, writesTo, List.filterMap_append, List.filterMap_cons_none horigin, ← writesTo,
    ← writesTo, hbefore, List.nil_append]

/-- **Sprites are the last writes of the history.** After every run an id is live exactly if it was
replied by a creation and not deleted since. A live sprite follows the writes since its creation,
and these are all the writes that were ever made to its id as long as the ids of sprites have not
gone around. -/
theorem sprites_are_last_writes (id : Ident) :
    let past := (start settings sink).history calls
    let sprites := ((start settings sink).run calls).stage.sprites
    (sprites.contains id = true ↔ Live .sprite id past) ∧
      ∀ s, sprites.find? id = some s →
        ∃ before origin since, Lineage .sprite id past before origin since ∧
          s.Follows origin.call (writesTo id since) ∧
          ((issued .sprite past).length < 2 ^ 32 → writesTo id past = writesTo id since) := by
  refine ⟨has_run_iff settings sink calls .sprite id, fun s hfind => ?_⟩
  obtain ⟨before, origin, since, hl, hf⟩ := follows_run settings sink calls hfind
  exact ⟨before, origin, since, hl, hf, writesTo_history settings sink calls hl⟩

end Host

end SpriteStage
