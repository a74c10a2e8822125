/-
Uploads and single writes.

An upload recolors a bitmap sprite at once, from one word for each point, row by row. The same can
be said point by point: write to every point the word that stands at its index. The order of the
points does not matter, and neither does what the bitmap showed before, because after the last write
every point has the color that is due to it (`SpriteTable.setEach_eq`), and a bitmap is determined by
the colors of its points (`Bitmap.ext_pixel?`).

The second half is where the sizes enter. Points are given by signed words, so that a bitmap is
determined by what can be asked of it needs every index to be the index of such a point, which holds
since no admitted extent has a side of `2 ^ 31` or more.
-/
import SpriteStage.Proofs.CanonicalPlan

set_option autoImplicit false

namespace SpriteStage

/-! ## Points and indices -/

/-- Every index below the area of an admitted extent is the index of a point inside. -/
theorem Extent.Admitted.exists_point {e : Extent} {limit : UInt32} (he : e.Admitted limit) {i : Nat}
    (hi : i < e.area) : ∃ x y : Int32, e.Covers x.toInt y.toInt ∧ e.indexAt x.toInt y.toInt = i := by
  obtain ⟨hx, hy, hrow⟩ := exists_rowMajor hi
  have hwidth := he.width_lt
  have hheight := he.height_lt
  have hcolumn : (Int32.ofNat (i % e.width.toNat)).toInt = (i % e.width.toNat : Nat) :=
    Int32.toInt_ofNat_of_lt (by omega)
  have hline : (Int32.ofNat (i / e.width.toNat)).toInt = (i / e.width.toNat : Nat) :=
    Int32.toInt_ofNat_of_lt (by omega)
  refine ⟨.ofNat (i % e.width.toNat), .ofNat (i / e.width.toNat), ?_, ?_⟩
  · rw [hcolumn, hline]
    exact ⟨Int.natCast_nonneg _, Int.ofNat_lt.mpr hx, Int.natCast_nonneg _, Int.ofNat_lt.mpr hy⟩
  · rw [hcolumn, hline, indexAt, Int.toNat_natCast, Int.toNat_natCast]
    exact hrow

/-- **A bitmap is the colors of its points.** -/
theorem Bitmap.ext_pixel? {b b' : Bitmap} {limit : UInt32} (he : b.extent.Admitted limit)
    (hextent : b'.extent = b.extent) (hsize : b.pixels.size = b.extent.area)
    (hsize' : b'.pixels.size = b.pixels.size)
    (h : ∀ x y : Int32, b.extent.Covers x.toInt y.toInt → b'.pixel? x y = b.pixel? x y) :
    b' = b := by
  have hpixels : b'.pixels = b.pixels := by
    apply Array.ext_getElem?
    intro i
    by_cases hi : i < b.extent.area
    · obtain ⟨x, y, hcovers, rfl⟩ := he.exists_point hi
      have hcolor := h x y hcovers
      rw [pixel?_eq_at?, pixel?_eq_at?, at?, at?, hextent, if_pos hcovers, if_pos hcovers] at hcolor
      exact hcolor
    · rw [Array.getElem?_eq_none (by omega), Array.getElem?_eq_none (by omega)]
  show b' = ⟨b.extent, b.pixels⟩
  rw [← hextent, ← hpixels]

/-! ## Writing point by point -/

namespace SpriteTable

/-- Recolors points of a bitmap sprite one after the other, up to the first call that fails. -/
def setEach (s : SpriteTable) (id : Ident) (color : Int32 → Int32 → Argb)
    (points : List (Int32 × Int32)) : Except Fault SpriteTable :=
  points.foldlM (fun s p => s.setPixel id p.1 p.2 (color p.1 p.2)) s

variable {s : SpriteTable} {id : Ident} {sp : Sprite} {b : Bitmap}

/-- Storing what is there changes nothing. -/
theorem store_of_find? (hid : sp.id = id) (hfind : s.find? id = some sp) : s.store sp = s := by
  have htable : (s.store sp).table = s.table := by
    apply Table.ext_find?
    intro k
    show (s.store sp).find? k = s.find? k
    rw [find?_store]
    by_cases hk : k = sp.id
    · rw [if_pos hk, hk, hid, hfind]
    · rw [if_neg hk]
  show SpriteTable.mk (s.store sp).table s.limit = s
  rw [htable]

/-- Of two sprites stored under one id the second one stays. -/
theorem store_store (s : SpriteTable) {sp sp' : Sprite} (hid : sp'.id = sp.id) :
    (s.store sp).store sp' = s.store sp' := by
  have htable : ((s.store sp).store sp').table = (s.store sp').table := by
    apply Table.ext_find?
    intro k
    show ((s.store sp).store sp').find? k = (s.store sp').find? k
    rw [find?_store, find?_store, find?_store]
    by_cases hk : k = sp'.id
    · rw [if_pos hk, if_pos hk]
    · rw [if_neg hk, if_neg hk, if_neg (hid ▸ hk)]
  show SpriteTable.mk ((s.store sp).store sp').table s.limit = SpriteTable.mk (s.store sp').table s.limit
  rw [htable]

/-- **Single writes.** Points inside a bitmap are recolored without a fault. Afterwards each of them
has its color, and the other points have theirs still. -/
theorem setEach_eq (hid : sp.id = id) (hfind : s.find? id = some sp) (hf : sp.figure = .bitmap b)
    (hb : b.Filled) (color : Int32 → Int32 → Argb) (points : List (Int32 × Int32))
    (hinside : ∀ p ∈ points, b.extent.Covers p.1.toInt p.2.toInt) :
    ∃ b' : Bitmap, s.setEach id color points = .ok (s.store { sp with figure := .bitmap b' }) ∧
      b'.extent = b.extent ∧ b'.pixels.size = b.pixels.size ∧
      ∀ x y, b'.pixel? x y = if (x, y) ∈ points then some (color x y) else b.pixel? x y := by
  induction points generalizing s sp b with
  | nil =>
    have hsame : { sp with figure := .bitmap b } = sp := by rw [← hf]
    refine ⟨b, ?_, rfl, rfl, fun x y => (if_neg List.not_mem_nil).symm⟩
    rw [hsame, store_of_find? hid hfind]
    rfl
  | cons p rest ih =>
    have hp := hinside p List.mem_cons_self
    obtain ⟨b₁, hset⟩ : ∃ b₁, b.setPixel? p.1 p.2 (color p.1 p.2) = some b₁ := by
      rw [Bitmap.setPixel?_eq, if_pos hp]
      exact ⟨_, rfl⟩
    obtain ⟨hextent₁, hsize₁⟩ := Bitmap.extent_setPixel? hset
    have hb₁ : b₁.Filled := ⟨by rw [hsize₁, hextent₁, hb.size_eq], by rw [hextent₁]; exact hb.fits⟩
    -- the first write, and what it leaves for the others
    let sp₁ : Sprite := { sp with figure := .bitmap b₁ }
    have hid₁ : sp₁.id = id := hid
    have hf₁ : sp₁.figure = .bitmap b₁ := rfl
    have hfirst : s.setPixel id p.1 p.2 (color p.1 p.2) = .ok (s.store sp₁) :=
      setPixel_of_bitmap hfind hf hset
    have hfind₁ : (s.store sp₁).find? id = some sp₁ := by
      rw [find?_store, if_pos hid₁.symm]
    obtain ⟨b', hrest, hextent', hsize', hpixel'⟩ := ih hid₁ hfind₁ hf₁ hb₁ fun q hq =>
      hextent₁ ▸ hinside q (List.mem_cons_of_mem p hq)
    refine ⟨b', ?_, hextent'.trans hextent₁, hsize'.trans hsize₁, fun x y => ?_⟩
    · have hover : ({ sp₁ with figure := .bitmap b' } : Sprite).id = sp₁.id := rfl
      rw [setEach, List.foldlM_cons, hfirst, Attempt.ok_bind, ← setEach, hrest, store_store s hover]
    · rw [hpixel', Bitmap.pixel?_setPixel? hb hset]
      by_cases hmem : (x, y) ∈ rest
      · rw [if_pos hmem, if_pos (List.mem_cons_of_mem p hmem)]
      · by_cases heq : x = p.1 ∧ y = p.2
        · obtain ⟨rfl, rfl⟩ := heq
          rw [if_neg hmem, if_pos ⟨rfl, rfl⟩, if_pos List.mem_cons_self]
        · have hcons : (x, y) ∉ p :: rest := by
            rw [List.mem_cons, not_or]
            exact ⟨fun h => heq (Prod.mk.inj h), hmem⟩
          rw [if_neg hmem, if_neg heq, if_neg hcons]

/-- **Uploads and single writes agree.** Take any sprite table that operations have made, any live
bitmap sprite, whatever it shows, and one word for each of its points. Let the points inside be
visited in any order, each of them once or more often. Then the upload goes through, writing to each
point on the way the word that stands at its index goes through, and both leave the same sprite
table. In it each point has its word, and no sprite but this one has changed. -/
theorem upload_eq_setEach (hs : s.Reachable) (hfind : s.find? id = some sp)
    (hf : sp.figure = .bitmap b) {words : List UInt32}
    (hcount : words.length = b.extent.width.toNat * b.extent.height.toNat)
    {points : List (Int32 × Int32)}
    (hpoints : ∀ x y, (x, y) ∈ points ↔ b.extent.Covers x.toInt y.toInt) :
    let index (x y : Int32) : Nat := y.toInt.toNat * b.extent.width.toNat + x.toInt.toNat
    ∃ (s' : SpriteTable) (b' : Bitmap),
      s.upload id words = .ok s' ∧
      s.setEach id (fun x y => ⟨words.getD (index x y) 0⟩) points = .ok s' ∧
      s'.find? id = some { sp with figure := .bitmap b' } ∧ b'.extent = b.extent ∧
      (∀ x y, b.extent.Covers x.toInt y.toInt →
        ∃ word, words[index x y]? = some word ∧ b'.pixel? x y = some ⟨word⟩) ∧
      ∀ k, k ≠ id → s'.find? k = s.find? k := by
  intro index
  have hsp := hs.sound hfind
  have hb := hsp.filled hf
  have hsize : words.length = b.pixels.size := hcount.trans hb.size_eq.symm
  -- the color of a point after the upload is the word at its index
  let uploaded : Bitmap := { b with pixels := (words.map Argb.mk).toArray }
  have hword (x y : Int32) (hcovers : b.extent.Covers x.toInt y.toInt) :
      ∃ word, words[index x y]? = some word ∧ uploaded.pixel? x y = some ⟨word⟩ := by
    have hindex : index x y < words.length := by
      rw [hcount]
      exact hcovers.index_lt
    have hget : words[index x y]? = some words[index x y] := List.getElem?_eq_getElem hindex
    refine ⟨words[index x y], hget, ?_⟩
    rw [Bitmap.pixel?_words, if_pos hcovers]
    exact congrArg (Option.map Argb.mk) hget
  obtain ⟨b', heach, hextent', hsize', hpixel'⟩ :=
    setEach_eq hsp.id_eq hfind hf hb (fun x y => ⟨words.getD (index x y) 0⟩) points
      fun p hp => (hpoints p.1 p.2).mp hp
  have hsame : b' = uploaded := by
    have hfull : uploaded.pixels.size = b.extent.area := by
      rw [List.size_toArray, List.length_map, hcount]
      rfl
    refine Bitmap.ext_pixel? (hsp.extent b hf) hextent' hfull ?_ fun x y hcovers => ?_
    · rw [hsize', hb.size_eq, hfull]
    · obtain ⟨word, hget, hup⟩ := hword x y hcovers
      rw [hpixel', if_pos ((hpoints x y).mpr hcovers), hup, List.getD_eq_getElem?_getD, hget]
      rfl
  rw [hsame] at heach
  refine ⟨_, uploaded, upload_of_bitmap hfind hf hsize, heach, ?_, rfl, hword, ?_⟩
  · rw [find?_store, if_pos hsp.id_eq.symm]
  · intro k hk
    rw [find?_store, if_neg fun heq => hk (heq.trans hsp.id_eq)]

/-- A bitmap of three columns and two rows with one black point is uploaded to, and written to from
the last column to the first. -/
theorem upload_three_by_two :
    let sprite (b : Bitmap) : Sprite := ⟨1, 0, 0, 0, .bitmap b⟩
    let painted : Bitmap := ⟨⟨3, 2⟩, (Array.replicate 6 .transparent).setIfInBounds 4 .black⟩
    let s := ((SpriteTable.empty 8).store (sprite (.blank ⟨3, 2⟩))).store (sprite painted)
    let points : List (Int32 × Int32) := [(2, 0), (2, 1), (1, 1), (1, 0), (0, 0), (0, 1)]
    s.Reachable ∧ s.find? 1 = some (sprite painted) ∧
      ∃ s', s.upload 1 [10, 20, 30, 40, 50, 60] = .ok s' ∧
        s.setEach 1 (fun x y => ⟨[10, 20, 30, 40, 50, 60].getD
          (y.toInt.toNat * 3 + x.toInt.toNat) 0⟩) points = .ok s' := by
  intro sprite painted s points
  have hblank : ((SpriteTable.empty 8).store (sprite (.blank ⟨3, 2⟩))).Reachable :=
    .step (.empty 8) (.createBitmap (rfl : (SpriteTable.empty 8).createBitmap {} 3 2 =
      .ok (1, { sprite := 1 }, (SpriteTable.empty 8).store (sprite (.blank ⟨3, 2⟩)))))
  have hs : s.Reachable :=
    hblank.step (.setPixel (rfl : SpriteTable.setPixel _ 1 1 1 .black = .ok s))
  have hpoints (x y : Int32) :
      (x, y) ∈ points ↔ painted.extent.Covers x.toInt y.toInt := by
    constructor
    · intro h
      simp only [points, List.mem_cons, List.not_mem_nil, or_false, Prod.mk.injEq] at h
      rcases h with ⟨rfl, rfl⟩ | ⟨rfl, rfl⟩ | ⟨rfl, rfl⟩ | ⟨rfl, rfl⟩ | ⟨rfl, rfl⟩ | ⟨rfl, rfl⟩ <;>
        decide
    · rintro ⟨hx, hxw, hy, hyh⟩
      have hcolumn : x.toInt = 0 ∨ x.toInt = 1 ∨ x.toInt = 2 := by
        have hwidth : painted.extent.width.toNat = 3 := rfl
        omega
      have hline : y.toInt = 0 ∨ y.toInt = 1 := by
        have hheight : painted.extent.height.toNat = 2 := rfl
        omega
      have hx' : x = 0 ∨ x = 1 ∨ x = 2 :=
        hcolumn.imp Int32.toInt_inj.mp (Or.imp Int32.toInt_inj.mp Int32.toInt_inj.mp)
      have hy' : y = 0 ∨ y = 1 := hline.imp Int32.toInt_inj.mp Int32.toInt_inj.mp
      rcases hx' with rfl | rfl | rfl <;> rcases hy' with rfl | rfl <;> decide
  have hfind : s.find? 1 = some (sprite painted) := rfl
  have hcount : [(10 : UInt32), 20, 30, 40, 50, 60].length =
      painted.extent.width.toNat * painted.extent.height.toNat := rfl
  obtain ⟨s', -, hupload, heach, -⟩ := upload_eq_setEach hs hfind rfl hcount hpoints
  exact ⟨hs, hfind, s', hupload, heach⟩

end SpriteTable

end SpriteStage
