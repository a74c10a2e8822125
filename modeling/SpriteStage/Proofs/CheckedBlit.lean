/-
Blits on bytes, in checked words.

A raster keeps pixels, and a blit finds them by words that wrap and clamp. A surface in memory is a
run of bytes, four to a pixel, and there none of this may happen: a sum, a difference or a product
that leaves the signed words, a negative word that is taken for an index, a run that leaves its
array, two rows of different length. `Raster.blitBytes?` is the blit on bytes that has no result as
soon as one of them does happen. It always has a result (`Raster.checked_blit`), and that is the
bytes of the pixels that the blit leaves.

The proof goes in three steps. Every word of the window and of its rows is the number that it stands
for, so checking it changes nothing (`Clip.visible?_eq`, `Clip.starts_of_mem_rows`). A run of pixels
is the run of bytes from four times its index on (`Frame.extract_bytesOf`), so a row is composited
on bytes as it is on pixels (`blendBytes?_eq`). The rows then follow one another on either side
(`foldlM_blendBytes?`).
-/
import SpriteStage.Proofs.Representation
import SpriteStage.Proofs.Strokes

set_option autoImplicit false

namespace SpriteStage

/-! ## Checked words -/

/-- The signed word of a number, if there is one. -/
def word? (n : Int) : Option Int64 :=
  if -2 ^ 63 ≤ n ∧ n < 2 ^ 63 then some (.ofInt n) else none

def negWord? (a : Int64) : Option Int64 := word? (-a.toInt)

def addWords? (a b : Int64) : Option Int64 := word? (a.toInt + b.toInt)

def subWords? (a b : Int64) : Option Int64 := word? (a.toInt - b.toInt)

def mulWords? (a b : Int64) : Option Int64 := word? (a.toInt * b.toInt)

/-- A word as an index, if it is not negative. -/
def index? (a : Int64) : Option Nat := if 0 ≤ a.toInt then some a.toInt.toNat else none

/-- A run of an array, if it lies inside. -/
def slice? {α : Type} (xs : Array α) (start count : Nat) : Option (Array α) :=
  if start + count ≤ xs.size then some (xs.extract start (start + count)) else none

/-- A check goes through where a word is the number that it stands for. -/
theorem word?_eq {n : Int} {w : Int64} (h : w.toInt = n) : word? n = some w := by
  have hlo := w.le_toInt
  have hhi := w.toInt_lt
  rw [← h, word?, if_pos ⟨hlo, hhi⟩, Int64.ofInt_toInt]

theorem exists_word {n : Int} (hlo : -2 ^ 63 ≤ n) (hhi : n < 2 ^ 63) :
    ∃ w, word? n = some w ∧ w.toInt = n :=
  ⟨.ofInt n, if_pos ⟨hlo, hhi⟩, Int64.toInt_ofInt_of_le hlo hhi⟩

theorem index?_eq {a : Int64} {n : Nat} (h : a.toInt = n) : index? a = some n := by
  rw [index?, h, if_pos (Int.natCast_nonneg n), Int.toNat_natCast]

/-! ## The blit on bytes -/

namespace Clip

/-- What is visible of a bitmap, in checked words. -/
def visible? (target source : Extent) (left top : Int32) : Option Clip := do
  let beforeLeft ← negWord? left.toInt64
  let beforeTop ← negWord? top.toInt64
  let toRight ← subWords? (widen target.width) left.toInt64
  let toBottom ← subWords? (widen target.height) top.toInt64
  return {
    x0 := max beforeLeft 0
    x1 := min toRight (widen source.width)
    y0 := max beforeTop 0
    y1 := min toBottom (widen source.height) }

/-- The rows of the visible part, from the top. -/
def rows (c : Clip) : List Int64 :=
  (List.range (c.y1.toInt - c.y0.toInt).toNat).map fun i : Nat => .ofInt (c.y0.toInt + i)

/-- The number of pixels in a row of the visible part, in checked words. -/
def count? (c : Clip) : Option Nat := do
  index? (← subWords? c.x1 c.x0)

/-- The index of the first color of a row of the visible part, in checked words. -/
def firstColor? (c : Clip) (source : Extent) (row : Int64) : Option Nat := do
  let above ← mulWords? row (widen source.width)
  index? (← addWords? above c.x0)

/-- The index of the first byte under a row of the visible part, in checked words. -/
def firstByte? (c : Clip) (target : Extent) (left top : Int32) (row : Int64) : Option Nat := do
  let above ← mulWords? (← addWords? row top.toInt64) (widen target.width)
  let pixel ← addWords? (← addWords? above c.x0) left.toInt64
  index? (← mulWords? pixel 4)

end Clip

namespace Raster

/-- Source-over of one row of bytes onto another of the same length, which holds whole pixels. -/
def overBytes? (dst src : Array UInt8) : Option (Array UInt8) :=
  if dst.size = src.size ∧ dst.size % 4 = 0 then
    some (Frame.bytesOf
      (Array.zipWith Rgba.sourceOver (Frame.pixelsOf dst) (Frame.pixelsOf src)))
  else none

/-- An array with a run of it replaced. -/
def splice {α : Type} (xs : Array α) (start : Nat) (run : Array α) : Array α :=
  xs.extract 0 start ++ run ++ xs.extract (start + run.size) xs.size

/-- Composites a run of colors from a color on over the bytes from a byte on. -/
def blendBytes? (colors : Array Argb) (data : Array UInt8) (color byte count : Nat) :
    Option (Array UInt8) := do
  let src ← slice? colors color count
  let dst ← slice? data byte (count * 4)
  let row ← overBytes? dst (Frame.bytesOf (src.map Argb.premultiply))
  return splice data byte row

/-- Composites one row of the visible part, of a given number of pixels. -/
def blendRow? (c : Clip) (target : Extent) (left top : Int32) (b : Bitmap) (count : Nat)
    (data : Array UInt8) (row : Int64) : Option (Array UInt8) := do
  let color ← c.firstColor? b.extent row
  let byte ← c.firstByte? target left top row
  blendBytes? b.pixels data color byte count

/-- Composites a bitmap at a position over the bytes of a surface. -/
def blitBytes? (target : Extent) (left top : Int32) (b : Bitmap) (data : Array UInt8) :
    Option (Array UInt8) := do
  let c ← Clip.visible? target b.extent left top
  if c.isEmpty then return data
  let count ← c.count?
  c.rows.foldlM (blendRow? c target left top b count) data

end Raster

/-! ## No check fails -/

namespace Clip

variable {target source : Extent} {left top : Int32}

theorem visible?_eq (target source : Extent) (left top : Int32) :
    visible? target source left top = some (visible target source left top) := by
  have hneg (o : Int32) : negWord? o.toInt64 = some (-o.toInt64) := by
    have hlo := o.le_toInt
    have hhi := o.toInt_lt
    refine word?_eq ?_
    rw [Int64.toInt_neg, Int32.toInt_toInt64, Int.bmod_eq_of_le (by omega) (by omega)]
  have hsub (n : UInt32) (o : Int32) :
      subWords? (widen n) o.toInt64 = some (widen n - o.toInt64) := by
    have hlo := o.le_toInt
    have hhi := o.toInt_lt
    have hn := n.toNat_lt
    refine word?_eq (toInt_sub_of_fits ?_ ?_) <;> rw [toInt_widen, Int32.toInt_toInt64] <;> omega
  simp only [visible?, hneg, hsub]
  rfl

theorem count?_eq (top : Int32) (hcols : lower left < upper target.width source.width left) :
    (visible target source left top).count? =
      some (upper target.width source.width left - lower left).toNat := by
  obtain ⟨hx0, hx1, -, -⟩ := toInt_visible target source left top
  have hlow := lower_bounds left
  have hupp := upper_le target.width source.width left
  have hwidth := source.width.toNat_lt
  rw [count?, subWords?, hx0, hx1]
  obtain ⟨length, hlength, hlengthInt⟩ :=
    exists_word (n := upper target.width source.width left - lower left) (by omega) (by omega)
  rw [hlength]
  exact index?_eq (by omega)

/-- Counting up from the first row never leaves the words. -/
theorem rows_eq (c : Clip) :
    c.rows = (List.range (c.y1.toInt - c.y0.toInt).toNat).map fun i => c.y0 + Int64.ofNat i := by
  refine List.map_congr_left fun i _ => ?_
  rw [Int64.ofInt_add, Int64.ofInt_toInt, Int64.ofInt_eq_ofNat]

theorem spans_eq_map_rows (hvisible : ¬ (visible target source left top).isEmpty = true) :
    spans target source left top =
      (visible target source left top).rows.map
        ((visible target source left top).span target source left top) := by
  obtain ⟨-, -, hy0, hy1⟩ := toInt_visible target source left top
  have hspans : spans target source left top = _ := if_neg hvisible
  rw [isEmpty_visible, not_or] at hvisible
  rw [hspans, rows_eq, List.map_map, rows_visible (by omega), hy0, hy1]
  rfl

theorem exists_rowStart {e : Extent} (harea : e.area < 2 ^ 63) {column : Int} {row : Int64}
    (hcovers : e.Covers column row.toInt) :
    ∃ w, word? (row.toInt * (widen e.width).toInt) = some w ∧ 0 ≤ w.toInt ∧
      w.toInt + column = e.indexAt column row.toInt := by
  have hindex := hcovers.natCast_indexAt
  obtain ⟨-, -, hlo, hhi⟩ := hcovers
  have hstart := toInt_rowStart harea hlo hhi
  refine ⟨row * widen e.width, word?_eq ?_, ?_, ?_⟩
  · rw [hstart, toInt_widen]
  · rw [hstart]
    exact Int.mul_nonneg hlo (Int.natCast_nonneg _)
  · rw [hstart, hindex]

/-- **The words of a row in the bitmap.** -/
theorem firstColor?_eq {c : Clip} {row : Int64} (hsource : source.area < 2 ^ 63)
    (hcovers : source.Covers c.x0.toInt row.toInt) :
    c.firstColor? source row = some (source.indexAt c.x0.toInt row.toInt) := by
  have hlt := hcovers.index_lt
  obtain ⟨start, hmul, -, hindex⟩ := exists_rowStart hsource hcovers
  obtain ⟨color, hadd, hcolor⟩ := exists_word (n := start.toInt + c.x0.toInt) (by omega) (by omega)
  simp only [firstColor?, mulWords?, addWords?, hmul, hadd, Option.bind_eq_bind, Option.bind_some]
  exact index?_eq (hcolor.trans hindex)

/-- **The words of a row in the surface.** On the way to the first pixel, the column of the bitmap
is added to a row of the surface, which fits because that column is small. -/
theorem firstByte?_eq {c : Clip} {row : Int64} (htarget : 4 * target.area < 2 ^ 63)
    (hcol : 0 ≤ c.x0.toInt)
    (hcovers : target.Covers (c.x0.toInt + left.toInt) (row.toInt + top.toInt)) :
    c.firstByte? target left top row =
      some (4 * target.indexAt (c.x0.toInt + left.toInt) (row.toInt + top.toInt)) := by
  have hlt := hcovers.index_lt
  have hrows := hcovers.2.2
  have hheight := target.height.toNat_lt
  have hleft := left.le_toInt
  have hfour : (4 : Int64).toInt = 4 := rfl
  obtain ⟨below, hdown, hbelow⟩ := exists_word (n := row.toInt + top.toInt) (by omega) (by omega)
  rw [← hbelow] at hcovers hlt ⊢
  obtain ⟨start, hmul, hstart, hindex⟩ := exists_rowStart (by omega) hcovers
  obtain ⟨right, hright, hrightInt⟩ :=
    exists_word (n := start.toInt + c.x0.toInt) (by omega) (by omega)
  obtain ⟨pixel, hpixel, hpixelInt⟩ :=
    exists_word (n := right.toInt + left.toInt) (by omega) (by omega)
  obtain ⟨byte, hbyte, hbyteInt⟩ := exists_word (n := pixel.toInt * 4) (by omega) (by omega)
  simp only [firstByte?, addWords?, mulWords?, Int32.toInt_toInt64, hfour, hdown, hmul, hright,
    hpixel, hbyte, Option.bind_eq_bind, Option.bind_some]
  exact index?_eq (by omega)

/-- **The start of a row** is that of its span. -/
theorem starts_of_mem_rows (htarget : 4 * target.area < 2 ^ 63) (hsource : source.area < 2 ^ 63)
    (hcols : lower left < upper target.width source.width left) {row : Int64}
    (hrow : row ∈ (visible target source left top).rows) :
    let c := visible target source left top
    let s := c.span target source left top row
    (c.firstColor? source row = some s.source ∧
        c.firstByte? target left top row = some (4 * s.target)) ∧
      s.count = (upper target.width source.width left - lower left).toNat ∧
      s.source + s.count ≤ source.area ∧ s.target + s.count ≤ target.area := by
  intro c s
  obtain ⟨(hx0 : c.x0.toInt = _), -, (hy0 : c.y0.toInt = _), (hy1 : c.y1.toInt = _)⟩ :=
    toInt_visible target source left top
  rw [rows_eq] at hrow
  obtain ⟨i, hi, rfl⟩ := List.mem_map.mp hrow
  rw [List.mem_range, hy0, hy1] at hi
  have hbelow : lower top + i < upper target.height source.height top := by omega
  have hrowInt : (c.y0 + Int64.ofNat i).toInt = lower top + i := (toInt_windowRow left hbelow).1
  obtain ⟨hcol0, hcolS, hcolL, hcolT⟩ := window_bounds (Int.le_refl _) hcols
  obtain ⟨hrow0, hrowS, hrowL, hrowT⟩ := window_bounds (by omega) hbelow
  have hs : s = _ := span_eq (by omega) hsource hcols hbelow
  rw [hs]
  refine ⟨⟨?_, ?_⟩, rfl, row_inside hcols hbelow⟩
  · have hcovers : source.Covers c.x0.toInt (c.y0 + Int64.ofNat i).toInt := by
      rw [hx0, hrowInt]
      exact ⟨hcol0, hcolS, hrow0, hrowS⟩
    rw [firstColor?_eq hsource hcovers, hx0, hrowInt]
  · have hcovers : target.Covers (c.x0.toInt + left.toInt)
        ((c.y0 + Int64.ofNat i).toInt + top.toInt) := by
      rw [hx0, hrowInt]
      exact ⟨hcolL, hcolT, hrowL, hrowT⟩
    rw [firstByte?_eq htarget (hx0.symm ▸ hcol0) hcovers, hx0, hrowInt]

end Clip

/-! ## Rows of bytes -/

namespace Frame

theorem drop_flatMap_bytes (ps : List Rgba) (i : Nat) :
    (ps.flatMap Rgba.bytes).drop (4 * i) = (ps.drop i).flatMap Rgba.bytes := by
  induction ps generalizing i with
  | nil => rw [List.flatMap_nil, List.drop_nil, List.drop_nil, List.flatMap_nil]
  | cons p rest ih =>
    cases i with
    | zero => rfl
    | succ i =>
      have hlength : 4 * (i + 1) = p.bytes.length + 4 * i := by
        rw [Nat.mul_succ, Nat.add_comm]
        rfl
      rw [List.flatMap_cons, hlength, List.drop_length_add_append, ih, List.drop_succ_cons]

theorem take_flatMap_bytes (ps : List Rgba) (i : Nat) :
    (ps.flatMap Rgba.bytes).take (4 * i) = (ps.take i).flatMap Rgba.bytes := by
  induction ps generalizing i with
  | nil => rw [List.flatMap_nil, List.take_nil, List.take_nil, List.flatMap_nil]
  | cons p rest ih =>
    cases i with
    | zero => rfl
    | succ i =>
      have hlength : 4 * (i + 1) = p.bytes.length + 4 * i := by
        rw [Nat.mul_succ, Nat.add_comm]
        rfl
      rw [List.flatMap_cons, hlength, List.take_length_add_append, ih, List.take_succ_cons,
        List.flatMap_cons]

/-- A run of pixels takes up the run of bytes from four times its index on. -/
theorem extract_bytesOf (ps : Array Rgba) (i j : Nat) :
    (bytesOf ps).extract (4 * i) (4 * j) = bytesOf (ps.extract i j) := by
  apply Array.toList_inj.mp
  rw [Array.toList_extract, toList_bytesOf, toList_bytesOf, Array.toList_extract,
    List.extract_eq_take_drop, List.extract_eq_take_drop, ← Nat.mul_sub, drop_flatMap_bytes,
    take_flatMap_bytes]

theorem bytesOf_append (ps qs : Array Rgba) : bytesOf (ps ++ qs) = bytesOf ps ++ bytesOf qs := by
  apply Array.toList_inj.mp
  rw [toList_bytesOf, Array.toList_append, Array.toList_append, toList_bytesOf, toList_bytesOf,
    List.flatMap_append]

end Frame

namespace Raster

theorem splice_bytesOf (ps : Array Rgba) (i : Nat) (run : Array Rgba) :
    splice (Frame.bytesOf ps) (4 * i) (Frame.bytesOf run) = Frame.bytesOf (splice ps i run) := by
  have hfront := Frame.extract_bytesOf ps 0 i
  have hback := Frame.extract_bytesOf ps (i + run.size) ps.size
  rw [Nat.mul_zero] at hfront
  rw [splice, splice, Frame.bytesOf_append, Frame.bytesOf_append, ← hfront, ← hback,
    Frame.size_bytesOf, Frame.size_bytesOf, Nat.mul_add]

theorem write_eq_splice {ps : Array Rgba} {i : Nat} {run : Array Rgba}
    (hfit : i + run.size ≤ ps.size) : write ps i run.toList = splice ps i run := by
  have hfront : min i ps.size - 0 = i := by omega
  refine Array.ext_getElem? fun j => ?_
  rw [getElem?_write _ _ _ _ (by rwa [Array.length_toList]), Array.length_toList, splice,
    Array.getElem?_append, Array.getElem?_append, Array.getElem?_extract, Array.getElem?_extract,
    Array.size_append, Array.size_extract, hfront]
  by_cases hbefore : j < i
  · rw [if_neg (by omega), if_pos (by omega), if_pos hbefore, if_pos hbefore, Nat.zero_add]
  · by_cases hinside : j < i + run.size
    · rw [if_pos (by omega), if_pos hinside, if_neg hbefore, Array.getElem?_toList]
    · have hbehind : i + run.size + (j - (i + run.size)) = j := by omega
      rw [if_neg (by omega), if_neg hinside, hbehind]
      by_cases hj : j < ps.size
      · rw [if_pos (by omega)]
      · rw [if_neg (by omega), Array.getElem?_eq_none (by omega)]

theorem slice?_bytesOf {ps : Array Rgba} {i n : Nat} (hfit : i + n ≤ ps.size) :
    slice? (Frame.bytesOf ps) (4 * i) (n * 4) = some (Frame.bytesOf (ps.extract i (i + n))) := by
  have hend : 4 * i + n * 4 = 4 * (i + n) := by omega
  rw [slice?, hend, Frame.size_bytesOf, if_pos (Nat.mul_le_mul_left 4 hfit), Frame.extract_bytesOf]

theorem overBytes?_bytesOf {dst src : Array Rgba} (hsize : dst.size = src.size) :
    overBytes? (Frame.bytesOf dst) (Frame.bytesOf src) =
      some (Frame.bytesOf (Array.zipWith Rgba.sourceOver dst src)) := by
  rw [overBytes?, Frame.pixelsOf_bytesOf, Frame.pixelsOf_bytesOf, Frame.size_bytesOf,
    Frame.size_bytesOf, hsize, if_pos ⟨rfl, Nat.mul_mod_right 4 _⟩]

/-- **A run on bytes** is composited as it is on pixels. -/
theorem blendBytes?_eq {colors : Array Argb} {s : Span} {r : Raster}
    (hs : s.source + s.count ≤ colors.size) (ht : s.target + s.count ≤ r.pixels.size) :
    ∃ r', (blendSpan colors s).runOn r = (.ok (), r') ∧ r'.pixels.size = r.pixels.size ∧
      blendBytes? colors (Frame.bytesOf r.pixels) s.source (4 * s.target) s.count =
        some (Frame.bytesOf r'.pixels) := by
  have hsize : (r.pixels.extract s.target (s.target + s.count)).size =
      ((colors.extract s.source (s.source + s.count)).map Argb.premultiply).size := by
    simp only [Array.size_extract, Array.size_map]
    omega
  have hrow : (Array.zipWith Rgba.sourceOver (r.pixels.extract s.target (s.target + s.count))
      ((colors.extract s.source (s.source + s.count)).map Argb.premultiply)).size = s.count := by
    simp only [Array.size_zipWith, Array.size_extract, Array.size_map]
    omega
  have hcolors : slice? colors s.source s.count =
      some (colors.extract s.source (s.source + s.count)) := if_pos hs
  refine ⟨_, runOn_blendSpan_write hs ht, size_write _ _ _, ?_⟩
  simp only [blendBytes?, hcolors, slice?_bytesOf ht, overBytes?_bytesOf hsize, splice_bytesOf,
    Option.bind_eq_bind, Option.bind_some, Option.pure_def]
  rw [write_eq_splice (by rwa [hrow])]

/-- **The rows of a window on bytes.** -/
theorem foldlM_blendBytes? {colors : Array Argb} {rows : List Int64} {r : Raster}
    (blend : Array UInt8 → Int64 → Option (Array UInt8)) (span : Int64 → Span)
    (hblend : ∀ row ∈ rows, ∀ data, blend data row =
      blendBytes? colors data (span row).source (4 * (span row).target) (span row).count)
    (hinside : ∀ row ∈ rows, (span row).source + (span row).count ≤ colors.size ∧
      (span row).target + (span row).count ≤ r.pixels.size) :
    ∃ r', (blendSpans colors (rows.map span)).runOn r = (.ok (), r') ∧
      rows.foldlM blend (Frame.bytesOf r.pixels) = some (Frame.bytesOf r'.pixels) := by
  induction rows generalizing r with
  | nil => exact ⟨r, rfl, rfl⟩
  | cons row rest ih =>
    obtain ⟨hs, ht⟩ := hinside row List.mem_cons_self
    obtain ⟨r₁, hfirst, hsize, hbytes⟩ := blendBytes?_eq hs ht
    obtain ⟨r₂, hrest, hfold⟩ := ih (r := r₁)
      (fun row' hrow' => hblend row' (List.mem_cons_of_mem row hrow'))
      (fun row' hrow' => hsize.symm ▸ hinside row' (List.mem_cons_of_mem row hrow'))
    refine ⟨r₂, ?_, ?_⟩
    · simp only [List.map_cons, blendSpans, Attempt.runOn_bind, hfirst, hrest]
    · rw [List.foldlM_cons, hblend row List.mem_cons_self, hbytes]
      exact hfold

/-- In a window with columns, this is so of all of its rows. -/
theorem foldlM_blendRow? {r : Raster} {b : Bitmap} {left : Int32} (hr : r.Filled)
    (hbytes : 4 * r.extent.area < 2 ^ 63) (hb : b.Filled)
    (hcols : Clip.lower left < Clip.upper r.extent.width b.extent.width left) (top : Int32) :
    let c := Clip.visible r.extent b.extent left top
    let count := (Clip.upper r.extent.width b.extent.width left - Clip.lower left).toNat
    ∃ r', (blendSpans b.pixels (c.rows.map (c.span r.extent b.extent left top))).runOn r =
        (.ok (), r') ∧
      c.rows.foldlM (blendRow? c r.extent left top b count) (Frame.bytesOf r.pixels) =
        some (Frame.bytesOf r'.pixels) := by
  intro c count
  have hstarts := fun row (hrow : row ∈ c.rows) =>
    Clip.starts_of_mem_rows hbytes hb.fits hcols hrow
  refine foldlM_blendBytes? _ _ ?_ ?_
  · intro row hrow data
    obtain ⟨⟨hcolor, hbyte⟩, hlength, -⟩ := hstarts row hrow
    rw [blendRow?, hcolor, hbyte, hlength]
    rfl
  · intro row hrow
    rw [hb.size_eq, hr.size_eq]
    exact (hstarts row hrow).2.2

/-- **A blit on bytes.** No check fails, and the bytes are those of the pixels. -/
theorem blitBytes?_eq {r : Raster} {b : Bitmap} (hr : r.Filled)
    (hbytes : 4 * r.extent.area < 2 ^ 63) (hb : b.Filled) (left top : Int32) :
    ∃ r', (blit left top b).runOn r = (.ok (), r') ∧
      blitBytes? r.extent left top b (Frame.bytesOf r.pixels) = some (Frame.bytesOf r'.pixels) := by
  have hvisible := Clip.visible?_eq r.extent b.extent left top
  simp only [blit, Attempt.runOn_bind, Attempt.runOn_get, blitBytes?, hvisible,
    Option.bind_eq_bind, Option.bind_some]
  by_cases hempty : (Clip.visible r.extent b.extent left top).isEmpty = true
  · have hspans : Clip.spans r.extent b.extent left top = [] := if_pos hempty
    rw [hspans, if_pos hempty]
    exact ⟨r, rfl, rfl⟩
  · have hwindow := hempty
    rw [Clip.isEmpty_visible, not_or] at hwindow
    have hcols : Clip.lower left < Clip.upper r.extent.width b.extent.width left := by omega
    rw [Clip.spans_eq_map_rows hempty, Clip.count?_eq top hcols, if_neg hempty]
    exact foldlM_blendRow? hr hbytes hb hcols top

/-- **A blit is total and pixelwise, and nothing on its way is out of range.** Take any raster whose
pixels fill its extent and whose bytes have indices in the signed words, any bitmap that fills its
extent, and any position, the extreme ones included. The blit goes through. On bytes and in checked
words it goes through as well, and leaves the same: no word overflows, no negative one is used as an
index, all runs lie inside, and the two rows of each compositing are equally long. A pixel under the
bitmap gets the color of the bitmap there composited over it, every other pixel stays as it was, and
so do the texts and the number of frames. -/
theorem checked_blit {r : Raster} {b : Bitmap} (hsize : r.pixels.size = r.extent.area)
    (hbytes : 4 * r.extent.area < 2 ^ 63) (hb : b.Filled) (left top : Int32) :
    ∃ r', (blit left top b).runOn r = (.ok (), r') ∧
      blitBytes? r.extent left top b r.readback.data = some r'.readback.data ∧
      (r'.extent = r.extent ∧ r'.runs = r.runs ∧ r'.frame = r.frame) ∧
      (r.readback.data.size = 4 * r.extent.area ∧ r'.readback.data.size = 4 * r.extent.area) ∧
      ∀ x y, x < r.extent.width → y < r.extent.height →
        ∃ old, r.readback.pixel? x y = some old ∧
          (b.extent.Covers (x.toNat - left.toInt) (y.toNat - top.toInt) →
            ∃ color, b.at? (x.toNat - left.toInt) (y.toNat - top.toInt) = some color ∧
              r'.readback.pixel? x y = some (old.sourceOver color.premultiply)) ∧
          (¬ b.extent.Covers (x.toNat - left.toInt) (y.toNat - top.toInt) →
            r'.readback.pixel? x y = some old) := by
  have hr : r.Filled := ⟨hsize, by omega⟩
  have hrun := runOn_blit left top hr hb
  obtain ⟨r', hrun', hchecked⟩ := blitBytes?_eq hr hbytes hb left top
  obtain rfl := (Prod.mk.inj (hrun'.symm.trans hrun)).2
  refine ⟨_, hrun, hchecked, ⟨rfl, rfl, rfl⟩, ⟨?_, ?_⟩, ?_⟩
  · rw [readback, Frame.size_bytesOf, hsize]
  · rw [readback, Frame.size_bytesOf, size_recolor, hsize]
  · intro x y hx hy
    have hlt : y.toNat * r.extent.width.toNat + x.toNat < r.pixels.size := by
      rw [hsize]
      exact Extent.rowMajor_lt_area hx hy
    have hold := (pixel?_readback hx hy).trans (Array.getElem?_eq_getElem hlt)
    refine ⟨_, hold, ?_, ?_⟩
    · intro hcovers
      obtain ⟨color, hcolor⟩ := hb.exists_at? hcovers
      refine ⟨color, hcolor, ?_⟩
      rw [pixel?_recolor _ hx hy, hold, Option.map_some, hcolor]
      rfl
    · intro hout
      rw [pixel?_recolor _ hx hy, hold, Bitmap.at?_of_not_covers hout]
      rfl

/-- A bitmap sticks out at the lower left corner: one of its four points is on the surface. -/
theorem blit_across_corner :
    let r := (blank ⟨3, 2⟩).fill ⟨0xffff0000⟩
    let b : Bitmap := ⟨⟨2, 2⟩, #[⟨0⟩, ⟨0x8000ff00⟩, ⟨0⟩, ⟨0⟩]⟩
    ∃ r', (blit (-1) 1 b).runOn r = (.ok (), r') ∧
      blitBytes? ⟨3, 2⟩ (-1) 1 b r.readback.data = some r'.readback.data ∧
      r'.readback.pixel? 0 1 = some ⟨127, 128, 0, 255⟩ ∧
      r'.readback.pixel? 0 0 = some ⟨255, 0, 0, 255⟩ := by
  intro r b
  have hred : r.readback.pixel? 0 0 = some ⟨255, 0, 0, 255⟩ ∧
      r.readback.pixel? 0 1 = some ⟨255, 0, 0, 255⟩ := by decide +kernel
  obtain ⟨r', hrun, hchecked, -, -, hpixel⟩ :=
    checked_blit (r := r) (b := b) (by decide +kernel) (by decide) ⟨rfl, by decide⟩ (-1) 1
  obtain ⟨old, hold, hunder, -⟩ := hpixel 0 1 (by decide) (by decide)
  obtain ⟨other, hother, -, hbeside⟩ := hpixel 0 0 (by decide) (by decide)
  obtain rfl := Option.some.inj (hold.symm.trans hred.2)
  obtain rfl := Option.some.inj (hother.symm.trans hred.1)
  obtain ⟨color, hcolor, hout⟩ := hunder (by decide)
  obtain rfl : (⟨0x8000ff00⟩ : Argb) = color :=
    Option.some.inj ((by decide +kernel : some _ = _).trans hcolor)
  exact ⟨r', hrun, hchecked, hout, hbeside (by decide)⟩

end Raster

end SpriteStage
