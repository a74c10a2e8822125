/-
The order in which a canvas paints its sprites.

A plan sorts sprites by one signed word, the draw key. The word is the depth and the id side by
side, so its value is `z * 2 ^ 32 + id` (`Sprite.toInt_drawKey`): the depth decides over the whole
signed range, and the id decides between equal depths. What a plan lists is therefore the live
references of the canvas, each as often as it was attached, in that order (`Canvas.ops_perm`,
`Canvas.ops_pairwise`).
-/
import Mathlib.Algebra.Group.Int.Defs
import Mathlib.Algebra.Group.Nat.Defs
import SpriteStage.Canvas

set_option autoImplicit false

namespace SpriteStage

/-! ## The draw key -/

namespace Sprite

/-- The bits of the key are the bits of the depth followed by the bits of the id. -/
theorem toBitVec_drawKey (s : Sprite) : s.drawKey.toBitVec = s.z.toBitVec ++ s.id.toBitVec := by
  have hkey : s.drawKey.toBitVec =
      s.z.toBitVec.signExtend 64 <<< 32 ||| s.id.toBitVec.setWidth 64 := by
    simp [drawKey]
  rw [hkey]
  ext i hi
  rw [BitVec.getElem_or, BitVec.getElem_shiftLeft, BitVec.getElem_signExtend,
    BitVec.getElem_setWidth, BitVec.getElem_append]
  by_cases hlow : i < 32
  · -- below the halfway mark the shifted depth has zeros
    rw [dif_pos hlow, BitVec.getLsbD_eq_getElem hlow]
    simp only [hlow, decide_true, Bool.not_true, Bool.false_and, Bool.false_or]
  · -- above it the id has zeros
    have hid : s.id.toBitVec.getLsbD i = false := BitVec.getLsbD_of_ge _ _ (by omega)
    rw [dif_neg hlow, dif_pos (by omega), hid]
    simp only [hlow, decide_false, Bool.not_false, Bool.true_and, Bool.or_false]

/-- **The draw key is exact**: nothing of the depth is lost in the high half, and nothing of the id
runs over into it. -/
theorem toInt_drawKey (s : Sprite) : s.drawKey.toInt = s.z.toInt * 2 ^ 32 + s.id.toNat := by
  rw [← Int64.toInt_toBitVec, toBitVec_drawKey, BitVec.toInt_append, Int32.toInt_toBitVec,
    UInt32.toNat_toBitVec, if_neg (by decide)]
  omega

/-- The depth fits into the high half: nothing of it is lost when it is shifted up. -/
theorem toInt_shifted (s : Sprite) : (s.z.toInt64 <<< 32).toInt = s.z.toInt * 2 ^ 32 := by
  -- the shifted depth is a key itself, that of the sprite with the id zero
  have hkey : ({ s with id := 0 } : Sprite).drawKey = s.z.toInt64 <<< 32 := Int64.or_zero
  rw [← hkey, toInt_drawKey]
  exact Int.add_zero _

theorem drawKey_lt_iff (s t : Sprite) :
    s.drawKey < t.drawKey ↔
      s.z.toInt < t.z.toInt ∨ s.z.toInt = t.z.toInt ∧ s.id.toNat < t.id.toNat := by
  -- no id reaches the weight of one step in depth
  have hs := s.id.toNat_lt
  have ht := t.id.toNat_lt
  rw [Int64.lt_iff_toInt_lt, toInt_drawKey, toInt_drawKey]
  omega

theorem drawKey_eq_iff (s t : Sprite) : s.drawKey = t.drawKey ↔ s.z = t.z ∧ s.id = t.id := by
  have hs := s.id.toNat_lt
  have ht := t.id.toNat_lt
  rw [← Int64.toInt_inj, toInt_drawKey, toInt_drawKey, ← Int32.toInt_inj, ← UInt32.toNat_inj]
  omega

/-- **The draw key decides by depth first and by id second.** Take sprites of any depths and with any
ids. The bits of the key are those of the depth and behind them those of the id. Read as a signed
word, the key is `z * 2 ^ 32 + id`, a number that a word of 64 bits can hold, and shifting the depth
up does not overflow on the way. So one key is below another exactly if its depth is lower, or if the
depths are equal and its id is lower, and two keys are equal exactly if depth and id are. -/
theorem draw_key_is_exact (s t : Sprite) :
    s.drawKey.toBitVec = s.z.toBitVec ++ s.id.toBitVec ∧
    (s.z.toInt64 <<< 32).toInt = s.z.toInt * 2 ^ 32 ∧
    s.drawKey.toInt = s.z.toInt * 2 ^ 32 + s.id.toNat ∧
    (-2 ^ 63 ≤ s.z.toInt * 2 ^ 32 + s.id.toNat ∧ s.z.toInt * 2 ^ 32 + s.id.toNat < 2 ^ 63) ∧
    (s.drawKey < t.drawKey ↔
      s.z.toInt < t.z.toInt ∨ s.z.toInt = t.z.toInt ∧ s.id.toNat < t.id.toNat) ∧
    (s.drawKey = t.drawKey ↔ s.z = t.z ∧ s.id = t.id) := by
  refine ⟨s.toBitVec_drawKey, s.toInt_shifted, s.toInt_drawKey, ?_, s.drawKey_lt_iff t,
    s.drawKey_eq_iff t⟩
  -- the number is in range because it is the value of a word
  rw [← toInt_drawKey]
  exact ⟨s.drawKey.le_toInt, s.drawKey.toInt_lt⟩

/-- The greatest id at one depth comes before the least id at the next, also across zero, and ids
are compared without a sign. -/
example :
    let key (z : Int32) (id : Ident) := drawKey { id, z, figure := .text ⟨"", .black, 1⟩ }
    key (-1) 0xFFFFFFFF < key 0 1 ∧ key (-0x80000000) 0xFFFFFFFF < key (-0x7FFFFFFF) 1 ∧
      key 0 0x7FFFFFFF < key 0 0x80000000 := by
  decide

/-- Whether a sprite is painted before another, or is as good as the same: at a lower depth, or at
the same depth and created no later. -/
def PaintedBefore (s t : Sprite) : Prop := s.z < t.z ∨ s.z = t.z ∧ s.id ≤ t.id

theorem drawKey_le_iff (s t : Sprite) : s.drawKey ≤ t.drawKey ↔ s.PaintedBefore t := by
  have hs := s.id.toNat_lt
  have ht := t.id.toNat_lt
  rw [PaintedBefore, Int64.le_iff_toInt_le, toInt_drawKey, toInt_drawKey, Int32.lt_iff_toInt_lt,
    ← Int32.toInt_inj, UInt32.le_iff_toNat_le]
  omega

theorem PaintedBefore.id_eq {s t : Sprite} (hst : s.PaintedBefore t) (hts : t.PaintedBefore s) :
    s.id = t.id := by
  rw [PaintedBefore, Int32.lt_iff_toInt_lt, ← Int32.toInt_inj, UInt32.le_iff_toNat_le] at hst hts
  rw [← UInt32.toNat_inj]
  omega

end Sprite

/-- The painting order leaves no choice between sprites that differ in their ids. -/
theorem Sprite.eq_of_painting_order {ops ops' : List Sprite} (hperm : ops.Perm ops')
    (hops : ops.Pairwise PaintedBefore) (hops' : ops'.Pairwise PaintedBefore)
    (hid : ∀ l ∈ ops', ∀ m ∈ ops', l.id = m.id → l = m) : ops = ops' := by
  refine hperm.eq_of_pairwise ?_ hops hops'
  intro l m hl hm hlm hml
  exact hid l (hperm.mem_iff.mp hl) m hm (hlm.id_eq hml)

/-! ## Plans -/

/-- Sprite tables with every sprite under its own id. -/
def SpriteTable.Keyed (s : SpriteTable) : Prop := ∀ id sp, s.find? id = some sp → sp.id = id

namespace Canvas

/-- A plan has one sprite for every reference that resolves. -/
theorem ops_perm (c : Canvas) (sprites : SpriteTable) (clear : Argb) :
    (c.plan sprites clear).ops.Perm (c.references.filterMap sprites.find?) :=
  List.mergeSort_perm _ _

/-- A plan is in painting order. -/
theorem ops_pairwise (c : Canvas) (sprites : SpriteTable) (clear : Argb) :
    (c.plan sprites clear).ops.Pairwise Sprite.PaintedBefore := by
  have hsorted : (c.plan sprites clear).ops.Pairwise
      fun s t => decide (s.drawKey ≤ t.drawKey) = true := by
    refine List.pairwise_mergeSort (fun s t u hst htu => ?_) (fun s t => ?_) _
    · rw [decide_eq_true_iff] at hst htu ⊢
      exact Int64.le_trans hst htu
    · rw [Bool.or_eq_true, decide_eq_true_iff, decide_eq_true_iff]
      exact Int64.le_total s.drawKey t.drawKey
  refine hsorted.imp fun {s t} h => ?_
  rw [decide_eq_true_iff] at h
  exact (Sprite.drawKey_le_iff s t).mp h

/-- A sprite of a plan is a live one that the canvas refers to. -/
theorem mem_ops {c : Canvas} {sprites : SpriteTable} {clear : Argb} {s : Sprite} :
    s ∈ (c.plan sprites clear).ops ↔ ∃ id ∈ c.references, sprites.find? id = some s := by
  rw [(ops_perm c sprites clear).mem_iff, List.mem_filterMap]

/-- Sprites of a plan with the same id are one sprite. -/
theorem eq_of_mem_ops {c : Canvas} {sprites : SpriteTable} {clear : Argb} (hs : sprites.Keyed) :
    ∀ l ∈ (c.plan sprites clear).ops, ∀ m ∈ (c.plan sprites clear).ops, l.id = m.id → l = m := by
  intro l hl m hm hid
  obtain ⟨i, -, hi⟩ := mem_ops.mp hl
  obtain ⟨j, -, hj⟩ := mem_ops.mp hm
  have hij : i = j := by rw [← hs i l hi, ← hs j m hj, hid]
  rw [hij, hj] at hi
  exact (Option.some.inj hi).symm

end Canvas

end SpriteStage
