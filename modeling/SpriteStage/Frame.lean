/-
Frames: finished pictures as bytes, the form in which pixels leave the library.

A frame is a row-major run of bytes, four to a pixel in the order red, green, blue, alpha. Readers
of a raster get premultiplied bytes; image encoders want straight ones, which `Frame.toStraight`
gives. A frame may come from outside, so nothing here takes for granted that the bytes fill the
extent.
-/
import SpriteStage.Color

set_option autoImplicit false

namespace SpriteStage

/-- A picture as bytes. -/
structure Frame where
  /-- The number of columns. -/
  width : UInt32
  /-- The number of rows. -/
  height : UInt32
  /-- The bytes, four to a pixel, one row after the other. -/
  data : Array UInt8
  /-- Whether the color bytes carry the alpha in them. -/
  premultiplied : Bool
deriving DecidableEq, Repr

namespace Frame

/-- The bytes of a run of pixels. -/
def bytesOf (pixels : Array Rgba) : Array UInt8 :=
  pixels.foldl (fun bytes p => (((bytes.push p.r).push p.g).push p.b).push p.a) #[]

theorem toList_bytesOf (pixels : Array Rgba) :
    (bytesOf pixels).toList = pixels.toList.flatMap Rgba.bytes := by
  have push_bytes (ps : List Rgba) (bytes : Array UInt8) :
      (ps.foldl (fun bytes p => (((bytes.push p.r).push p.g).push p.b).push p.a) bytes).toList =
        bytes.toList ++ ps.flatMap Rgba.bytes := by
    induction ps generalizing bytes with
    | nil => simp
    | cons p rest ih => simp [ih, Rgba.bytes]
  rw [bytesOf, ← Array.foldl_toList]
  exact push_bytes pixels.toList #[]

/-- The pixels of a run of bytes. Up to three bytes that make up no pixel are dropped. -/
def pixelsOf (bytes : Array UInt8) : Array Rgba :=
  Array.ofFn fun i : Fin (bytes.size / 4) =>
    have h : 4 * i.val + 3 < bytes.size := by omega
    ⟨bytes[4 * i.val], bytes[4 * i.val + 1], bytes[4 * i.val + 2], bytes[4 * i.val + 3]⟩

/-- A run of pixels takes four bytes for each. -/
theorem size_bytesOf (pixels : Array Rgba) : (bytesOf pixels).size = 4 * pixels.size := by
  have length_bytes (ps : List Rgba) : (ps.flatMap Rgba.bytes).length = 4 * ps.length := by
    induction ps with
    | nil => rfl
    | cons p rest ih =>
      rw [List.flatMap_cons, List.length_append, ih, List.length_cons, Nat.mul_succ, Nat.add_comm]
      rfl
  rw [← Array.length_toList, toList_bytesOf, length_bytes, Array.length_toList]

/-- The four bytes of a pixel stand from four times its index on. -/
theorem getElem?_flatMap_bytes (ps : List Rgba) (i : Nat) {k : Nat} (hk : k < 4) :
    (ps.flatMap Rgba.bytes)[4 * i + k]? = ps[i]?.bind fun p => p.bytes[k]? := by
  induction ps generalizing i with
  | nil => simp
  | cons p rest ih =>
    rw [List.flatMap_cons]
    have hlen : p.bytes.length = 4 := rfl
    cases i with
    | zero =>
      rw [Nat.mul_zero, Nat.zero_add, List.getElem?_append_left (by omega)]
      rfl
    | succ i =>
      rw [List.getElem?_append_right (by omega), List.getElem?_cons_succ, ← ih i]
      congr 1
      omega

/-- Bytes that hold a run of pixels give the run back. -/
theorem pixelsOf_bytesOf (pixels : Array Rgba) : pixelsOf (bytesOf pixels) = pixels := by
  have hsize := size_bytesOf pixels
  have byte (i : Nat) (hi : i < pixels.size) {k : Nat} (hk : k < 4)
      (hb : 4 * i + k < (bytesOf pixels).size) :
      some (bytesOf pixels)[4 * i + k] = pixels[i].bytes[k]? := by
    have h := getElem?_flatMap_bytes pixels.toList i hk
    rw [← toList_bytesOf, Array.getElem?_toList, Array.getElem?_toList,
      Array.getElem?_eq_getElem hb, Array.getElem?_eq_getElem hi] at h
    exact h
  refine Array.ext (by simp only [pixelsOf, Array.size_ofFn]; omega) fun i _ hi => ?_
  have red := Option.some.inj (byte i hi (k := 0) (by decide) (by omega))
  have green := Option.some.inj (byte i hi (k := 1) (by decide) (by omega))
  have blue := Option.some.inj (byte i hi (k := 2) (by decide) (by omega))
  have alpha := Option.some.inj (byte i hi (k := 3) (by decide) (by omega))
  simp only [pixelsOf, Array.getElem_ofFn]
  exact congr (congr (congr (congrArg Rgba.mk red) green) blue) alpha

/-- The same picture with straight alpha. -/
def toStraight (f : Frame) : Frame :=
  if f.premultiplied then
    { f with
      data := bytesOf ((pixelsOf f.data).map Rgba.unpremultiply)
      premultiplied := false }
  else f

/-- The pixel in column `x` and row `y`, in the alpha form of the frame; `none` outside. -/
def pixel? (f : Frame) (x y : UInt32) : Option Rgba :=
  if x < f.width ∧ y < f.height then do
    let i := (y.toNat * f.width.toNat + x.toNat) * 4
    return ⟨← f.data[i]?, ← f.data[i + 1]?, ← f.data[i + 2]?, ← f.data[i + 3]?⟩
  else none

end Frame

end SpriteStage
