/-
PNG files: frames as files that any viewer reads.

A picture is stored without compression. The file is a signature and three chunks: a header, the
picture data and an end mark. The data are the scanlines, each behind a zero that says it is not
filtered, in a zlib stream of stored blocks.
-/
import SpriteStage.Frame

set_option autoImplicit false

namespace SpriteStage.Png

/-! ## Numbers and check sums -/

/-- A number as four bytes, the highest first. -/
def word (n : Nat) : ByteArray :=
  ⟨#[UInt8.ofNat (n >>> 24), UInt8.ofNat (n >>> 16), UInt8.ofNat (n >>> 8), UInt8.ofNat n]⟩

/-- A number as two bytes, the lowest first. -/
def halfWord (n : Nat) : ByteArray := ⟨#[UInt8.ofNat n, UInt8.ofNat (n >>> 8)]⟩

/-- One round of the cyclic redundancy check: a division step by the reversed polynomial. -/
def crcRound (c : UInt32) : UInt32 :=
  if c &&& 1 = 1 then (c >>> 1) ^^^ 0xEDB88320 else c >>> 1

/-- The register of the cyclic redundancy check after one more byte. -/
def crcByte (c : UInt32) (b : UInt8) : UInt32 :=
  Nat.repeat crcRound 8 (c ^^^ b.toUInt32)

/-- The cyclic redundancy check of 32 bits. -/
def crc (bytes : ByteArray) : UInt32 :=
  bytes.foldl crcByte 0xFFFFFFFF ^^^ 0xFFFFFFFF

/-- The two sums of the Adler check after one more byte. -/
def adlerByte (s : UInt32 × UInt32) (b : UInt8) : UInt32 × UInt32 :=
  let low := (s.1 + b.toUInt32) % 65521
  (low, (s.2 + low) % 65521)

/-- The Adler check of 32 bits. -/
def adler (bytes : ByteArray) : UInt32 :=
  let (low, high) := bytes.foldl adlerByte (1, 0)
  (high <<< 16) ||| low

/-! ## The layers of the file -/

/-- A chunk: length, name, data, and the check of name and data. -/
def chunk (name : String) (data : ByteArray) : ByteArray :=
  let body := name.toUTF8 ++ data
  word data.size ++ body ++ word (crc body).toNat

/-- The largest stored block. -/
def blockSize : Nat := 65535

/-- Stored blocks that hold the bytes from an index on, behind what is `done` already. -/
def storedBlocks (bytes : ByteArray) (start : Nat) (done : ByteArray) : ByteArray :=
  let stop := start + blockSize
  if stop < bytes.size then
    storedBlocks bytes stop
      (done.push 0 ++ halfWord blockSize ++ halfWord 0 ++ bytes.extract start stop)
  else
    let rest := bytes.size - start
    done.push 1 ++ halfWord rest ++ halfWord (blockSize - rest) ++ bytes.extract start bytes.size
termination_by bytes.size - start
decreasing_by simp only [blockSize] at *; omega

/-- A zlib stream of stored blocks. -/
def zlib (bytes : ByteArray) : ByteArray :=
  storedBlocks bytes 0 ⟨#[0x78, 0x01]⟩ ++ word (adler bytes).toNat

/-- The scanlines of a frame, each behind the mark for "not filtered". -/
def scanlines (f : Frame) : ByteArray :=
  let stride := 4 * f.width.toNat
  let data : ByteArray := ⟨f.data⟩
  (List.range f.height.toNat).foldl
    (fun done row => done.push 0 ++ data.extract (row * stride) ((row + 1) * stride)) .empty

/-- The eight bytes that a file starts with. -/
def signature : ByteArray := ⟨#[0x89, 0x50, 0x4E, 0x47, 0x0D, 0x0A, 0x1A, 0x0A]⟩

/-- The header: width, height, eight bits to a channel, color with alpha, and zero for the only
methods of compression, filtering and interlacing. -/
def header (f : Frame) : ByteArray :=
  word f.width.toNat ++ word f.height.toNat ++ ⟨#[8, 6, 0, 0, 0]⟩

/-- The file of a frame with straight alpha. -/
def encode (f : Frame) : ByteArray :=
  signature ++ chunk "IHDR" (header f) ++ chunk "IDAT" (zlib (scanlines f)) ++ chunk "IEND" .empty

end SpriteStage.Png
