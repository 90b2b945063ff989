/-!
# Byte strings

A byte string is a list of bytes. Reading at an offset never fails: past the end there is nothing to
read, and a reader that needs all of its bytes compares the length.

The checksums are CRC-32 of the archive format (reflected polynomial 0xEDB88320) and Adler-32 of the
compressed stream format, each as a fold over the bytes.
-/

namespace BlockApp

/-- A byte string. -/
abbrev Bytes := List UInt8

namespace Bytes

/-- Up to `count` bytes from `start` on. -/
def slice (data : Bytes) (start count : Nat) : Bytes := (data.drop start).take count

theorem length_slice (data : Bytes) (start count : Nat) :
    (data.slice start count).length = min count (data.length - start) := by
  simp [slice]

/-- The number written by bytes, most significant first. -/
def bigEndian (bytes : Bytes) : Nat := bytes.foldl (fun n b => 256 * n + b.toNat) 0

/-- The number written by bytes, least significant first. -/
def littleEndian (bytes : Bytes) : Nat := bytes.foldr (fun b n => b.toNat + 256 * n) 0

@[simp] theorem littleEndian_nil : littleEndian [] = 0 := rfl

@[simp] theorem littleEndian_cons (b : UInt8) (bytes : Bytes) :
    littleEndian (b :: bytes) = b.toNat + 256 * littleEndian bytes := rfl

/-! ## Checksums -/

/-- One bit of the CRC division. -/
def crcBit (crc : UInt32) : UInt32 :=
  if crc &&& 1 = 1 then (crc >>> 1) ^^^ 0xEDB88320 else crc >>> 1

/-- One byte of the CRC division. -/
def crcByte (crc : UInt32) (b : UInt8) : UInt32 :=
  let x := crc ^^^ b.toUInt32
  crcBit (crcBit (crcBit (crcBit (crcBit (crcBit (crcBit (crcBit x)))))))

/-- The CRC-32 of a byte string. -/
def crc32 (bytes : Bytes) : UInt32 := (bytes.foldl crcByte 0xFFFFFFFF) ^^^ 0xFFFFFFFF

/-- The largest prime below 2 ^ 16. -/
def adlerModulus : Nat := 65521

/-- The Adler-32 of a byte string: the sum of the bytes and the sum of those sums. -/
def adler32 (bytes : Bytes) : Nat :=
  let sums := bytes.foldl (fun (a, b) byte =>
    let a := (a + byte.toNat) % adlerModulus
    (a, (b + a) % adlerModulus)) (1, 0)
  sums.2 * 65536 + sums.1

example : crc32 "123456789".toUTF8.toList = 0xCBF43926 := by decide +kernel
example : adler32 "Wikipedia".toUTF8.toList = 0x11E60398 := by decide +kernel

end Bytes

end BlockApp
