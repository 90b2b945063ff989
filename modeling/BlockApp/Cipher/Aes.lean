import BlockApp.Bytes.Basic

/-!
# AES

The block cipher of FIPS 197 for keys of 16, 24 and 32 bytes. The state is four columns of four
bytes, so no operation indexes out of range; the round keys are a list of states, used front to back
for encryption and back to front for decryption.
-/

namespace BlockApp.Aes

/-- A column of the state. -/
structure Word where
  b0 : UInt8
  b1 : UInt8
  b2 : UInt8
  b3 : UInt8
  deriving Repr, DecidableEq

/-- Four columns: a block of sixteen bytes. -/
structure Block where
  w0 : Word
  w1 : Word
  w2 : Word
  w3 : Word
  deriving Repr, DecidableEq

namespace Word

/-- The sum of two words, byte by byte. -/
def xor (v w : Word) : Word := ⟨v.b0 ^^^ w.b0, v.b1 ^^^ w.b1, v.b2 ^^^ w.b2, v.b3 ^^^ w.b3⟩

/-- A function on every byte. -/
def map (f : UInt8 → UInt8) (w : Word) : Word := ⟨f w.b0, f w.b1, f w.b2, f w.b3⟩

/-- The bytes moved up by one place. -/
def rotate (w : Word) : Word := ⟨w.b1, w.b2, w.b3, w.b0⟩

/-- The four bytes in order. -/
def toList (w : Word) : Bytes := [w.b0, w.b1, w.b2, w.b3]

theorem xor_xor_cancel (v w : Word) : (v.xor w).xor w = v := by
  simp [xor, UInt8.xor_assoc]

end Word

namespace Block

/-- The sum of two blocks, byte by byte. -/
def xor (a b : Block) : Block := ⟨a.w0.xor b.w0, a.w1.xor b.w1, a.w2.xor b.w2, a.w3.xor b.w3⟩

/-- A function on every byte. -/
def map (f : UInt8 → UInt8) (a : Block) : Block :=
  ⟨a.w0.map f, a.w1.map f, a.w2.map f, a.w3.map f⟩

/-- A function on every column. -/
def mapWords (f : Word → Word) (a : Block) : Block := ⟨f a.w0, f a.w1, f a.w2, f a.w3⟩

/-- The sixteen bytes in order. -/
def toList (a : Block) : Bytes := a.w0.toList ++ a.w1.toList ++ a.w2.toList ++ a.w3.toList

theorem xor_xor_cancel (a b : Block) : (a.xor b).xor b = a := by
  simp [xor, Word.xor_xor_cancel]

@[simp] theorem length_toList (a : Block) : a.toList.length = 16 := rfl

/-- The blocks of a byte string. Bytes that fill no block are left over. -/
def ofBytes : Bytes → List Block × Bytes
  | a0 :: a1 :: a2 :: a3 :: b0 :: b1 :: b2 :: b3 :: c0 :: c1 :: c2 :: c3 :: d0 :: d1 :: d2 :: d3 ::
      rest =>
    let (blocks, left) := ofBytes rest
    (⟨⟨a0, a1, a2, a3⟩, ⟨b0, b1, b2, b3⟩, ⟨c0, c1, c2, c3⟩, ⟨d0, d1, d2, d3⟩⟩ :: blocks, left)
  | left => ([], left)

/-- The bytes of blocks. -/
def toBytes (blocks : List Block) : Bytes := blocks.flatMap toList

@[simp] theorem toBytes_nil : toBytes [] = [] := rfl

@[simp] theorem toBytes_cons (block : Block) (blocks : List Block) :
    toBytes (block :: blocks) = block.toList ++ toBytes blocks := rfl

theorem ofBytes_append (block : Block) (rest : Bytes) :
    ofBytes (block.toList ++ rest) = (block :: (ofBytes rest).1, (ofBytes rest).2) := rfl

/-- Reading back the bytes of blocks. -/
theorem ofBytes_toBytes (blocks : List Block) : ofBytes (toBytes blocks) = (blocks, []) := by
  induction blocks with
  | nil => rfl
  | cons block blocks ih => rw [toBytes_cons, ofBytes_append, ih]

end Block

/-! ## The substitution box -/

/-- The substitution box. -/
def substitution : Array UInt8 :=
  #[0x63, 0x7C, 0x77, 0x7B, 0xF2, 0x6B, 0x6F, 0xC5, 0x30, 0x01, 0x67, 0x2B, 0xFE, 0xD7, 0xAB, 0x76,
    0xCA, 0x82, 0xC9, 0x7D, 0xFA, 0x59, 0x47, 0xF0, 0xAD, 0xD4, 0xA2, 0xAF, 0x9C, 0xA4, 0x72, 0xC0,
    0xB7, 0xFD, 0x93, 0x26, 0x36, 0x3F, 0xF7, 0xCC, 0x34, 0xA5, 0xE5, 0xF1, 0x71, 0xD8, 0x31, 0x15,
    0x04, 0xC7, 0x23, 0xC3, 0x18, 0x96, 0x05, 0x9A, 0x07, 0x12, 0x80, 0xE2, 0xEB, 0x27, 0xB2, 0x75,
    0x09, 0x83, 0x2C, 0x1A, 0x1B, 0x6E, 0x5A, 0xA0, 0x52, 0x3B, 0xD6, 0xB3, 0x29, 0xE3, 0x2F, 0x84,
    0x53, 0xD1, 0x00, 0xED, 0x20, 0xFC, 0xB1, 0x5B, 0x6A, 0xCB, 0xBE, 0x39, 0x4A, 0x4C, 0x58, 0xCF,
    0xD0, 0xEF, 0xAA, 0xFB, 0x43, 0x4D, 0x33, 0x85, 0x45, 0xF9, 0x02, 0x7F, 0x50, 0x3C, 0x9F, 0xA8,
    0x51, 0xA3, 0x40, 0x8F, 0x92, 0x9D, 0x38, 0xF5, 0xBC, 0xB6, 0xDA, 0x21, 0x10, 0xFF, 0xF3, 0xD2,
    0xCD, 0x0C, 0x13, 0xEC, 0x5F, 0x97, 0x44, 0x17, 0xC4, 0xA7, 0x7E, 0x3D, 0x64, 0x5D, 0x19, 0x73,
    0x60, 0x81, 0x4F, 0xDC, 0x22, 0x2A, 0x90, 0x88, 0x46, 0xEE, 0xB8, 0x14, 0xDE, 0x5E, 0x0B, 0xDB,
    0xE0, 0x32, 0x3A, 0x0A, 0x49, 0x06, 0x24, 0x5C, 0xC2, 0xD3, 0xAC, 0x62, 0x91, 0x95, 0xE4, 0x79,
    0xE7, 0xC8, 0x37, 0x6D, 0x8D, 0xD5, 0x4E, 0xA9, 0x6C, 0x56, 0xF4, 0xEA, 0x65, 0x7A, 0xAE, 0x08,
    0xBA, 0x78, 0x25, 0x2E, 0x1C, 0xA6, 0xB4, 0xC6, 0xE8, 0xDD, 0x74, 0x1F, 0x4B, 0xBD, 0x8B, 0x8A,
    0x70, 0x3E, 0xB5, 0x66, 0x48, 0x03, 0xF6, 0x0E, 0x61, 0x35, 0x57, 0xB9, 0x86, 0xC1, 0x1D, 0x9E,
    0xE1, 0xF8, 0x98, 0x11, 0x69, 0xD9, 0x8E, 0x94, 0x9B, 0x1E, 0x87, 0xE9, 0xCE, 0x55, 0x28, 0xDF,
    0x8C, 0xA1, 0x89, 0x0D, 0xBF, 0xE6, 0x42, 0x68, 0x41, 0x99, 0x2D, 0x0F, 0xB0, 0x54, 0xBB, 0x16]

/-- The inverse of the substitution box. -/
def inverseSubstitution : Array UInt8 :=
  #[0x52, 0x09, 0x6A, 0xD5, 0x30, 0x36, 0xA5, 0x38, 0xBF, 0x40, 0xA3, 0x9E, 0x81, 0xF3, 0xD7, 0xFB,
    0x7C, 0xE3, 0x39, 0x82, 0x9B, 0x2F, 0xFF, 0x87, 0x34, 0x8E, 0x43, 0x44, 0xC4, 0xDE, 0xE9, 0xCB,
    0x54, 0x7B, 0x94, 0x32, 0xA6, 0xC2, 0x23, 0x3D, 0xEE, 0x4C, 0x95, 0x0B, 0x42, 0xFA, 0xC3, 0x4E,
    0x08, 0x2E, 0xA1, 0x66, 0x28, 0xD9, 0x24, 0xB2, 0x76, 0x5B, 0xA2, 0x49, 0x6D, 0x8B, 0xD1, 0x25,
    0x72, 0xF8, 0xF6, 0x64, 0x86, 0x68, 0x98, 0x16, 0xD4, 0xA4, 0x5C, 0xCC, 0x5D, 0x65, 0xB6, 0x92,
    0x6C, 0x70, 0x48, 0x50, 0xFD, 0xED, 0xB9, 0xDA, 0x5E, 0x15, 0x46, 0x57, 0xA7, 0x8D, 0x9D, 0x84,
    0x90, 0xD8, 0xAB, 0x00, 0x8C, 0xBC, 0xD3, 0x0A, 0xF7, 0xE4, 0x58, 0x05, 0xB8, 0xB3, 0x45, 0x06,
    0xD0, 0x2C, 0x1E, 0x8F, 0xCA, 0x3F, 0x0F, 0x02, 0xC1, 0xAF, 0xBD, 0x03, 0x01, 0x13, 0x8A, 0x6B,
    0x3A, 0x91, 0x11, 0x41, 0x4F, 0x67, 0xDC, 0xEA, 0x97, 0xF2, 0xCF, 0xCE, 0xF0, 0xB4, 0xE6, 0x73,
    0x96, 0xAC, 0x74, 0x22, 0xE7, 0xAD, 0x35, 0x85, 0xE2, 0xF9, 0x37, 0xE8, 0x1C, 0x75, 0xDF, 0x6E,
    0x47, 0xF1, 0x1A, 0x71, 0x1D, 0x29, 0xC5, 0x89, 0x6F, 0xB7, 0x62, 0x0E, 0xAA, 0x18, 0xBE, 0x1B,
    0xFC, 0x56, 0x3E, 0x4B, 0xC6, 0xD2, 0x79, 0x20, 0x9A, 0xDB, 0xC0, 0xFE, 0x78, 0xCD, 0x5A, 0xF4,
    0x1F, 0xDD, 0xA8, 0x33, 0x88, 0x07, 0xC7, 0x31, 0xB1, 0x12, 0x10, 0x59, 0x27, 0x80, 0xEC, 0x5F,
    0x60, 0x51, 0x7F, 0xA9, 0x19, 0xB5, 0x4A, 0x0D, 0x2D, 0xE5, 0x7A, 0x9F, 0x93, 0xC9, 0x9C, 0xEF,
    0xA0, 0xE0, 0x3B, 0x4D, 0xAE, 0x2A, 0xF5, 0xB0, 0xC8, 0xEB, 0xBB, 0x3C, 0x83, 0x53, 0x99, 0x61,
    0x17, 0x2B, 0x04, 0x7E, 0xBA, 0x77, 0xD6, 0x26, 0xE1, 0x69, 0x14, 0x63, 0x55, 0x21, 0x0C, 0x7D]

/-- The image of a byte under the substitution box. -/
def substitute (b : UInt8) : UInt8 := substitution.getD b.toNat 0

/-- The byte whose image is `b`. -/
def unsubstitute (b : UInt8) : UInt8 := inverseSubstitution.getD b.toNat 0

/-! ## The field of 256 elements -/

/-- Multiplication by `x` modulo `x⁸ + x⁴ + x³ + x + 1`. -/
def double (b : UInt8) : UInt8 := (b <<< 1) ^^^ (if b ≥ 0x80 then 0x1B else 0)

/-- Multiplication by a field element below sixteen, given by its four bits from the low one. -/
def times (bit0 bit1 bit2 bit3 : Bool) (b : UInt8) : UInt8 :=
  (if bit0 then b else 0) ^^^ (if bit1 then double b else 0) ^^^
    (if bit2 then double (double b) else 0) ^^^ (if bit3 then double (double (double b)) else 0)

/-- Multiplication by 3. -/
def times3 : UInt8 → UInt8 := times true true false false
/-- Multiplication by 9. -/
def times9 : UInt8 → UInt8 := times true false false true
/-- Multiplication by 11. -/
def times11 : UInt8 → UInt8 := times true true false true
/-- Multiplication by 13. -/
def times13 : UInt8 → UInt8 := times true false true true
/-- Multiplication by 14. -/
def times14 : UInt8 → UInt8 := times false true true true

/-! ## Steps of a round -/

/-- Mixes the bytes of a column. -/
def mixColumn (w : Word) : Word :=
  ⟨double w.b0 ^^^ times3 w.b1 ^^^ w.b2 ^^^ w.b3,
   w.b0 ^^^ double w.b1 ^^^ times3 w.b2 ^^^ w.b3,
   w.b0 ^^^ w.b1 ^^^ double w.b2 ^^^ times3 w.b3,
   times3 w.b0 ^^^ w.b1 ^^^ w.b2 ^^^ double w.b3⟩

/-- Undoes `mixColumn`. -/
def unmixColumn (w : Word) : Word :=
  ⟨times14 w.b0 ^^^ times11 w.b1 ^^^ times13 w.b2 ^^^ times9 w.b3,
   times9 w.b0 ^^^ times14 w.b1 ^^^ times11 w.b2 ^^^ times13 w.b3,
   times13 w.b0 ^^^ times9 w.b1 ^^^ times14 w.b2 ^^^ times11 w.b3,
   times11 w.b0 ^^^ times13 w.b1 ^^^ times9 w.b2 ^^^ times14 w.b3⟩

/-- Moves row `i` to the left by `i` places. -/
def shiftRows (a : Block) : Block :=
  ⟨⟨a.w0.b0, a.w1.b1, a.w2.b2, a.w3.b3⟩, ⟨a.w1.b0, a.w2.b1, a.w3.b2, a.w0.b3⟩,
   ⟨a.w2.b0, a.w3.b1, a.w0.b2, a.w1.b3⟩, ⟨a.w3.b0, a.w0.b1, a.w1.b2, a.w2.b3⟩⟩

/-- Moves row `i` to the right by `i` places. -/
def unshiftRows (a : Block) : Block :=
  ⟨⟨a.w0.b0, a.w3.b1, a.w2.b2, a.w1.b3⟩, ⟨a.w1.b0, a.w0.b1, a.w3.b2, a.w2.b3⟩,
   ⟨a.w2.b0, a.w1.b1, a.w0.b2, a.w3.b3⟩, ⟨a.w3.b0, a.w2.b1, a.w1.b2, a.w0.b3⟩⟩

theorem unshiftRows_shiftRows (a : Block) : unshiftRows (shiftRows a) = a := rfl

theorem shiftRows_unshiftRows (a : Block) : shiftRows (unshiftRows a) = a := rfl

/-! ## Key schedule -/

/-- The constant of round `i`: a power of `x` in the first byte. -/
def roundConstant : Nat → UInt8
  | 0 => 1
  | i + 1 => double (roundConstant i)

/-- Adds `count` words to the schedule of a key of `size` words. `made` holds the words so far, the
last one first, and `i` is their number. -/
def extendKey (size : Nat) : (count i : Nat) → (made : List Word) → List Word
  | 0, _, made => made
  | count + 1, i, made =>
    let zeroWord : Word := ⟨0, 0, 0, 0⟩
    let last := made.headD zeroWord
    let changed :=
      if i % size = 0 then
        (last.rotate.map substitute).xor ⟨roundConstant (i / size - 1), 0, 0, 0⟩
      else if size > 6 ∧ i % size = 4 then last.map substitute
      else last
    extendKey size count (i + 1) ((made.getD (size - 1) zeroWord).xor changed :: made)

/-- The words of a byte string. -/
def words : Bytes → List Word
  | b0 :: b1 :: b2 :: b3 :: rest => ⟨b0, b1, b2, b3⟩ :: words rest
  | _ => []

/-- Four words at a time as blocks. -/
def blocksOfWords : List Word → List Block
  | w0 :: w1 :: w2 :: w3 :: rest => ⟨w0, w1, w2, w3⟩ :: blocksOfWords rest
  | _ => []

/-- The round keys of a key: one more than its rounds, of which there are six more than words. -/
def roundKeys (key : Bytes) : List Block :=
  let size := key.length / 4
  blocksOfWords (extendKey size (4 * (size + 7) - size) size (words key).reverse).reverse

/-! ## The cipher -/

/-- The rounds of encryption. The last one does not mix columns. -/
def encryptRounds : List Block → Block → Block
  | [], state => state
  | [key], state => (shiftRows (state.map substitute)).xor key
  | key :: keys, state =>
    encryptRounds keys (((shiftRows (state.map substitute)).mapWords mixColumn).xor key)

/-- The rounds of decryption, with the round keys from the last. -/
def decryptRounds : List Block → Block → Block
  | [], state => state
  | [key], state => ((unshiftRows state).map unsubstitute).xor key
  | key :: keys, state =>
    decryptRounds keys ((((unshiftRows state).map unsubstitute).xor key).mapWords unmixColumn)

/-- Encrypts a block. -/
def encryptBlock (key : Bytes) (block : Block) : Block :=
  match roundKeys key with
  | [] => block
  | first :: keys => encryptRounds keys (block.xor first)

/-- Decrypts a block. -/
def decryptBlock (key : Bytes) (block : Block) : Block :=
  match (roundKeys key).reverse with
  | [] => block
  | last :: keys => decryptRounds keys (block.xor last)

/-- The first round of the example of FIPS 197, appendix B. -/
example :
    (shiftRows ((⟨⟨0x19, 0x3D, 0xE3, 0xBE⟩, ⟨0xA0, 0xF4, 0xE2, 0x2B⟩, ⟨0x9A, 0xC6, 0x8D, 0x2A⟩,
        ⟨0xE9, 0xF8, 0x48, 0x08⟩⟩ : Block).map substitute)).mapWords mixColumn =
      ⟨⟨0x04, 0x66, 0x81, 0xE5⟩, ⟨0xE0, 0xCB, 0x19, 0x9A⟩, ⟨0x48, 0xF8, 0xD3, 0x7A⟩,
        ⟨0x28, 0x06, 0x26, 0x4C⟩⟩ := by decide +kernel

end BlockApp.Aes
