import BlockApp.Bytes.Basic

/-!
# Bits of block-sorted data

The bits of a byte string, each byte from its high bit, and readers of numbers. A reader returns what is
left with a proof that it is no longer than before, so that loops over the bits end.
-/

namespace BlockApp.Bzip2

/-- Why reading stops before the end of a stream. -/
inductive Stop where
  /-- The bits end. -/
  | truncated
  /-- The bits are not those of a stream. -/
  | invalid
  deriving Repr, DecidableEq

/-- The bits of a byte, the high one first. -/
def byteBits (b : UInt8) : List Bool := (List.range 8).map fun i => b.toNat.testBit (7 - i)

/-- The bits of a byte string. -/
def bitsOf (bytes : Bytes) : List Bool := bytes.flatMap byteBits

/-- What a reader returns: a value, and the bits after it. -/
abbrev Reading (α : Type) (bits : List Bool) : Type :=
  Except Stop (α × { rest : List Bool // rest.length ≤ bits.length })

/-- What is left after two readings is no longer than the bits before them. -/
theorem length_le_trans {bits middle rest : List Bool} (h₁ : middle.length ≤ bits.length)
    (h₂ : rest.length ≤ middle.length) : rest.length ≤ bits.length := Nat.le_trans h₂ h₁

/-- Reads a number of `n` bits, the high one first, after the bits that make `value`. -/
def readAfter (value : Nat) : (n : Nat) → (bits : List Bool) → Reading Nat bits
  | 0, bits => .ok (value, ⟨bits, Nat.le_refl _⟩)
  | _ + 1, [] => .error .truncated
  | n + 1, bit :: bits => do
    let (number, ⟨rest, h⟩) ← readAfter (2 * value + bit.toNat) n bits
    return (number, ⟨rest, Nat.le_succ_of_le h⟩)

/-- Reads a number of `n` bits, the high one first. -/
def readNumber (n : Nat) (bits : List Bool) : Reading Nat bits := readAfter 0 n bits

/-- Reads bytes that must be there. -/
def readMark : (mark : List Nat) → (bits : List Bool) → Reading Unit bits
  | [], bits => .ok ((), ⟨bits, Nat.le_refl _⟩)
  | byte :: mark, bits => do
    let (found, ⟨rest, h₁⟩) ← readNumber 8 bits
    if found = byte then
      let (_, ⟨rest, h₂⟩) ← readMark mark rest
      return ((), ⟨rest, length_le_trans h₁ h₂⟩)
    else throw .invalid

/-- Reads `n` values, one after the other. -/
def readMany {α : Type} (read : (bits : List Bool) → Reading α bits) :
    (n : Nat) → (bits : List Bool) → Reading (List α) bits
  | 0, bits => .ok ([], ⟨bits, Nat.le_refl _⟩)
  | n + 1, bits => do
    let (first, ⟨rest, h₁⟩) ← read bits
    let (others, ⟨rest, h₂⟩) ← readMany read n rest
    return (first :: others, ⟨rest, length_le_trans h₁ h₂⟩)

/-- Reads one bit. -/
def readBit : (bits : List Bool) → Reading Bool bits
  | [] => .error .truncated
  | bit :: bits => .ok (bit, ⟨bits, Nat.le_succ _⟩)

/-- Reads ones up to the first zero, which must be fewer than `bound`, and counts them. -/
def readCount (bound : Nat) : (counted : Nat) → (bits : List Bool) → Reading Nat bits
  | _, [] => .error .truncated
  | counted, false :: bits => .ok (counted, ⟨bits, Nat.le_succ _⟩)
  | counted, true :: bits =>
    if counted + 1 < bound then do
      let (count, ⟨rest, h⟩) ← readCount bound (counted + 1) bits
      return (count, ⟨rest, Nat.le_succ_of_le h⟩)
    else .error .invalid

end BlockApp.Bzip2
