import BlockApp.Bzip2.Block

/-!
# Block-sorted streams

A stream is a header with the size of its blocks, the blocks, and a checksum of their checksums. Bytes after
it are ignored.

* Data that ends early stands for what its whole blocks hold: `Content.isWhole` tells the difference. But a
  block with which the data ends is written only as far as there is room at that time, and is not checked
  if there is too little.
* `readBlocks` ends as every block takes at least the bits of its mark.
-/

namespace BlockApp.Bzip2

/-- What data stands for, and whether it is a whole stream. -/
structure Content where
  bytes : Bytes
  isWhole : Bool
  deriving Repr, DecidableEq

/-- The first byte of a block's mark, and those after it. -/
def blockMark : Nat × List Nat := (0x31, [0x41, 0x59, 0x26, 0x53, 0x59])

/-- The first byte of the mark at the end of the blocks, and those after it. -/
def endMark : Nat × List Nat := (0x17, [0x72, 0x45, 0x38, 0x50, 0x90])

/-- The checksum of checksums with another one. -/
def combine (combined sum : UInt32) : UInt32 := ((combined <<< 1) ||| (combined >>> 31)) ^^^ sum

/-- What is read at the start of a block or after the last one. -/
inductive Part where
  | block (block : Block)
  | sum (sum : Nat)
  deriving Repr, DecidableEq

/-- Reads a block or the end of the blocks: at least one bit. -/
def readPart (size : Nat) (bits : List Bool) :
    Except Stop (Part × { rest : List Bool // rest.length < bits.length }) :=
  match bits with
  | [] => .error .truncated
  | bit :: bits => do
    let (first, ⟨rest, h₁⟩) ← readAfter bit.toNat 7 bits
    if first = endMark.1 then
      let (_, ⟨rest, h₂⟩) ← readMark endMark.2 rest
      let (sum, ⟨rest, h₃⟩) ← readNumber 32 rest
      return (.sum sum, ⟨rest, by simp only [List.length_cons]; omega⟩)
    else if first = blockMark.1 then
      let (_, ⟨rest, h₂⟩) ← readMark blockMark.2 rest
      let (block, ⟨rest, h₃⟩) ← readBlock size rest
      return (.block block, ⟨rest, by simp only [List.length_cons]; omega⟩)
    else throw .invalid

/-- The numbers of bytes by which the room for output grows. -/
def roomSteps : List Nat := [32, 64, 256, 1024, 4096, 8192, 16384, 16384, 32768, 32768].map (1024 * ·)

/-- The room for output when some has been written: the least that has been made and is more than that. -/
def room (written : Nat) : Nat :=
  roomSteps.foldl (fun room step => if written < room then room else room + step) 0

/-- Reads blocks up to the end of the stream. `combined` and `output` are those of the blocks before. -/
def readBlocks (size : Nat) (combined : UInt32) (output : Array UInt8) (bits : List Bool) :
    Option Content :=
  match readPart size bits with
  | .error .truncated => some ⟨output.toList, false⟩
  | .error .invalid => none
  | .ok (.sum sum, _) => if sum = combined.toNat then some ⟨output.toList, true⟩ else none
  | .ok (.block block, ⟨rest, _⟩) =>
    let written := output ++ block.content.bytes
    if rest.length < 8 ∧ room output.size < written.size then
      some ⟨(written.extract 0 (room output.size)).toList, false⟩
    else if block.isSound then readBlocks size (combine combined block.checksum) written rest
    else none
  termination_by bits.length

/-- The mark of a stream: the letters `BZh`. -/
def streamMark : List Nat := [0x42, 0x5A, 0x68]

/-- Reads the header of a stream: the size of its blocks, written as a digit. -/
def readHeader (bits : List Bool) : Except Stop (Nat × List Bool) := do
  let (_, ⟨rest, _⟩) ← readMark streamMark bits
  let (digit, ⟨rest, _⟩) ← readNumber 8 rest
  if digit < '1'.toNat ∨ '9'.toNat < digit then throw .invalid
  return (digit - '0'.toNat, rest)

/-- What a byte string stands for, `none` if it is not the start of a stream. -/
def decompress (bytes : Bytes) : Option Content :=
  match readHeader (bitsOf bytes) with
  | .error .truncated => some ⟨[], false⟩
  | .error .invalid => none
  | .ok (size, bits) => readBlocks size 0 #[] bits

end BlockApp.Bzip2
