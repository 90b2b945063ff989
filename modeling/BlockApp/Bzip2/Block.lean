import BlockApp.Bzip2.Code
import BlockApp.Bzip2.Transform

/-!
# Blocks

A block brings the bytes that occur in it, up to six codes, and a list that tells the code of each group
of fifty symbols. The symbols are places of bytes among the latest ones; runs of the first place are
written as numbers.

* `readColumn` ends as every symbol takes at least one bit.
-/

namespace BlockApp.Bzip2

/-! ## Codes of a block -/

/-- The bytes that occur in a block, told by a bit for every sixteen and one for every byte of those. -/
def readAlphabet (bits : List Bool) : Reading Bytes bits := do
  let (used, ⟨rest, h₁⟩) ← readMany readBit 16 bits
  let sixteens := ((List.range 16).zip used).filterMap fun (i, isUsed) => if isUsed then some i else none
  let (marks, ⟨rest, h₂⟩) ← readMany (readMany readBit 16) sixteens.length rest
  let bytes := (sixteens.zip marks).flatMap fun (sixteen, marks) =>
    ((List.range 16).zip marks).filterMap fun (i, isUsed) =>
      if isUsed then some (UInt8.ofNat (16 * sixteen + i)) else none
  if bytes = [] then throw .invalid
  return (bytes, ⟨rest, length_le_trans h₁ h₂⟩)

/-- The most codes of a block. -/
def codeBound : Nat := 6

/-- The most groups that count. A block may tell codes for more. -/
def groupBound : Nat := 18002

/-- Numbers from their places among the latest ones, of `count` numbers from zero on. -/
def latestNumbers (count : Nat) (places : List Nat) : List Nat :=
  (places.foldl (fun (latest, numbers) place =>
    match latest[place]? with
    | some number => (number :: latest.eraseIdx place, number :: numbers)
    | none => (latest, numbers)) (List.range count, [])).2.reverse

/-- Reads the codes of the groups of a block with `n` symbols. -/
def readCodes (n : Nat) (bits : List Bool) : Reading (List Code) bits := do
  let (codeCount, ⟨rest, h₁⟩) ← readNumber 3 bits
  if codeCount < 2 ∨ codeBound < codeCount then throw .invalid
  let (groupCount, ⟨rest, h₂⟩) ← readNumber 15 rest
  if groupCount = 0 then throw .invalid
  let (places, ⟨rest, h₃⟩) ← readMany (readCount codeCount 0) groupCount rest
  let (codes, ⟨rest, h₄⟩) ← readMany (readCode n) codeCount rest
  let groups := (latestNumbers codeCount (places.take groupBound)).filterMap (codes[·]?)
  return (groups, ⟨rest, by omega⟩)

/-! ## Symbols -/

/-- The number of symbols in a group. -/
def groupSize : Nat := 50

/-- The codes of groups: that of the group that is being read, with the number of its symbols that are
left, and those of the groups after it. -/
structure Groups where
  left : Nat
  code : Code
  others : List Code
  deriving Repr, DecidableEq

/-- Reads a symbol. -/
def Groups.read (groups : Groups) (bits : List Bool) :
    Except Stop (Nat × Groups × { rest : List Bool // rest.length < bits.length }) :=
  match groups with
  | ⟨left + 1, code, others⟩ => do
    let (symbol, rest) ← code.read bits
    return (symbol, ⟨left, code, others⟩, rest)
  | ⟨0, _, code :: others⟩ => do
    let (symbol, rest) ← code.read bits
    return (symbol, ⟨groupSize - 1, code, others⟩, rest)
  | ⟨0, _, []⟩ => .error .invalid

/-- The bound of the weights of the digits of a run. -/
def weightBound : Nat := 2 * 1024 * 1024

/-- A block that is being read: its latest bytes, the run of the first of them, with the weight of its next
digit, and what has been read. -/
structure Column where
  latest : Bytes
  run : Nat
  weight : Nat
  output : Array UInt8
  deriving Repr, DecidableEq

namespace Column

/-- A block with a digit of a run: one or two times its weight. -/
def addDigit (column : Column) (digit : Nat) : Option Column :=
  if weightBound ≤ column.weight then none
  else some { column with run := column.run + digit * column.weight, weight := 2 * column.weight }

/-- A block with its run written out. It may hold `bound` bytes. -/
def closeRun (bound : Nat) (column : Column) : Option Column :=
  if bound < column.output.size + column.run then none
  else
    let run := Array.replicate column.run (column.latest.headD 0)
    some { column with output := column.output ++ run, run := 0, weight := 1 }

/-- A block with the byte at a place among the latest ones. -/
def addPlace (bound place : Nat) (column : Column) : Option Column :=
  if bound ≤ column.output.size then none
  else
    let latest := moveToFront place column.latest
    some { column with latest, output := column.output.push (latest.headD 0) }

end Column

/-- Reads the rest of a block, up to the symbol `last`. -/
def readColumn (bound last : Nat) (groups : Groups) (column : Column) (bits : List Bool) :
    Reading (Array UInt8) bits :=
  match groups.read bits with
  | .error stop => .error stop
  | .ok (symbol, groups, ⟨rest, h⟩) =>
    if symbol ≤ 1 then
      match column.addDigit (symbol + 1) with
      | none => .error .invalid
      | some column => do
        let (output, ⟨rest, h'⟩) ← readColumn bound last groups column rest
        return (output, ⟨rest, by omega⟩)
    else
      match column.closeRun bound with
      | none => .error .invalid
      | some column =>
        if symbol = last then .ok (column.output, ⟨rest, Nat.le_of_lt h⟩)
        else
          match column.addPlace bound (symbol - 1) with
          | none => .error .invalid
          | some column => do
            let (output, ⟨rest, h'⟩) ← readColumn bound last groups column rest
            return (output, ⟨rest, by omega⟩)
  termination_by bits.length

/-! ## Blocks -/

/-- How many bytes a block may have for each unit of its size. -/
def sizeUnit : Nat := 100000

/-- One bit of the division of the checksum. -/
def checksumBit (sum : UInt32) : UInt32 :=
  if sum &&& 0x80000000 = 0 then sum <<< 1 else (sum <<< 1) ^^^ 0x04C11DB7

/-- One byte of the division of the checksum. -/
def checksumByte (sum : UInt32) (b : UInt8) : UInt32 :=
  Nat.repeat checksumBit 8 (sum ^^^ (b.toUInt32 <<< 24))

/-- The checksum of a byte string: CRC-32 with the division from the high bit on. -/
def checksum (bytes : Bytes) : UInt32 := (bytes.foldl checksumByte 0xFFFFFFFF) ^^^ 0xFFFFFFFF

/-- A block: what it holds, and the checksum that it tells. -/
structure Block where
  content : Expanded
  sum : Nat
  deriving Repr, DecidableEq

/-- The checksum of what a block holds. -/
def Block.checksum (block : Block) : UInt32 := Bzip2.checksum block.content.bytes.toList

/-- Whether a block holds what it tells. -/
def Block.isSound (block : Block) : Bool :=
  block.content.isWhole && block.checksum.toNat == block.sum

/-- Reads a block after its mark. -/
def readBlock (size : Nat) (bits : List Bool) : Reading Block bits := do
  let (sum, ⟨rest, h₁⟩) ← readNumber 32 bits
  let (isScattered, ⟨rest, h₂⟩) ← readBit rest
  let (place, ⟨rest, h₃⟩) ← readNumber 24 rest
  if 10 + sizeUnit * size < place then throw .invalid
  let (alphabet, ⟨rest, h₄⟩) ← readAlphabet rest
  let (groups, ⟨rest, h₅⟩) ← readCodes (alphabet.length + 2) rest
  let (column, ⟨rest, h₆⟩) ← readColumn (sizeUnit * size) (alphabet.length + 1)
    ⟨0, ⟨1, [], #[]⟩, groups⟩ ⟨alphabet, 0, 1, #[]⟩ rest
  if column.size ≤ place then throw .invalid
  let unsorted := unsort column place
  return (⟨expand (if isScattered then gather unsorted else unsorted), sum⟩, ⟨rest, by omega⟩)

example : checksum "123456789".toUTF8.toList = 0xFC891918 := by decide +kernel

end BlockApp.Bzip2
