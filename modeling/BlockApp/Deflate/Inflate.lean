import BlockApp.Bytes.Basic
import BlockApp.Deflate.Huffman

/-!
# Inflating

The compressed data format of RFC 1951. The input is the list of its bits, each byte from its low bit;
the output is an array, since a match copies bytes from any distance back.

Termination, without fuel:

* `readLengths`: every step takes at least one bit (`readSymbol` returns fewer bits);
* `inflateTokens`: every token takes at least one bit (`readToken` returns fewer bits);
* `inflateBlocks`: every block takes at least the three bits of its header.

Input that ends early is not bad data: `Stop.truncated` carries what was inflated until then.
-/

namespace BlockApp.Deflate

/-- Why data cannot be inflated. -/
inductive Fault where
  | blockType
  | storedLengths
  | tooManySymbols
  | codeLengthCode
  | lengthRepeat
  | noEndOfBlock
  | literalCode
  | distanceCode
  | literalSymbol
  | distanceSymbol
  | distanceTooFar
  deriving Repr, DecidableEq

/-- What is reported of data that cannot be inflated. -/
def Fault.message : Fault → String
  | .blockType => "invalid block type"
  | .storedLengths => "invalid stored block lengths"
  | .tooManySymbols => "too many length or distance symbols"
  | .codeLengthCode => "invalid code lengths set"
  | .lengthRepeat => "invalid bit length repeat"
  | .noEndOfBlock => "invalid code -- missing end-of-block"
  | .literalCode => "invalid literal/lengths set"
  | .distanceCode => "invalid distances set"
  | .literalSymbol => "invalid literal/length code"
  | .distanceSymbol => "invalid distance code"
  | .distanceTooFar => "invalid distance too far back"

/-- Why inflating stopped before the end of the data. -/
inductive Stop where
  | truncated (output : Array UInt8)
  | invalid (fault : Fault)
  deriving Repr

/-- The bits of a byte, the low one first. -/
def byteBits (b : UInt8) : List Bool := (List.range 8).map b.toNat.testBit

/-- The bits of a byte string. -/
def bitsOf (bytes : Bytes) : List Bool := bytes.flatMap byteBits

/-- Reads a number of `n` bits, the low one first, `none` if there are fewer. -/
def readBits : (n : Nat) → (bits : List Bool) →
    Option (Nat × { rest : List Bool // rest.length + n = bits.length })
  | 0, bits => some (0, ⟨bits, rfl⟩)
  | _ + 1, [] => none
  | n + 1, bit :: bits =>
    match readBits n bits with
    | none => none
    | some (value, ⟨rest, h⟩) => some (bit.toNat + 2 * value, ⟨rest, by simp; omega⟩)

/-- What reading a symbol gives. -/
inductive ReadSymbol (bits : List Bool) where
  | symbol (symbol : Nat) (rest : List Bool) (shorter : rest.length < bits.length)
  | noWord
  | endOfBits

/-- Reads a symbol of a code: at least one bit. -/
def readSymbol (zero one : CodeTree) : (bits : List Bool) → ReadSymbol bits
  | [] => .endOfBits
  | bit :: bits =>
    match (if bit then one else zero).walk bits with
    | .symbol s rest h => .symbol s rest (Nat.lt_succ_of_le h)
    | .noWord => .noWord
    | .endOfBits => .endOfBits

/-- A code for reading symbols: the two halves of its tree. -/
structure Code where
  zero : CodeTree
  one : CodeTree

/-- The code with the given word lengths. -/
def Code.ofLengths (lengths : List Nat) : Code :=
  match codeTree lengths with
  | .node zero one => ⟨zero, one⟩
  | _ => ⟨.missing, .missing⟩

/-! ## Lengths and distances -/

/-- The least length and the number of extra bits of the length symbols from 257 on. -/
def lengthTable : List (Nat × Nat) :=
  [(3, 0), (4, 0), (5, 0), (6, 0), (7, 0), (8, 0), (9, 0), (10, 0), (11, 1), (13, 1), (15, 1),
   (17, 1), (19, 2), (23, 2), (27, 2), (31, 2), (35, 3), (43, 3), (51, 3), (59, 3), (67, 4),
   (83, 4), (99, 4), (115, 4), (131, 5), (163, 5), (195, 5), (227, 5), (258, 0)]

/-- The least distance and the number of extra bits of the distance symbols. -/
def distanceTable : List (Nat × Nat) :=
  [(1, 0), (2, 0), (3, 0), (4, 0), (5, 1), (7, 1), (9, 2), (13, 2), (17, 3), (25, 3), (33, 4),
   (49, 4), (65, 5), (97, 5), (129, 6), (193, 6), (257, 7), (385, 7), (513, 8), (769, 8),
   (1025, 9), (1537, 9), (2049, 10), (3073, 10), (4097, 11), (6145, 11), (8193, 12), (12289, 12),
   (16385, 13), (24577, 13)]

/-- Appends `length` bytes, each a copy of the byte `distance` places back. -/
def copyBack (distance : Nat) : (length : Nat) → Array UInt8 → Array UInt8
  | 0, output => output
  | length + 1, output =>
    copyBack distance length (output.push (output.getD (output.size - distance) 0))

/-- One step of compressed data. -/
inductive Token where
  | literal (byte : UInt8)
  | copy (distance length : Nat)
  | endOfBlock
  deriving Repr, DecidableEq

/-- Reads what follows a length symbol: the rest of the length, and the distance. `none` stands for the
end of the bits. -/
def readMatch (distances : Code) (length extra : Nat) (bits : List Bool) :
    Except (Option Fault) (Token × { rest : List Bool // rest.length ≤ bits.length }) :=
  match readBits extra bits with
  | none => .error none
  | some (more, ⟨afterLength, h₁⟩) =>
    match readSymbol distances.zero distances.one afterLength with
    | .endOfBits => .error none
    | .noWord => .error (some .distanceSymbol)
    | .symbol symbol afterSymbol h₂ =>
      match distanceTable[symbol]? with
      | none => .error (some .distanceSymbol)
      | some (distance, extra) =>
        match readBits extra afterSymbol with
        | none => .error none
        | some (further, ⟨rest, h₃⟩) =>
          .ok (.copy (distance + further) (length + more), ⟨rest, by omega⟩)

/-- Reads a token. `none` stands for the end of the bits. -/
def readToken (literals distances : Code) (bits : List Bool) :
    Except (Option Fault) (Token × { rest : List Bool // rest.length < bits.length }) :=
  match readSymbol literals.zero literals.one bits with
  | .endOfBits => .error none
  | .noWord => .error (some .literalSymbol)
  | .symbol symbol afterSymbol h₁ =>
    if symbol < 256 then .ok (.literal (UInt8.ofNat symbol), ⟨afterSymbol, h₁⟩)
    else if symbol = 256 then .ok (.endOfBlock, ⟨afterSymbol, h₁⟩)
    else
      match lengthTable[symbol - 257]? with
      | none => .error (some .literalSymbol)
      | some (length, extra) => do
        let (token, ⟨rest, h₂⟩) ← readMatch distances length extra afterSymbol
        return (token, ⟨rest, Nat.lt_of_le_of_lt h₂ h₁⟩)

/-! ## Blocks -/

/-- Inflates tokens up to the end of the block. -/
def inflateTokens (literals distances : Code) (output : Array UInt8) (bits : List Bool) :
    Except Stop (Array UInt8 × { rest : List Bool // rest.length ≤ bits.length }) :=
  match readToken literals distances bits with
  | .error none => .error (.truncated output)
  | .error (some fault) => .error (.invalid fault)
  | .ok (.endOfBlock, ⟨rest, h⟩) => .ok (output, ⟨rest, Nat.le_of_lt h⟩)
  | .ok (.literal byte, ⟨rest, h⟩) => do
    let (output, ⟨rest, h'⟩) ← inflateTokens literals distances (output.push byte) rest
    return (output, ⟨rest, Nat.le_trans h' (Nat.le_of_lt h)⟩)
  | .ok (.copy distance length, ⟨rest, h⟩) =>
    if distance > output.size then .error (.invalid .distanceTooFar)
    else do
      let (output, ⟨rest, h'⟩) ←
        inflateTokens literals distances (copyBack distance length output) rest
      return (output, ⟨rest, Nat.le_trans h' (Nat.le_of_lt h)⟩)
  termination_by bits.length

/-- The order in which the lengths of the code-length code are written. -/
def codeLengthOrder : List Nat :=
  [16, 17, 18, 0, 8, 7, 9, 6, 10, 5, 11, 4, 12, 3, 13, 2, 14, 1, 15]

/-- Reads `n` lengths of three bits. -/
def readTriples : (n : Nat) → (bits : List Bool) →
    Option (List Nat × { rest : List Bool // rest.length ≤ bits.length })
  | 0, bits => some ([], ⟨bits, Nat.le_refl _⟩)
  | n + 1, bits => do
    let (first, ⟨rest, h₁⟩) ← readBits 3 bits
    let (others, ⟨rest, h₂⟩) ← readTriples n rest
    return (first :: others, ⟨rest, by omega⟩)

/-- Reads code lengths until there are `count` of them. `done` holds those read, the last one first.
A code-length code without words reads every bit as a length of zero. -/
def readLengths (output : Array UInt8) (code : Option Code) (count : Nat) (done : List Nat)
    (bits : List Bool) :
    Except Stop (List Nat × { rest : List Bool // rest.length ≤ bits.length }) :=
  if hcount : count ≤ done.length then .ok (done.reverse, ⟨bits, Nat.le_refl _⟩)
  else
    match code with
    | none =>
      match readBits 1 bits with
      | none => .error (.truncated output)
      | some (_, ⟨rest, h₁⟩) => do
        let (lengths, ⟨rest, h₂⟩) ← readLengths output code count (0 :: done) rest
        return (lengths, ⟨rest, by omega⟩)
    | some tree =>
      match readSymbol tree.zero tree.one bits with
      | .endOfBits => .error (.truncated output)
      | .noWord => .error (.invalid .codeLengthCode)
      | .symbol s afterSymbol h₁ =>
        if s < 16 then do
          let (lengths, ⟨rest, h₂⟩) ← readLengths output code count (s :: done) afterSymbol
          return (lengths, ⟨rest, by omega⟩)
        else
          let (least, extra) := if s = 16 then (3, 2) else if s = 17 then (3, 3) else (11, 7)
          match readBits extra afterSymbol with
          | none => .error (.truncated output)
          | some (more, ⟨afterRepeat, h₂⟩) =>
            match (if s = 16 then done.head? else some 0) with
            | none => .error (.invalid .lengthRepeat)
            | some length =>
              if done.length + least + more > count then .error (.invalid .lengthRepeat)
              else do
                let (lengths, ⟨rest, h₃⟩) ← readLengths output code count
                  (List.replicate (least + more) length ++ done) afterRepeat
                return (lengths, ⟨rest, by omega⟩)
  termination_by bits.length

/-- Reads the two codes of a block that brings its own. -/
def readCodes (output : Array UInt8) (bits : List Bool) :
    Except Stop (Code × Code × { rest : List Bool // rest.length ≤ bits.length }) :=
  match readBits 14 bits with
  | none => .error (.truncated output)
  | some (sizes, ⟨rest, h₁⟩) =>
    let literalCount := sizes % 32 + 257
    let distanceCount := sizes / 32 % 32 + 1
    if literalCount > 286 ∨ distanceCount > 30 then .error (.invalid .tooManySymbols)
    else
      match readTriples (sizes / 1024 + 4) rest with
      | none => .error (.truncated output)
      | some (triples, ⟨rest, h₂⟩) =>
        let written := codeLengthOrder.zip triples
        let codeLengths := (List.range 19).map fun symbol => (written.lookup symbol).getD 0
        let empty := codeLengths.all (· == 0)
        if !empty && !isComplete codeLengths then .error (.invalid .codeLengthCode)
        else do
          let code := if empty then none else some (Code.ofLengths codeLengths)
          let (lengths, ⟨rest, h₃⟩) ←
            readLengths output code (literalCount + distanceCount) [] rest
          let literals := lengths.take literalCount
          let distances := lengths.drop literalCount
          if literals.getD 256 0 = 0 then .error (.invalid .noEndOfBlock)
          else if !isUsable literals then .error (.invalid .literalCode)
          else if !isUsable distances then .error (.invalid .distanceCode)
          else return (Code.ofLengths literals, Code.ofLengths distances, ⟨rest, by omega⟩)

/-- The literal code of blocks that bring no codes. -/
def fixedLiterals : Code :=
  Code.ofLengths (List.replicate 144 8 ++ List.replicate 112 9 ++ List.replicate 24 7 ++
    List.replicate 8 8)

/-- The distance code of blocks that bring no codes. -/
def fixedDistances : Code := Code.ofLengths (List.replicate 32 5)

/-- Copies `count` whole bytes from the bits. -/
def copyStored : (count : Nat) → (output : Array UInt8) → (bits : List Bool) →
    Except Stop (Array UInt8 × { rest : List Bool // rest.length ≤ bits.length })
  | 0, output, bits => .ok (output, ⟨bits, Nat.le_refl _⟩)
  | count + 1, output, bits =>
    match readBits 8 bits with
    | none => .error (.truncated output)
    | some (byte, ⟨rest, h₁⟩) => do
      let (output, ⟨rest, h₂⟩) ← copyStored count (output.push (UInt8.ofNat byte)) rest
      return (output, ⟨rest, by omega⟩)

/-- Inflates a block that is not compressed. It starts at the next whole byte of the input. -/
def inflateStored (output : Array UInt8) (bits : List Bool) :
    Except Stop (Array UInt8 × { rest : List Bool // rest.length ≤ bits.length }) :=
  match readBits 32 (bits.drop (bits.length % 8)) with
  | none => .error (.truncated output)
  | some (lengths, ⟨rest, h₁⟩) =>
    let count := lengths % 65536
    if count + lengths / 65536 ≠ 65535 then .error (.invalid .storedLengths)
    else do
      let (output, ⟨rest, h₂⟩) ← copyStored count output rest
      return (output, ⟨rest, by rw [List.length_drop] at h₁; omega⟩)

/-- What is left after two steps is no longer than the bits before them. -/
theorem length_le_trans {bits middle rest : List Bool} (h₁ : middle.length ≤ bits.length)
    (h₂ : rest.length ≤ middle.length) : rest.length ≤ bits.length := Nat.le_trans h₂ h₁

/-- Inflates one block of the given type. -/
def inflateBlock (type : Nat) (output : Array UInt8) (bits : List Bool) :
    Except Stop (Array UInt8 × { rest : List Bool // rest.length ≤ bits.length }) :=
  match type with
  | 0 => inflateStored output bits
  | 1 => inflateTokens fixedLiterals fixedDistances output bits
  | 2 => do
    let (literals, distances, ⟨rest, h₁⟩) ← readCodes output bits
    let (output, ⟨rest, h₂⟩) ← inflateTokens literals distances output rest
    return (output, ⟨rest, length_le_trans h₁ h₂⟩)
  | _ => .error (.invalid .blockType)

/-- Inflates blocks up to the last one. -/
def inflateBlocks (output : Array UInt8) (bits : List Bool) :
    Except Stop (Array UInt8 × List Bool) :=
  match readBits 3 bits with
  | none => .error (.truncated output)
  | some (header, ⟨rest, _⟩) =>
    match inflateBlock (header / 2) output rest with
    | .error stop => .error stop
    | .ok (output, ⟨rest, _⟩) =>
      if header % 2 = 1 then .ok (output, rest) else inflateBlocks output rest
  termination_by bits.length

/-- Inflates a byte string: the bytes it stands for and the whole bytes after it. -/
def inflate (bytes : Bytes) : Except Stop (Bytes × Bytes) := do
  let (output, rest) ← inflateBlocks #[] (bitsOf bytes)
  return (output.toList, bytes.drop (bytes.length - rest.length / 8))

end BlockApp.Deflate
