import BlockApp.Lzma.Token

/-!
# Streams in archives

A stream in an archive starts with a version and the length of its properties, five bytes that tell the shape
and how far back copies reach. Then come the tokens.

* Data that ends early stands for the tokens that were whole: `Content.isWhole` tells the difference. A stream
  need not have an end of its own.
* `decodeTokens` ends as every token takes away from what remains of the coder.
-/

namespace BlockApp.Lzma

/-- Why data cannot be decoded. -/
inductive Fault where
  | properties
  | data
  deriving Repr, DecidableEq

/-- What is reported of data that cannot be decoded. -/
def Fault.message : Fault → String
  | .properties => "Invalid or unsupported options"
  | .data => "Corrupt input data"

/-- What data stands for, and whether it has an end of its own. -/
structure Content where
  bytes : Bytes
  isWhole : Bool
  deriving Repr, DecidableEq

/-! ## Properties -/

/-- What the properties of a stream tell. -/
structure Properties where
  shape : Shape
  /-- How far back copies reach at most. -/
  reach : Nat
  deriving Repr, DecidableEq

namespace Properties

/-- The number of bytes of properties. -/
def size : Nat := 5

/-- The most bits of the position of any token. -/
def positionBound : Nat := 4

/-- The most bits that literals depend on. -/
def literalBound : Nat := 4

/-- The least number of bytes that are kept for copies. -/
def leastReach : Nat := 4096

/-- Reads properties. -/
def ofBytes : Bytes → Option Properties
  | byte :: reach =>
    let shape : Shape := ⟨byte.toNat % 9, byte.toNat / 9 % 5, byte.toNat / 45⟩
    if reach.length = 4 ∧ shape.positionBits ≤ positionBound ∧
        shape.literalBits + shape.literalPositionBits ≤ literalBound then
      some ⟨shape, (max leastReach (Bytes.littleEndian reach) + 15) / 16 * 16⟩
    else none
  | [] => none

end Properties

/-! ## Tokens -/

/-- Appends `count` bytes from a distance back, byte by byte: a copy may overlap itself. -/
def copyBack (distance : Nat) : (count : Nat) → (output : Array UInt8) → Array UInt8
  | 0, output => output
  | count + 1, output =>
    copyBack distance count (output.push (output.getD (output.size - (distance + 1)) 0))

/-- Decodes tokens up to the end. -/
def decodeTokens (p : Properties) (m : Memory) (output : Array UInt8) (coder : Coder) :
    Except Fault Content :=
  match (token p.shape m output).run coder with
  | .error .truncated => .ok ⟨output.toList, false⟩
  | .error .corrupt => .error .data
  | .ok ((.finish, _), _) => .ok ⟨output.toList, true⟩
  | .ok ((.literal byte, m), next) =>
    if _h : next.remaining < coder.remaining then decodeTokens p m (output.push byte) next
    else .error .data
  | .ok ((.copy distance length, m), next) =>
    if min output.size p.reach ≤ distance then .error .data
    else if _h : next.remaining < coder.remaining then
      decodeTokens p m (copyBack distance length output) next
    else .error .data
  termination_by coder.remaining

/-- The coder at the start of data: a byte that is zero, and the first four bytes of the number. `none` if
there are fewer. -/
def startCoder (p : Properties) : Bytes → Except Fault (Option Coder)
  | [] => .ok none
  | first :: data =>
    if first ≠ 0 then .error .data
    else if data.length < 4 then .ok none
    else
      let kinds := 1 <<< (p.shape.literalBits + p.shape.literalPositionBits)
      .ok <| some
        { input := (data.drop 4).toArray
          place := 0
          range := 0xFFFFFFFF
          code := UInt32.ofNat (Bytes.bigEndian (data.take 4))
          chances := Array.replicate (chanceCount kinds) Coder.evenChance }

/-- Decodes data with properties. -/
def decode (p : Properties) (data : Bytes) : Except Fault Content := do
  match ← startCoder p data with
  | none => return ⟨[], false⟩
  | some coder => decodeTokens p .empty #[] coder

/-- The number of bytes before the properties. -/
def headerSize : Nat := 4

/-- What a byte string stands for. -/
def decompress (bytes : Bytes) : Except Fault Content :=
  let size := (bytes.slice 2 2).littleEndian
  if bytes.length ≤ headerSize + size then .ok ⟨[], false⟩
  else
    match Properties.ofBytes (bytes.slice headerSize size) with
    | none => .error .properties
    | some p => decode p (bytes.drop (headerSize + size))

end BlockApp.Lzma
