import BlockApp.Bytes.Basic

/-!
# Range coding

A number in a range is split off bit by bit: each bit cuts the range in two parts by its chance and keeps the
one that the number is in. When the range gets small, a byte of the input is added to both.

Every bit is read with a chance that depends on what it is for and on what came before. A context is such a
situation, and `Context.index` is the place of its chance in one array.

* A number of several bits is read bit by bit, and the bits before belong to the context: they are the
  `node` of a binary tree, whose root is 1.
* `Coder.remaining` gets less with every bit (a part is smaller than the whole, and a byte counts for more
  than any range), so whatever reads at least one bit makes progress.
-/

namespace BlockApp.Lzma

/-! ## Contexts -/

/-- The number of states. -/
def stateCount : Nat := 12

/-- The most positions that are told apart. -/
def positionCount : Nat := 16

/-- Which lengths are read: those of new matches, or of repeated ones. -/
inductive LengthUse where
  | fresh
  | repeated
  deriving Repr, DecidableEq

/-- What a bit is for. -/
inductive Context where
  | isMatch (state position : Nat)
  | isRepeated (state : Nat)
  | isNotLatest (state : Nat)
  | isNotSecond (state : Nat)
  | isNotThird (state : Nat)
  | isLong (state position : Nat)
  | slot (length node : Nat)
  | middleBits (start node : Nat)
  | lowBits (node : Nat)
  | lengthChoice (use : LengthUse)
  | lengthSecondChoice (use : LengthUse)
  | shortLength (use : LengthUse) (position node : Nat)
  | mediumLength (use : LengthUse) (position node : Nat)
  | longLength (use : LengthUse) (node : Nat)
  | literal (kind row node : Nat)
  deriving Repr, DecidableEq

namespace Context

/-- The number of chances for lengths of one use. -/
def lengthSpan : Nat := 2 + 2 * 8 * positionCount + 256

/-- Where the chances for lengths start. -/
def lengthStart (use : LengthUse) : Nat :=
  832 + match use with
    | .fresh => 0
    | .repeated => lengthSpan

/-- Where the chances for literals start. -/
def literalStart : Nat := 832 + 2 * lengthSpan

/-- The number of chances for the literals of one kind. -/
def literalSpan : Nat := 0x300

/-- The place of the chance of a context. -/
def index : Context → Nat
  | .isMatch state position => state * positionCount + position
  | .isRepeated state => 192 + state
  | .isNotLatest state => 204 + state
  | .isNotSecond state => 216 + state
  | .isNotThird state => 228 + state
  | .isLong state position => 240 + state * positionCount + position
  | .slot length node => 432 + length * 64 + node
  | .middleBits start node => 688 + start + node
  | .lowBits node => 816 + node
  | .lengthChoice use => lengthStart use
  | .lengthSecondChoice use => lengthStart use + 1
  | .shortLength use position node => lengthStart use + 2 + position * 8 + node
  | .mediumLength use position node => lengthStart use + 130 + position * 8 + node
  | .longLength use node => lengthStart use + 258 + node
  | .literal kind row node => literalStart + kind * literalSpan + row * 0x100 + node

end Context

/-- The number of chances if literals are of `kinds` kinds. -/
def chanceCount (kinds : Nat) : Nat := Context.literalStart + kinds * Context.literalSpan

/-! ## Coders -/

/-- Why decoding stops. -/
inductive Stop where
  /-- The input ends. -/
  | truncated
  /-- The input cannot have been written. -/
  | corrupt
  deriving Repr, DecidableEq

/-- The input, how far it has been read, the range with the number in it, and the chances of all contexts. -/
structure Coder where
  input : Array UInt8
  place : Nat
  range : UInt32
  code : UInt32
  chances : Array UInt32

namespace Coder

/-- How much there is to decode. -/
def remaining (coder : Coder) : Nat := (coder.input.size - coder.place) * UInt32.size + coder.range.toNat

/-- Decoding that may stop. -/
abbrev Decode := StateT Coder (Except Stop)

/-- The number of bits of a chance. -/
def chanceBits : UInt32 := 11

/-- The chance of one half. -/
def evenChance : UInt32 := 1024

/-- The sum of the chances of both bits. -/
def wholeChance : UInt32 := 2048

/-- How slowly chances adapt: by a 32nd of what is missing to certainty. -/
def adaptBits : UInt32 := 5

/-- The least range that bits are read with. -/
def leastRange : UInt32 := 0x1000000

/-- A coder whose range is not too small. -/
def normalize (coder : Coder) : Except Stop Coder :=
  if coder.range < leastRange then
    match coder.input[coder.place]? with
    | none => .error .truncated
    | some byte =>
      .ok { coder with
        place := coder.place + 1
        range := coder.range <<< 8
        code := (coder.code <<< 8) ||| byte.toUInt32 }
  else .ok coder

/-- Decodes a bit of a context. -/
def bit (context : Context) : Decode Bool := fun coder => do
  let coder ← coder.normalize
  let place := context.index
  let chance := coder.chances.getD place evenChance
  let bound := (coder.range >>> chanceBits) * chance
  if coder.code < bound then
    let chances := coder.chances.setIfInBounds place (chance + ((wholeChance - chance) >>> adaptBits))
    return (false, { coder with range := bound, chances })
  else
    let chances := coder.chances.setIfInBounds place (chance - (chance >>> adaptBits))
    return (true, { coder with range := coder.range - bound, code := coder.code - bound, chances })

/-- Decodes a bit of an even chance. -/
def evenBit : Decode Bool := fun coder => do
  let coder ← coder.normalize
  let range := coder.range >>> 1
  let difference := coder.code - range
  if difference >>> 31 = 1 then return (false, { coder with range })
  else return (true, { coder with range, code := difference })

/-- Decodes `n` bits of even chances, the high one first, after the bits that make `value`. -/
def evenBits : (n value : Nat) → Decode Nat
  | 0, value => return value
  | n + 1, value => do evenBits n (2 * value + (← evenBit).toNat)

/-- Decodes `n` bits, the high one first, down from a node of a tree of contexts. -/
def walk (context : Nat → Context) : (n node : Nat) → Decode Nat
  | 0, node => return node
  | n + 1, node => do walk context n (2 * node + (← bit (context node)).toNat)

/-- Decodes a number of `n` bits, the high one first. -/
def number (context : Nat → Context) (n : Nat) : Decode Nat := do
  return (← walk context n 1) - 1 <<< n

/-- Decodes a number of `n` bits, the low one first, down from a node of a tree of contexts. -/
def lowFirst (context : Nat → Context) : (n node : Nat) → Decode Nat
  | 0, _ => return 0
  | n + 1, node => do
    let low := (← bit (context node)).toNat
    return low + 2 * (← lowFirst context n (2 * node + low))

/-- Whether nothing is left of the number after the last bit. -/
def isFinished : Decode Bool := fun coder => do
  let coder ← coder.normalize
  return (coder.code = 0, coder)

end Coder

end BlockApp.Lzma
