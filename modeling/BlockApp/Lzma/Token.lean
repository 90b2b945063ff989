import BlockApp.Lzma.Coder

/-!
# Tokens

Data is a sequence of literals and of copies of what was before. A copy repeats one of the latest four
distances or brings a new one; the greatest distance of all stands for the end.
-/

namespace BlockApp.Lzma

open Coder

/-- How much of what came before literals depend on, and of the position. -/
structure Shape where
  /-- The number of high bits of the byte before a literal. -/
  literalBits : Nat
  /-- The number of low bits of the position of a literal. -/
  literalPositionBits : Nat
  /-- The number of low bits of the position of any token. -/
  positionBits : Nat
  deriving Repr, DecidableEq

/-- What is remembered of the tokens before: a state that stands for the latest kinds of them, and the
latest distances, each less one. -/
structure Memory where
  state : Nat
  latest : Nat
  second : Nat
  third : Nat
  fourth : Nat
  deriving Repr, DecidableEq

namespace Memory

/-- What is remembered at the start. -/
def empty : Memory := ⟨0, 0, 0, 0, 0⟩

/-- The first state after a copy. -/
def afterCopy : Nat := 7

/-- What is remembered after a literal. -/
def addLiteral (m : Memory) : Memory :=
  { m with state := if m.state < 4 then 0 else if m.state < 10 then m.state - 3 else m.state - 6 }

/-- What is remembered with one of two states, by whether a literal was just before. -/
def goTo (m : Memory) (fromLiteral fromCopy : Nat) : Memory :=
  { m with state := if m.state < afterCopy then fromLiteral else fromCopy }

/-- What is remembered after a copy from a new distance. -/
def addDistance (m : Memory) (distance : Nat) : Memory :=
  { m.goTo 7 10 with latest := distance, second := m.latest, third := m.second, fourth := m.third }

end Memory

/-- A token. -/
inductive Token where
  | literal (byte : UInt8)
  /-- A copy of `length` bytes that start `distance + 1` bytes back. -/
  | copy (distance length : Nat)
  | finish
  deriving Repr, DecidableEq

/-! ## Literals -/

/-- Decodes the rest of a literal after a copy. As long as its bits are those of the byte that the copy would
have gone on with, that byte belongs to the context. -/
def matchedLiteral (kind : Nat) : (n expected node : Nat) → Decode Nat
  | 0, _, node => return node
  | n + 1, expected, node => do
    let expectedBit := expected.testBit n
    let found ← bit (.literal kind (1 + expectedBit.toNat) node)
    let node := 2 * node + found.toNat
    if found = expectedBit then matchedLiteral kind n expected node
    else walk (.literal kind 0) n node

/-- Decodes a literal. -/
def literal (shape : Shape) (m : Memory) (output : Array UInt8) : Decode UInt8 := do
  let position := output.size % (1 <<< shape.literalPositionBits)
  let before := (output.back?.getD 0).toNat >>> (8 - shape.literalBits)
  let kind := (position <<< shape.literalBits) + before
  let node ←
    if m.state < Memory.afterCopy then walk (.literal kind 0) 8 1
    else matchedLiteral kind 8 (output.getD (output.size - (m.latest + 1)) 0).toNat 1
  return UInt8.ofNat node

/-! ## Copies -/

/-- The least length of a copy that is written with its length. -/
def leastLength : Nat := 2

/-- Decodes a length. -/
def length (use : LengthUse) (position : Nat) : Decode Nat := do
  if !(← bit (.lengthChoice use)) then
    return leastLength + (← number (.shortLength use position) 3)
  else if !(← bit (.lengthSecondChoice use)) then
    return leastLength + 8 + (← number (.mediumLength use position) 3)
  else return leastLength + 16 + (← number (.longLength use) 8)

/-- The number of low bits of a great distance that have contexts. -/
def lowDistanceBits : Nat := 4

/-- Decodes a new distance, less one, of a copy of a length. -/
def distance (length : Nat) : Decode Nat := do
  let slot ← number (.slot (min (length - leastLength) 3)) 6
  if slot < 4 then return slot
  else
    let bits := slot / 2 - 1
    let start := (2 + slot % 2) <<< bits
    if slot < 14 then return start + (← lowFirst (.middleBits (start - slot)) bits 1)
    else
      let high ← evenBits (bits - lowDistanceBits) 0
      return start + (high <<< lowDistanceBits) + (← lowFirst .lowBits lowDistanceBits 1)

/-- The distance that stands for the end, less one. -/
def endDistance : Nat := 0xFFFFFFFF

/-- Decodes which of the latest distances a copy repeats, which then is the latest. -/
def repeatedDistance (m : Memory) : Decode Memory := do
  if !(← bit (.isNotSecond m.state)) then
    return { m with latest := m.second, second := m.latest }
  else if !(← bit (.isNotThird m.state)) then
    return { m with latest := m.third, second := m.latest, third := m.second }
  else
    return { m with latest := m.fourth, second := m.latest, third := m.second, fourth := m.third }

/-- Decodes a copy from a repeated distance. -/
def repeatedCopy (m : Memory) (position : Nat) : Decode (Token × Memory) := do
  let found ←
    if !(← bit (.isNotLatest m.state)) then
      if !(← bit (.isLong m.state position)) then
        return (.copy m.latest 1, m.goTo 9 11)
      else pure m
    else repeatedDistance m
  return (.copy found.latest (← length .repeated position), found.goTo 8 11)

/-- Decodes a copy from a new distance, or the end. -/
def freshCopy (m : Memory) (position : Nat) : Decode (Token × Memory) := do
  let length ← length .fresh position
  let distance ← distance length
  if distance = endDistance then
    if ← isFinished then return (.finish, m) else throw .corrupt
  else return (.copy distance length, m.addDistance distance)

/-- Decodes a token. -/
def token (shape : Shape) (m : Memory) (output : Array UInt8) : Decode (Token × Memory) := do
  let position := output.size % (1 <<< shape.positionBits)
  if !(← bit (.isMatch m.state position)) then
    return (.literal (← literal shape m output), m.addLiteral)
  else if !(← bit (.isRepeated m.state)) then freshCopy m position
  else if output.isEmpty then throw .corrupt
  else repeatedCopy m position

end BlockApp.Lzma
