import BlockApp.Bzip2.Bits

/-!
# Codes of block-sorted data

A code gives every symbol a word of one to twenty bits, by the lengths of the words: shorter words first,
and among words of one length in the order of their symbols. There may be too few or too many words for
a code without gaps, so a word is found by comparing numbers: a number of `n` bits is a word if it is
below the bound of the words of `n` bits and is no longer word's start.
-/

namespace BlockApp.Bzip2

/-- The most bits of a word. -/
def longestWord : Nat := 20

/-- The words of one length: the number after the last one, and by how much a word is greater than its
place among all words. -/
structure Level where
  bound : Nat
  offset : Nat
  deriving Repr, DecidableEq

/-- A code. `levels` are those of the words of `shortest` bits on. -/
structure Code where
  shortest : Nat
  levels : List Level
  symbols : Array Nat
  deriving Repr, DecidableEq

/-- The levels of words of `n` bits on, `free` being the number that the first of them would have, and
`before` the number of shorter words. -/
def levelsFrom (lengths : List Nat) (longest free before : Nat) : (n count : Nat) → List Level
  | _, 0 => []
  | n, count + 1 =>
    let words := lengths.countP (· == n)
    let level : Level := if n ≤ longest then ⟨free + words, free - before⟩ else ⟨0, 0⟩
    level :: levelsFrom lengths longest (2 * (free + words)) (before + words) (n + 1) count

/-- The symbols in the order of their words. -/
def symbolsByWord (lengths : List Nat) : List Nat :=
  (lengths.zipIdx.mergeSort fun a b => a.1 ≤ b.1).map (·.2)

/-- The code of the lengths of words. -/
def Code.ofLengths (lengths : List Nat) : Code :=
  let shortest := lengths.foldl min longestWord
  let longest := lengths.foldl max 1
  { shortest
    levels := levelsFrom lengths longest 0 0 shortest (longestWord + 1 - shortest)
    symbols := (symbolsByWord lengths).toArray }

/-- Goes on with a word that starts with the bits of `value`. -/
def Code.walk (symbols : Array Nat) : (levels : List Level) → (value : Nat) → (bits : List Bool) →
    Reading Nat bits
  | [], _, _ => .error .invalid
  | level :: levels, value, bits =>
    if value < level.bound then
      match symbols[value - level.offset]? with
      | some symbol => .ok (symbol, ⟨bits, Nat.le_refl _⟩)
      | none => .error .invalid
    else
      match bits with
      | [] => .error .truncated
      | bit :: bits => do
        let (symbol, ⟨rest, h⟩) ← walk symbols levels (2 * value + bit.toNat) bits
        return (symbol, ⟨rest, Nat.le_succ_of_le h⟩)

/-- Reads a symbol: at least one bit. -/
def Code.read (code : Code) : (bits : List Bool) →
    Except Stop (Nat × { rest : List Bool // rest.length < bits.length })
  | [] => .error .truncated
  | bit :: bits => do
    let (value, ⟨rest, h₁⟩) ← readAfter bit.toNat (code.shortest - 1) bits
    let (symbol, ⟨rest, h₂⟩) ← walk code.symbols code.levels value rest
    return (symbol, ⟨rest, by simp only [List.length_cons]; omega⟩)

/-! ## Lengths of words -/

/-- Reads the length of a word: steps of one up or down from that of the word before. -/
def readLength (length : Nat) (bits : List Bool) : Reading Nat bits :=
  if 1 ≤ length ∧ length ≤ longestWord then
    match bits with
    | [] | [true] => .error .truncated
    | false :: bits => .ok (length, ⟨bits, Nat.le_succ _⟩)
    | true :: down :: bits => do
      let (length, ⟨rest, h⟩) ← readLength (if down then length - 1 else length + 1) bits
      return (length, ⟨rest, by simp only [List.length_cons]; omega⟩)
  else .error .invalid
  termination_by bits.length

/-- Reads the lengths of `n` words after one of a length. -/
def readLengths : (n length : Nat) → (bits : List Bool) → Reading (List Nat) bits
  | 0, _, bits => .ok ([], ⟨bits, Nat.le_refl _⟩)
  | n + 1, length, bits => do
    let (length, ⟨rest, h₁⟩) ← readLength length bits
    let (lengths, ⟨rest, h₂⟩) ← readLengths n length rest
    return (length :: lengths, ⟨rest, length_le_trans h₁ h₂⟩)

/-- Reads a code with `n` words. -/
def readCode (n : Nat) (bits : List Bool) : Reading Code bits := do
  let (length, ⟨rest, h₁⟩) ← readNumber 5 bits
  let (lengths, ⟨rest, h₂⟩) ← readLengths n length rest
  return (.ofLengths lengths, ⟨rest, length_le_trans h₁ h₂⟩)

end BlockApp.Bzip2
