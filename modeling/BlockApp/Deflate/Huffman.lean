/-!
# Canonical prefix-free codes

A code is given by the length of each symbol's word, zero for a symbol without one. The words are
those of RFC 1951: shorter words first, and among words of one length in the order of their symbols.

A code is used as a binary tree, so reading a symbol is a walk down the tree: structural recursion on
the tree, with one bit per step. A word that no symbol has ends at a missing node.
-/

namespace BlockApp.Deflate

/-- The longest word of a code. -/
def maxWordLength : Nat := 15

/-- The words of a code as paths from the root. -/
inductive CodeTree where
  | missing
  | leaf (symbol : Nat)
  | node (zero one : CodeTree)
  deriving Repr

namespace CodeTree

/-- Adds a word for a symbol. -/
def insert : CodeTree → (word : List Bool) → (symbol : Nat) → CodeTree
  | _, [], symbol => .leaf symbol
  | .node zero one, false :: word, symbol => .node (zero.insert word symbol) one
  | .node zero one, true :: word, symbol => .node zero (one.insert word symbol)
  | _, false :: word, symbol => .node (missing.insert word symbol) .missing
  | _, true :: word, symbol => .node .missing (missing.insert word symbol)

/-- What a walk down the tree finds. -/
inductive Found (bits : List Bool) where
  /-- A symbol, and the bits after its word. -/
  | symbol (symbol : Nat) (rest : List Bool) (shorter : rest.length ≤ bits.length)
  /-- No symbol has a word that starts like the bits. -/
  | noWord
  /-- The bits end inside a word. -/
  | endOfBits

/-- What is left is no longer than the bits with one more before them. -/
theorem Found.length_le_cons {bits rest : List Bool} (bit : Bool) (h : rest.length ≤ bits.length) :
    rest.length ≤ (bit :: bits).length := Nat.le_succ_of_le h

/-- What is found after one more bit. -/
def Found.afterBit {bits : List Bool} (bit : Bool) : Found bits → Found (bit :: bits)
  | .symbol s rest h => .symbol s rest (Found.length_le_cons bit h)
  | .noWord => .noWord
  | .endOfBits => .endOfBits

/-- Walks down the tree along the bits. -/
def walk : CodeTree → (bits : List Bool) → Found bits
  | .missing, _ => .noWord
  | .leaf s, bits => .symbol s bits (Nat.le_refl _)
  | .node _ _, [] => .endOfBits
  | .node zero _, false :: bits => (zero.walk bits).afterBit false
  | .node _ one, true :: bits => (one.walk bits).afterBit true

end CodeTree

/-- The number of words of a length. -/
def wordCount (lengths : List Nat) (n : Nat) : Nat := lengths.countP (· == n)

/-- How many words of length `n` the shorter words leave free, `none` if they leave less than nothing. -/
def freeWords (lengths : List Nat) : Nat → Option Nat
  | 0 => some 1
  | n + 1 => do
    let free ← freeWords lengths n
    let used := wordCount lengths (n + 1)
    if used ≤ 2 * free then some (2 * free - used) else none

/-- The first word of length `n`, as a number. -/
def firstWord (lengths : List Nat) : Nat → Nat
  | 0 => 0
  | n + 1 => 2 * (firstWord lengths n + if n = 0 then 0 else wordCount lengths n)

/-- The last `n` bits of a number, most significant first. -/
def wordBits : (n value : Nat) → List Bool
  | 0, _ => []
  | n + 1, value => wordBits n (value / 2) ++ [value % 2 == 1]

/-- The tree of a code. An empty code has a root without words. -/
def codeTree (lengths : List Nat) : CodeTree :=
  let add := fun (tree, symbol, next) length =>
    if length = 0 then (tree, symbol + 1, next)
    else
      let value := next.getD length 0
      (CodeTree.insert tree (wordBits length value) symbol, symbol + 1, next.set length (value + 1))
  let start : List Nat := (List.range (maxWordLength + 1)).map (firstWord lengths)
  (lengths.foldl add (CodeTree.node .missing .missing, 0, start)).1

/-- Whether a code has a word for every sequence of bits and no two words for one. -/
def isComplete (lengths : List Nat) : Bool := freeWords lengths maxWordLength == some 0

/-- Whether no code word is longer than one bit. -/
def isTrivial (lengths : List Nat) : Bool := lengths.all (· ≤ 1)

/-- Whether a code may be used for data: a complete code, or one without words longer than a bit. -/
def isUsable (lengths : List Nat) : Bool :=
  isComplete lengths || (isTrivial lengths && (freeWords lengths maxWordLength).isSome)

end BlockApp.Deflate
