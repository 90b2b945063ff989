import BlockApp.Cell.Basic

/-!
# Parameter cells

The parameters of a block are a comma-separated list of items. An item is a kind letter, `:` and text,
or a call `[tag,item,…]`, so a cell reads as a list of expression trees.

Termination: `readItem` and `readArguments` call each other on what is left of the cell; an item takes at
least one character, which the type of its rest says.
-/

namespace BlockApp.Cell

/-- What an item of a kind is. -/
inductive ItemKind where
  | literal (type : LiteralType)
  | reference (kind : ReferenceKind)
  deriving Repr, DecidableEq

/-- The kind that a text names. -/
def ItemKind.ofLetters? (letters : List Char) : Option ItemKind :=
  match letters with
  | ['s'] => some (.literal .string)
  | ['n'] => some (.literal .number)
  | ['b'] => some (.literal .boolean)
  | ['c'] => some (.literal .color)
  | ['e'] => some (.literal .enum)
  | ['r'] => some (.literal .resource)
  | ['v'] => some (.reference .variable)
  | ['w'] => some (.reference .view)
  | ['a'] => some (.reference .argument)
  | _ => none

/-- The expression that a kind and a text make. `rest` is what is still unread. -/
def makeItem (letters text rest : List Char) : Except Fault Expr :=
  match ItemKind.ofLetters? letters with
  | some (.literal type) => do
    return .literal type (String.ofList (← checkLiteral type text rest))
  | some (.reference kind) =>
    if Text.isIdentifier text then .ok (.reference kind (String.ofList text))
    else faultAt (.invalid "reference name" (String.ofList text)) rest
  | none => faultAt (.unknownKind "cell prefix" (String.ofList letters)) rest

/-- Reads a kind and a text. -/
def readPlain (s : List Char) : Except Fault (Expr × Shorter s) := do
  let (letters, ⟨afterKind, h₁⟩) ← readKind s
  let (text, ⟨rest, h₂⟩) ← readText afterKind
  let item ← makeItem letters text rest
  return (item, ⟨rest, by omega⟩)

/-- Reads the tag of a call, after its bracket. -/
def readTag (s : List Char) : Except Fault (List Char × NotLonger s) := do
  let (text, rest) ← readText s
  let tag := Text.trim text
  if tag = [] then faultAt .callWithoutTag rest.1 else return (tag, rest)

mutual

/-- Reads an item. -/
def readItem (s : List Char) : Except Fault (Expr × Shorter s) :=
  match s with
  | '[' :: afterBracket => do
    let (tag, ⟨afterTag, h₁⟩) ← readTag afterBracket
    let (args, ⟨afterArguments, h₂⟩) ← readArguments afterTag
    let ⟨rest, h₃⟩ ← readMark ']' afterArguments
    return (.call (String.ofList tag) args,
      ⟨rest, Nat.lt_succ_of_lt (Nat.lt_of_lt_of_le h₃ (Nat.le_trans h₂ h₁))⟩)
  | s => readPlain s
  termination_by s.length
  decreasing_by simp only [List.length_cons]; omega

/-- Reads the arguments of a call, each after a comma. -/
def readArguments (s : List Char) : Except Fault (List Expr × NotLonger s) :=
  match s with
  | ',' :: afterComma => do
    let (arg, ⟨afterItem, h₁⟩) ← readItem afterComma
    let (args, ⟨rest, h₂⟩) ← readArguments afterItem
    return (arg :: args, ⟨rest, by simp only [List.length_cons]; omega⟩)
  | s => .ok ([], ⟨s, Nat.le_refl _⟩)
  termination_by s.length
  decreasing_by all_goals simp only [List.length_cons]; omega

end

/-- Reads items separated by commas, at least one, up to the end of the cell. -/
def readItems (s : List Char) : Except Fault (List Expr) := do
  let (item, ⟨rest, _⟩) ← readItem s
  if rest = [] then return [item]
  let ⟨afterComma, _⟩ ← readMark ',' rest
  return item :: (← readItems afterComma)
  termination_by s.length
  decreasing_by omega

/-- The expressions of a parameter cell. -/
def readParameters (cell : List Char) : Except Fault (List Expr) :=
  if cell = [] then .ok [] else readItems cell

end BlockApp.Cell
