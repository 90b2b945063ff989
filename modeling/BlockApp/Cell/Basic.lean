import BlockApp.Failure.SectionText
import BlockApp.Logic.Expr
import BlockApp.Section.Color
import BlockApp.Text.Escape
import BlockApp.Text.Blank
import BlockApp.Text.Name

/-!
# Cells

A cell is a field that holds a comma-separated list of items in one line of text. This module reads the
parts that all items share: escaped text, which ends at an unescaped `,` or `]`, and the kind letters
before a `:`. A fault carries how many characters are left, so that the column can be reported.
-/

namespace BlockApp.Cell

/-- Why a cell cannot be read. -/
inductive Fault where
  /-- A problem met with `left` characters of the cell still unread. -/
  | problem (problem : CellProblem) (left : Nat)
  /-- A number in the cell is too long. -/
  | tooManyDigits (cause : Text.TooManyDigits)
  deriving Repr, DecidableEq

/-- The rest of a text after at least one character. -/
abbrev Shorter (s : List Char) := { rest : List Char // rest.length < s.length }

/-- The rest of a text. -/
abbrev NotLonger (s : List Char) := { rest : List Char // rest.length ≤ s.length }

/-- A fault at the point where `rest` is still unread. -/
def faultAt {α : Type} (problem : CellProblem) (rest : List Char) : Except Fault α :=
  .error (.problem problem rest.length)

/-- Reads the character `mark`. -/
def readMark (mark : Char) : (s : List Char) → Except Fault (Shorter s)
  | [] => faultAt (.expected mark) []
  | c :: rest =>
    if c = mark then .ok ⟨rest, Nat.lt_succ_self _⟩ else faultAt (.expected mark) (c :: rest)

/-- Whether a character ends escaped text. -/
def isTerminator (c : Char) : Bool := c == ',' || c == ']'

/-- Reads escaped text up to a terminator or the end. -/
def readText : (s : List Char) → Except Fault (List Char × NotLonger s)
  | [] => .ok ([], ⟨[], Nat.le_refl _⟩)
  | ['\\'] => faultAt .danglingEscape []
  | '\\' :: c :: s => do
    let (text, ⟨rest, h⟩) ← readText s
    return (Text.escapedChar c :: text, ⟨rest, by simp only [List.length_cons]; omega⟩)
  | c :: s =>
    if isTerminator c then .ok ([], ⟨c :: s, Nat.le_refl _⟩)
    else if c = '[' then faultAt .bracketInText (c :: s)
    else do
      let (text, ⟨rest, h⟩) ← readText s
      return (c :: text, ⟨rest, Nat.le_succ_of_le h⟩)

/-- Whether a character ends the letters of a kind. -/
def endsKind (c : Char) : Bool := c == ':' || c == ',' || c == ']' || c == '['

/-- Reads the letters of a kind and the `:` after them. -/
def readKind (s : List Char) : Except Fault (List Char × Shorter s) :=
  match h : s.dropWhile (!endsKind ·) with
  | ':' :: rest =>
    .ok (s.takeWhile (!endsKind ·),
      ⟨rest, by
        have := (List.dropWhile_suffix (!endsKind ·) (l := s)).length_le
        rw [h, List.length_cons] at this
        omega⟩)
  | rest => faultAt (.expected ':') rest

/-! ## Literals -/

/-- The text of a literal of this type, checked; a colour is normalized. `rest` is what is still unread
after the text. -/
def checkLiteral (type : LiteralType) (text rest : List Char) : Except Fault (List Char) :=
  let invalid (what : String) := faultAt (.invalid what (String.ofList text)) rest
  match type with
  | .string => .ok text
  | .number => if Text.isNumber text then .ok text else invalid "number"
  | .boolean =>
    if text = "true".toList ∨ text = "false".toList then .ok text else invalid "boolean"
  | .color =>
    match Color.normalize text with
    | .ok (some digits) => .ok digits
    | .ok none => invalid "color"
    | .error cause => .error (.tooManyDigits cause)
  | .enum => if Text.isFlagList text then .ok text else invalid "enum value"
  | .resource => if Text.isIdentifier text then .ok text else invalid "resource name"

end BlockApp.Cell
