import BlockApp.Failure.Basic
import BlockApp.Text.Blank
import BlockApp.Text.Escape
import BlockApp.Text.Name

/-!
# Headers and records

The text of a section is a list of groups: a header line `@header`, and the record lines up to the next
header, each a list of fields between TABs. Lines end at a line feed, with or without carriage returns
before it, and blank lines are skipped.

* `groupLines` is one recursion over the lines: the records before the first header, and the groups.
* `splitGroups` starts it with no header met, so that a record there is refused.
-/

namespace BlockApp

/-- A record line: its number and its fields, still escaped. -/
structure Record where
  line : Nat
  fields : List String
  deriving Repr, DecidableEq

/-- A header line and the records that follow it. -/
structure Group where
  header : String
  line : Nat
  records : List Record
  deriving Repr, DecidableEq

namespace Section

/-- A failure at a line of the section `name`. -/
def failAt {α : Type} (name : String) (line : Int) (problem : SectionProblem) : Except Failure α :=
  .error (.sectionText name line problem)

/-- The lines of a text without the carriage returns at their ends. -/
def linesOf (text : String) : List (List Char) :=
  (Text.splitAt '\n' text.toList).map (Text.dropEndWhile (· == '\r'))

/-- The records before the first header, and the groups, of lines numbered from `number` on.
`opened` tells whether a header came before. -/
def groupLines (name : String) : (number : Nat) → (opened : Bool) → List (List Char) →
    Except Failure (List Record × List Group)
  | _, _, [] => .ok ([], [])
  | number, opened, line :: lines =>
    if Text.allBlank line then groupLines name (number + 1) opened lines
    else if line.head? = some '@' then
      let header := Text.trim line.tail
      if header = [] then failAt name number .emptyHeader
      else do
        let (records, groups) ← groupLines name (number + 1) true lines
        return ([], ⟨String.ofList header, number, records⟩ :: groups)
    else if opened then do
      let (records, groups) ← groupLines name (number + 1) true lines
      return (⟨number, (Text.splitAt '\t' line).map String.ofList⟩ :: records, groups)
    else failAt name number .recordBeforeHeader

/-- The groups of a section's text. -/
def splitGroups (name text : String) : Except Failure (List Group) := do
  let (_, groups) ← groupLines name 1 false (linesOf text)
  return groups

/-! ## Fields -/

/-- A failure because a record of this kind has a wrong number of fields. -/
def wrongCount {α : Type} (name kind : String) (record : Record) (expected : Nat) :
    Except Failure α :=
  failAt name record.line (.fieldCount kind record.fields.length expected)

/-- The identifier that an escaped field holds. -/
def identifierField (name what : String) (line : Nat) (field : String) : Except Failure String :=
  let value := Text.unescape field
  if Text.isIdentifier value.toList then .ok value else failAt name line (.invalid what value)

/-- The choice that an escaped field names. -/
def choiceField {α : Type} (read : String → Option α) (name what : String) (line : Nat)
    (field : String) : Except Failure α :=
  match read (Text.unescape field) with
  | some choice => .ok choice
  | none => failAt name line (.invalid what field)

end Section

end BlockApp
