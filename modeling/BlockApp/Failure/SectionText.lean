import BlockApp.Text.Quoted

/-!
# What can be wrong in a section's text

The problems that reading a section can meet, and their wording.
-/

namespace BlockApp

/-- A problem inside a cell. -/
inductive CellProblem where
  | expected (c : Char)
  | bracketInText
  | danglingEscape
  | callWithoutTag
  | invalid (what text : String)
  | unknownKind (what text : String)
  deriving Repr, DecidableEq

/-- The wording of a problem inside a cell. -/
def CellProblem.message : CellProblem → String
  | .expected c => s!"expected {Text.quoted (String.singleton c)}"
  | .bracketInText => "unescaped '[' inside text"
  | .danglingEscape => "dangling escape"
  | .callWithoutTag => "call without a tag"
  | .invalid what text => s!"invalid {what} {Text.quoted text}"
  | .unknownKind what text => s!"unknown {what} {Text.quoted text}"

/-- A problem in a line of a section. -/
inductive SectionProblem where
  | emptyHeader
  | recordBeforeHeader
  | fieldCount (kind : String) (found expected : Nat)
  | emptyTag
  | invalid (what text : String)
  | unknown (what text : String)
  | duplicate (what text : String)
  | missingKey (key : String)
  | cell (problem : CellProblem) (column : Nat) (cell : String)
  deriving Repr, DecidableEq

/-- The wording of a problem in a line. -/
def SectionProblem.message : SectionProblem → String
  | .emptyHeader => "empty header"
  | .recordBeforeHeader => "record appears before any header"
  | .fieldCount kind found expected => s!"{kind} record has {found} fields, expected {expected}"
  | .emptyTag => "empty block tag"
  | .invalid what text => s!"invalid {what} {Text.quoted text}"
  | .unknown what text => s!"unknown {what} {Text.quoted text}"
  | .duplicate what text => s!"duplicate {what} {Text.quoted text}"
  | .missingKey key => s!"missing project key {Text.quoted key}"
  | .cell problem column text => s!"{problem.message} at column {column} of cell {Text.quoted text}"

end BlockApp
