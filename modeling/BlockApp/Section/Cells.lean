import BlockApp.Cell.Attributes
import BlockApp.Cell.Parameters
import BlockApp.Section.Framing

/-!
# Cells in a section

The two kinds of cells as fields of a record: a fault in a cell becomes a failure at the record's line,
with the column counted from one.
-/

namespace BlockApp.Section

/-- The failure for a fault in a cell. -/
def cellFailure (name : String) (line : Int) (cell : String) : Cell.Fault → Failure
  | .problem problem left =>
    .sectionText name line (.cell problem (cell.length - left + 1) cell)
  | .tooManyDigits cause => .system (.tooManyDigits cause)

/-- The expressions of a parameter cell in a line of a section. -/
def parameters (name : String) (line : Int) (cell : String) : Except Failure (List Expr) :=
  (Cell.readParameters cell.toList).mapError (cellFailure name line cell)

/-- The attributes of an attribute cell in a line of a section. -/
def attributes (name : String) (line : Int) (cell : String) :
    Except Failure (List ViewAttribute) :=
  (Cell.readAttributes cell.toList).mapError (cellFailure name line cell)

end BlockApp.Section
