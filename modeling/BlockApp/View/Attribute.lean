/-!
# View attributes

A view carries named attributes; the kind of an attribute says what its value may be.
-/

namespace BlockApp

/-- What the value of an attribute is. -/
inductive AttributeKind where
  | dimension
  | text
  | color
  | resource
  | number
  | boolean
  | enum
  deriving Repr, DecidableEq

/-- The name of a kind of attribute. -/
def AttributeKind.name : AttributeKind → String
  | .dimension => "dimension"
  | .text => "text"
  | .color => "color"
  | .resource => "resource"
  | .number => "number"
  | .boolean => "boolean"
  | .enum => "enum"

/-- An attribute of a view. -/
structure ViewAttribute where
  name : String
  kind : AttributeKind
  value : String
  deriving Repr, DecidableEq

end BlockApp
