import BlockApp.Text.Numeral
import BlockApp.Text.Split

/-!
# Names

Identifiers are ASCII letters, digits and underscores, not starting with a digit. Names are such
identifiers, alone or joined by a separator, and may be followed by one line feed as numerals may.
-/

namespace BlockApp.Text

/-- A character that may start an identifier. -/
def isNameStart (c : Char) : Bool := c.isAlpha || c == '_'

/-- A character that may continue an identifier. -/
def isNamePart (c : Char) : Bool := c.isAlphanum || c == '_'

/-- Whether a text is an identifier, with nothing after it. -/
def isBareIdentifier : List Char → Bool
  | [] => false
  | c :: rest => isNameStart c && rest.all isNamePart

/-- Whether a text is an identifier. -/
def isIdentifier (s : List Char) : Bool := isBareIdentifier (withoutFinalNewline s)

/-- Whether a text is one or more identifiers joined by `|`. -/
def isFlagList (s : List Char) : Bool :=
  (splitAt '|' (withoutFinalNewline s)).all isBareIdentifier

/-- Whether a text is two or more identifiers joined by `.`. -/
def isPackageName (s : List Char) : Bool :=
  let parts := splitAt '.' (withoutFinalNewline s)
  parts.length ≥ 2 && parts.all isBareIdentifier

end BlockApp.Text
