import BlockApp.Layout.Element
import BlockApp.Text.Blank

/-!
# Markup

How an element is written. Every element inside another stands on a line of its own, indented by its
depth; an element with nothing inside is closed in its own tag.

* `Element.chars` writes an element at a depth. Only the root carries declarations of namespaces.
* The line break before a closing tag is that of the parent. Where the indentation is not blank the
  break after the last child cannot be told from text, and it stays as deep as the child.
-/

namespace BlockApp.Layout

/-- A character of an attribute's value as it is written. -/
def valueChar (c : Char) : List Char :=
  match c with
  | '&' => "&amp;".toList
  | '<' => "&lt;".toList
  | '>' => "&gt;".toList
  | '"' => "&quot;".toList
  | '\r' => "&#13;".toList
  | '\n' => "&#10;".toList
  | '\t' => "&#09;".toList
  | c => [c]

/-- A character between elements as it is written. -/
def textChar (c : Char) : List Char :=
  match c with
  | '&' => "&amp;".toList
  | '<' => "&lt;".toList
  | '>' => "&gt;".toList
  | c => [c]

/-- A name and its value as they stand in a tag, after a blank. -/
def assignment (name value : List Char) : List Char :=
  ' ' :: name ++ ['=', '"'] ++ value.flatMap valueChar ++ ['"']

/-- The name of an attribute with the mark of its namespace. -/
def AttributeName.chars (name : AttributeName) : List Char :=
  name.space.mark.toList ++ ':' :: name.name.toList

/-- An attribute as it stands in a tag. -/
def attributeChars (attr : AttributeName × String) : List Char :=
  assignment attr.1.chars attr.2.toList

/-- The declaration of a namespace. -/
def declarationChars (space : Namespace) : List Char :=
  assignment ("xmlns:".toList ++ space.mark.toList) space.address.toList

/-- A line break and the indentation of a depth, as text. -/
def lineBreak (unit : List Char) (depth : Nat) : List Char :=
  '\n' :: (List.replicate depth unit).flatten

/-- A line break as it is written. -/
def breakChars (unit : List Char) (depth : Nat) : List Char := (lineBreak unit depth).flatMap textChar

/-- The line break after the last element inside one of this depth. -/
def lastBreakChars (unit : List Char) (depth : Nat) : List Char :=
  if Text.allBlank (lineBreak unit (depth + 1)) then breakChars unit depth
  else breakChars unit (depth + 1)

mutual

/-- An element at a depth, `declarations` standing before its attributes. -/
def elementChars (unit : List Char) (depth : Nat) (declarations : List Char) : Element → List Char
  | .mk tag attributes children =>
    '<' :: tag.toList ++ declarations ++ attributes.flatMap attributeChars ++
      match children with
      | [] => " />".toList
      | child :: others =>
        '>' :: breakChars unit (depth + 1) ++ elementChars unit (depth + 1) [] child ++
          othersChars unit depth others ++ lastBreakChars unit depth ++
          "</".toList ++ tag.toList ++ ['>']

/-- The elements after the first one inside an element of this depth, each after a line break. -/
def othersChars (unit : List Char) (depth : Nat) : List Element → List Char
  | [] => []
  | element :: elements =>
    breakChars unit (depth + 1) ++ elementChars unit (depth + 1) [] element ++
      othersChars unit depth elements

end

/-- The declarations of the namespaces that an element uses. -/
def declarationsOf (root : Element) : List Char :=
  (Namespace.all.filter root.uses).flatMap declarationChars

/-- The line before the root. -/
def documentHeader : String := "<?xml version=\"1.0\" encoding=\"utf-8\"?>\n"

/-- A document of a root, indented with `indent`. -/
def document (indent : String) (root : Element) : String :=
  documentHeader ++
    String.ofList (elementChars indent.toList 0 (declarationsOf root) root ++ ['\n'])

end BlockApp.Layout
