import BlockApp.Cell.Basic
import BlockApp.View.Attribute

/-!
# Attribute cells

The attributes of a view are a comma-separated list of `name=kind:text`. The name ends at the first
`=`; the text may hold `=` and `:` freely.

Termination: `readAttributes` goes on after the comma that follows an attribute, which takes at least
the `:` before its text.
-/

namespace BlockApp.Cell

/-- The kind of attribute that a text names. -/
def attributeKind? (letters : List Char) : Option AttributeKind :=
  match letters with
  | ['d'] => some .dimension
  | ['s'] => some .text
  | ['c'] => some .color
  | ['r'] => some .resource
  | ['n'] => some .number
  | ['b'] => some .boolean
  | ['e'] => some .enum
  | _ => none

/-- The smallest dimension: `-1` and `-2` stand for sizes that the layout works out. -/
def leastDimension : Int := -2

/-- The text of a dimension, checked. `rest` is what is still unread. -/
def checkDimension (text rest : List Char) : Except Fault (List Char) :=
  let invalid := faultAt (.invalid "dimension" (String.ofList text)) rest
  match Text.Numeral.read? text with
  | none => invalid
  | some numeral =>
    match numeral.value with
    | .error cause => .error (.tooManyDigits cause)
    | .ok value => if value < leastDimension then invalid else .ok text

/-- The value of an attribute of this kind, checked. `rest` is what is still unread. -/
def checkAttribute (kind : AttributeKind) (text rest : List Char) : Except Fault (List Char) :=
  match kind with
  | .dimension => checkDimension text rest
  | .text => .ok text
  | .color => checkLiteral .color text rest
  | .resource => checkLiteral .resource text rest
  | .number => checkLiteral .number text rest
  | .boolean => checkLiteral .boolean text rest
  | .enum => checkLiteral .enum text rest

/-- Reads the name of an attribute and the `=` after it. -/
def readName (s : List Char) : Except Fault (List Char × Shorter s) :=
  let name := s.takeWhile (· != '=')
  match h : s.dropWhile (· != '=') with
  | [] =>
    if Text.isIdentifier name then faultAt (.expected '=') []
    else faultAt (.invalid "attribute name" (String.ofList name)) []
  | c :: rest =>
    if Text.isIdentifier name then
      .ok (name, ⟨rest, by
        have := (List.dropWhile_suffix (· != '=') (l := s)).length_le
        rw [h, List.length_cons] at this
        omega⟩)
    else faultAt (.invalid "attribute name" (String.ofList name)) (c :: rest)

/-- Reads an attribute. -/
def readAttribute (s : List Char) : Except Fault (ViewAttribute × Shorter s) := do
  let (name, ⟨afterName, h₁⟩) ← readName s
  let (letters, ⟨afterKind, h₂⟩) ← readKind afterName
  match attributeKind? letters with
  | none => faultAt (.unknownKind "attribute prefix" (String.ofList letters)) afterKind
  | some kind => do
    let (text, ⟨rest, h₃⟩) ← readText afterKind
    let value ← checkAttribute kind text rest
    return (⟨String.ofList name, kind, String.ofList value⟩, ⟨rest, by omega⟩)

/-- Reads attributes separated by commas, at least one, up to the end of the cell. -/
def readAttributeList (s : List Char) : Except Fault (List ViewAttribute) := do
  let (first, ⟨rest, _⟩) ← readAttribute s
  if rest = [] then return [first]
  let ⟨afterComma, _⟩ ← readMark ',' rest
  return first :: (← readAttributeList afterComma)
  termination_by s.length
  decreasing_by omega

/-- The attributes of an attribute cell. -/
def readAttributes (cell : List Char) : Except Fault (List ViewAttribute) :=
  if cell = [] then .ok [] else readAttributeList cell

end BlockApp.Cell
