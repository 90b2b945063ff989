/-!
# Declarations

What a screen declares outside of its handlers: variables and lists, components, and *more blocks*, the
functions that the author of the project defines.
-/

namespace BlockApp

/-- The type of a variable. -/
inductive ValueType where
  | boolean
  | number
  | string
  | map
  deriving Repr, DecidableEq

namespace ValueType

/-- The name of a type. -/
def name : ValueType → String
  | .boolean => "boolean"
  | .number => "number"
  | .string => "string"
  | .map => "map"

/-- The type of a name. -/
def ofName? (name : String) : Option ValueType :=
  [.boolean, .number, .string, .map].find? fun type : ValueType => type.name == name

theorem ofName?_name (type : ValueType) : ofName? type.name = some type := by
  cases type <;> decide

theorem name_of_ofName? {s : String} {type : ValueType} (h : ofName? s = some type) :
    type.name = s := by
  simpa using List.find?_some h

end ValueType

/-- The type of the elements of a list. -/
inductive ElementType where
  | number
  | string
  | map
  deriving Repr, DecidableEq

/-- The type of one element. -/
def ElementType.value : ElementType → ValueType
  | .number => .number
  | .string => .string
  | .map => .map

/-- The lists that can be made of a type of values: there are none of booleans. -/
def ElementType.ofValue? : ValueType → Option ElementType
  | .boolean => none
  | .number => some .number
  | .string => some .string
  | .map => some .map

/-- What a variable holds. -/
inductive VariableShape where
  | single (type : ValueType)
  | list (element : ElementType)
  deriving Repr, DecidableEq

/-- A declared variable or list. -/
structure VariableDeclaration where
  shape : VariableShape
  name : String
  deriving Repr, DecidableEq

/-- The type of a variable, or of the elements of a list. -/
def VariableDeclaration.type (d : VariableDeclaration) : ValueType :=
  match d.shape with
  | .single type => type
  | .list element => element.value

/-- Whether a declaration is of a list. -/
def VariableDeclaration.isList (d : VariableDeclaration) : Bool :=
  match d.shape with
  | .single _ => false
  | .list _ => true

/-- A declared component that is not a view, with a text for its setup. -/
structure ComponentDeclaration where
  type : String
  name : String
  extra : String
  deriving Repr, DecidableEq

/-- The type of a parameter of a more block. -/
inductive ParameterType where
  | text
  | number
  | truth
  | map
  deriving Repr, DecidableEq

namespace ParameterType

/-- The letter that a type is written with. -/
def letter : ParameterType → Char
  | .text => 's'
  | .number => 'd'
  | .truth => 'b'
  | .map => 'm'

/-- The type of a letter. -/
def ofLetter? (c : Char) : Option ParameterType :=
  [.text, .number, .truth, .map].find? fun type : ParameterType => type.letter == c

theorem ofLetter?_letter (type : ParameterType) : ofLetter? type.letter = some type := by
  cases type <;> decide

end ParameterType

/-- A parameter of a more block. -/
structure MoreBlockParameter where
  type : ParameterType
  name : String
  deriving Repr, DecidableEq

/-- A declared more block. -/
structure MoreBlock where
  name : String
  parameters : List MoreBlockParameter
  deriving Repr, DecidableEq

/-- All that a screen declares. -/
structure Declarations where
  vars : List VariableDeclaration
  components : List ComponentDeclaration
  moreBlocks : List MoreBlock
  deriving Repr, DecidableEq

namespace Declarations

/-- No declarations. -/
def none : Declarations := ⟨[], [], []⟩

/-- The first more block of a name. -/
def moreBlock? (d : Declarations) (name : String) : Option MoreBlock :=
  d.moreBlocks.find? (·.name == name)

/-- The names of the variables, lists and components. -/
def names (d : Declarations) : List String :=
  d.vars.map (·.name) ++ d.components.map (·.name)

end Declarations

end BlockApp
