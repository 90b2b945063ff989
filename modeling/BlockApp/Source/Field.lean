import BlockApp.Failure.Basic
import BlockApp.Logic.Declaration
import BlockApp.Source.Line
import BlockApp.Source.Literal
import BlockApp.View.Component
import BlockApp.View.Index

/-!
# Fields

What a screen declares as fields of its class: variables and lists with their first values, components,
and the views that some logic refers to.
-/

namespace BlockApp

namespace ValueType

/-- The type of a variable in code. -/
def javaType : ValueType → String
  | .boolean => "boolean"
  | .number => "double"
  | .string => "String"
  | .map => "HashMap<String, Object>"

/-- The first value of a variable in code. -/
def initial : ValueType → String
  | .boolean => "false"
  | .number => "0"
  | .string => "\"\""
  | .map => "new HashMap<>()"

/-- The imports that the type of a variable needs. -/
def imports : ValueType → List String
  | .map => ["java.util.HashMap"]
  | .boolean | .number | .string => []

end ValueType

namespace ElementType

/-- The type of a list in code. -/
def listType : ElementType → String
  | .number => "ArrayList<Double>"
  | .string => "ArrayList<String>"
  | .map => "ArrayList<HashMap<String, Object>>"

/-- The imports that the type of a list needs. -/
def listImports : ElementType → List String
  | .map => ["java.util.ArrayList", "java.util.HashMap"]
  | .number | .string => ["java.util.ArrayList"]

end ElementType

namespace VariableShape

/-- The type of a variable or list in code. -/
def javaType : VariableShape → String
  | .single type => type.javaType
  | .list element => element.listType

/-- The first value of a variable or list in code. -/
def initial : VariableShape → String
  | .single type => type.initial
  | .list _ => "new ArrayList<>()"

/-- The imports that the type of a variable or list needs. -/
def imports : VariableShape → List String
  | .single type => type.imports
  | .list element => element.listImports

end VariableShape

/-- A known type of components. -/
inductive ComponentClass where
  | intent
  | sharedPreferences
  | calendar
  | vibrator
  | timer
  deriving Repr, DecidableEq

namespace ComponentClass

/-- The known types. -/
def all : List ComponentClass := [.intent, .sharedPreferences, .calendar, .vibrator, .timer]

/-- The name of a type, in sections and in code. -/
def name : ComponentClass → String
  | .intent => "Intent"
  | .sharedPreferences => "SharedPreferences"
  | .calendar => "Calendar"
  | .vibrator => "Vibrator"
  | .timer => "Timer"

/-- The type of a name. -/
def ofName? (name : String) : Option ComponentClass := all.find? (·.name == name)

theorem name_of_ofName? {s : String} {type : ComponentClass} (h : ofName? s = some type) :
    type.name = s := by
  simpa using List.find?_some h

/-- The first value of a component, if it has one before it is set up. -/
def initial? : ComponentClass → Option String
  | .intent => some "new Intent()"
  | .calendar => some "Calendar.getInstance()"
  | .timer => some "new Timer()"
  | .sharedPreferences | .vibrator => none

/-- The statement that sets a component up, if it needs one. -/
def setup? (name extra : String) : ComponentClass → Option String
  | .sharedPreferences =>
    some s!"{name} = getSharedPreferences({Source.literal extra}, Context.MODE_PRIVATE);"
  | .vibrator => some s!"{name} = (Vibrator) getSystemService(Context.VIBRATOR_SERVICE);"
  | .intent | .calendar | .timer => none

/-- The imports that a type needs. -/
def imports : ComponentClass → List String
  | .intent => ["android.content.Intent"]
  | .sharedPreferences => ["android.content.SharedPreferences", "android.content.Context"]
  | .calendar => ["java.util.Calendar"]
  | .vibrator => ["android.os.Vibrator", "android.content.Context"]
  | .timer => ["java.util.Timer"]

end ComponentClass

namespace Source

/-- A field with its first value, if there is one. -/
def fieldText (type name : String) : Option String → String
  | some value => s!"private {type} {name} = {value};"
  | none => s!"private {type} {name};"

/-- The field of a variable or list. -/
def variableField (d : VariableDeclaration) : Line :=
  ⟨1, fieldText d.shape.javaType d.name (some d.shape.initial), d.shape.imports⟩

/-- The field of a component. -/
def componentField (screen : String) (d : ComponentDeclaration) : Except Failure Line :=
  match ComponentClass.ofName? d.type with
  | none => .error (.component d.type screen (.declaration d.name))
  | some type => .ok ⟨1, fieldText type.name d.name type.initial?, type.imports⟩

/-- The field of a view. -/
def viewField (screen : String) (entry : ViewEntry) : Except Failure Line :=
  match Component.ofName? entry.type with
  | none => .error (.component entry.type screen .fieldType)
  | some type => .ok ⟨1, fieldText entry.type entry.id none, [type.qualifiedName]⟩

/-- The fields of a class. -/
def fields (screen : String) (declarations : Declarations) (views : ViewIndex) :
    Except Failure (List Line) := do
  let components ← declarations.components.mapM (componentField screen)
  let referenced ← views.referenced.mapM (viewField screen)
  return declarations.vars.map variableField ++ components ++ referenced

/-- The statement that sets a component up. -/
def setupLine? (d : ComponentDeclaration) : Option Line := do
  let type ← ComponentClass.ofName? d.type
  let text ← type.setup? d.name d.extra
  return .plain 2 text

end Source

end BlockApp
