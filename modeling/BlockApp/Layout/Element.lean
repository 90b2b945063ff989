/-!
# Markup elements

The elements of a layout document: a tag, attributes in the order in which they were first set, and
elements inside. Attribute names belong to one of two namespaces, which the root declares if they are
used anywhere.
-/

namespace BlockApp.Layout

/-- A namespace of attribute names. -/
inductive Namespace where
  | android
  | tools
  deriving Repr, DecidableEq

namespace Namespace

/-- The namespaces in the order of their marks. -/
def all : List Namespace := [.android, .tools]

/-- The mark of a namespace before a name. -/
def mark : Namespace → String
  | .android => "android"
  | .tools => "tools"

/-- The address that stands for a namespace. -/
def address : Namespace → String
  | .android => "http://schemas.android.com/apk/res/android"
  | .tools => "http://schemas.android.com/tools"

end Namespace

/-- The name of an attribute. -/
structure AttributeName where
  space : Namespace
  name : String
  deriving Repr, DecidableEq

/-- An element. -/
inductive Element where
  | mk (tag : String) (attributes : List (AttributeName × String)) (children : List Element)
  deriving Repr

instance : Inhabited Element := ⟨.mk "" [] []⟩

/-- Attributes with one set: in its place if it is there, else at the end. -/
def setAttribute (attributes : List (AttributeName × String)) (name : AttributeName) (value : String) :
    List (AttributeName × String) :=
  match attributes with
  | [] => [(name, value)]
  | (other, old) :: rest =>
    if other = name then (name, value) :: rest else (other, old) :: setAttribute rest name value

/-- Setting an attribute adds at most its name. -/
theorem names_setAttribute (attributes : List (AttributeName × String)) (name : AttributeName)
    (value : String) :
    (setAttribute attributes name value).map (·.1) =
      if name ∈ attributes.map (·.1) then attributes.map (·.1)
      else attributes.map (·.1) ++ [name] := by
  induction attributes with
  | nil => simp [setAttribute]
  | cons entry rest ih =>
    obtain ⟨other, old⟩ := entry
    simp only [setAttribute]
    by_cases h : other = name
    · simp [h]
    · simp only [if_neg h, List.map_cons, ih, List.mem_cons, Ne.symm h, false_or]
      split <;> simp

namespace Element

/-- The tag of an element. -/
def tag : Element → String
  | mk tag _ _ => tag

/-- The attributes of an element. -/
def attributes : Element → List (AttributeName × String)
  | mk _ attributes _ => attributes

/-- The elements in an element. -/
def children : Element → List Element
  | mk _ _ children => children

/-- An element with an attribute set. -/
def set (element : Element) (name : AttributeName) (value : String) : Element :=
  mk element.tag (setAttribute element.attributes name value) element.children

mutual

/-- Whether an element or one inside it has an attribute of a namespace. -/
def uses (space : Namespace) : Element → Bool
  | mk _ attributes children => attributes.any (·.1.space == space) || anyUses space children

/-- Whether elements have an attribute of a namespace, themselves or inside. -/
def anyUses (space : Namespace) : List Element → Bool
  | [] => false
  | element :: elements => element.uses space || anyUses space elements

end

end Element

end BlockApp.Layout
