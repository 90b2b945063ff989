import BlockApp.Layout.Attribute
import BlockApp.Layout.Markup
import BlockApp.Project.Basic
import BlockApp.View.Tree

/-!
# Layout documents

The layout of a screen: an element for every view, in the same tree. An element has the identifier of
its view first and then the attributes of the view in their order; a linear layout always says which
way it runs.

* `elementOf` is a recursion over the tree. It meets the first fault in the order of the document:
  a view's type, then its attributes, then the views in it.
* `Layout.ofTree` also names the class of a screen that is an activity, on the root.
-/

namespace BlockApp.Layout

/-- The name of the identifier's attribute. -/
def idName : AttributeName := ⟨.android, "id"⟩

/-- The name of the orientation's attribute. -/
def orientationName : AttributeName := ⟨.android, "orientation"⟩

/-- The name of the attribute that names a screen's class. -/
def contextName : AttributeName := ⟨.tools, "context"⟩

/-- What an attribute of a view sets, `none` if it is dropped: a weight counts only inside of a linear
layout. -/
def attributeOf (assets : Assets) (screen : String) (inside : Option Component) (record : ViewRecord)
    (attr : ViewAttribute) : Except Failure (Option (AttributeName × String)) :=
  let tag := s!"{record.type}.{attr.name}"
  match ruleFor? attr with
  | none => .error (.component tag screen (.attribute record.id attr.kind.name))
  | some rule =>
    if attr.name = "orientation" ∧ record.type ≠ Component.linearLayout.name then
      .error (.component tag screen (.orientation record.id))
    else if attr.name = "layout_weight" ∧ inside ≠ some .linearLayout then .ok none
    else do
      let value ← (valueText assets rule.form attr.value).mapError (.viewTree screen record.id)
      return some (rule.target, value)

/-- Sets attributes one after the other. -/
def setAll (attributes settings : List (AttributeName × String)) : List (AttributeName × String) :=
  settings.foldl (fun attributes (name, value) => setAttribute attributes name value) attributes

/-- The attributes of a view's element. -/
def attributesOf (assets : Assets) (screen : String) (inside : Option Component) (type : Component)
    (record : ViewRecord) : Except Failure (List (AttributeName × String)) := do
  let settings ← record.attributes.mapM (attributeOf assets screen inside record)
  let orientation :=
    if type = .linearLayout ∧ record.attribute? "orientation" = none then
      [(orientationName, "vertical")]
    else []
  return setAll [(idName, "@+id/" ++ record.id)] (settings.filterMap id ++ orientation)

mutual

/-- The element of a view that stands inside of one of a type, or of the root. -/
def elementOf (assets : Assets) (screen : String) (inside : Option Component) :
    ViewNode → Except Failure Element
  | .mk record children =>
    match Component.ofName? record.type with
    | none => .error (.component record.type screen (.viewType record.id))
    | some type => do
      let attributes ← attributesOf assets screen inside type record
      return .mk type.name attributes (← elementsOf assets screen type children)

/-- The elements of the views inside of one of a type. -/
def elementsOf (assets : Assets) (screen : String) (inside : Component) :
    List ViewNode → Except Failure (List Element)
  | [] => .ok []
  | node :: nodes => do
    let element ← elementOf assets screen (some inside) node
    let elements ← elementsOf assets screen inside nodes
    return element :: elements

end

/-- The root of a screen's layout. -/
def rootOf (assets : Assets) (metadata : Metadata) (tree : ViewTree) : Except Failure Element := do
  let root ← elementOf assets tree.screen none tree.root
  return match assets.files.activity? tree.screen with
    | some _ => root.set contextName s!"{metadata.packageName}.{activityClassName tree.screen}"
    | none => root

/-- The layout of a screen. -/
def ofTree (assets : Assets) (metadata : Metadata) (indent : String) (tree : ViewTree) :
    Except Failure String := do
  return document indent (← rootOf assets metadata tree)

end BlockApp.Layout
