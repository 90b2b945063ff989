import BlockApp.Logic.Event
import BlockApp.Logic.Section
import BlockApp.View.Tree

/-!
# View indexes

What the class of a screen needs to know about its views: the type of each, and whether any logic refers
to it. A view that is referred to becomes a field of the class.

* `LogicSection.referencedViews` looks at the whole project: a view counts as referred to by its name,
  whatever screen the logic belongs to.
-/

namespace BlockApp

/-- A view as the class of its screen sees it. -/
structure ViewEntry where
  id : String
  type : String
  isReferenced : Bool
  deriving Repr, DecidableEq

/-- The views of a screen. -/
structure ViewIndex where
  screen : String
  entries : List ViewEntry
  deriving Repr, DecidableEq

namespace ViewIndex

/-- The view of an identifier. -/
def entry? (index : ViewIndex) (id : String) : Option ViewEntry := index.entries.find? (·.id == id)

/-- Whether there is a view of an identifier. -/
def has (index : ViewIndex) (id : String) : Bool := index.entries.any (·.id == id)

/-- The views that some logic refers to. -/
def referenced (index : ViewIndex) : List ViewEntry := index.entries.filter (·.isReferenced)

/-- The entry of a view. -/
def entryOf (screen : String) (referenced : List String) (node : ViewNode) :
    Except Failure ViewEntry :=
  match Component.ofName? node.record.type with
  | none => .error (.component node.record.type screen (.viewType node.record.id))
  | some type => .ok ⟨node.record.id, type.name, referenced.contains node.record.id⟩

/-- The index of a screen's views. -/
def ofTree (tree : ViewTree) (referenced : List String) : Except Failure ViewIndex := do
  return ⟨tree.screen, ← tree.walk.mapM (entryOf tree.screen referenced)⟩

end ViewIndex

/-- The view that a reference points to. -/
def viewOfReference? : Reference → Option String
  | (.view, name) => some name
  | (.variable, _) | (.argument, _) => none

/-- The view whose event a handler's key names. -/
def viewOfKey? (key : String) : Option String :=
  match Binding.ofKey? key with
  | some (.viewEvent view _) => some view
  | _ => none

namespace LogicSection

/-- The views that blocks or keys of the logic section refer to. -/
def referencedViews (logic : LogicSection) : List String :=
  (logic.records.flatMap fun (_, _, record) =>
    (Expr.referencesOf record.params).filterMap viewOfReference?) ++
  logic.groups.filterMap fun group =>
    group.content.handlerRecords?.bind fun _ => viewOfKey? group.key

end LogicSection

end BlockApp
