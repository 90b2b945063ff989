import BlockApp.Section.Cells
import BlockApp.Section.Name

/-!
# The view section

A group `screen.xml` lists the views of a screen, each with the name of its parent. Groups with other
endings are skipped or refused.

* `ViewSection.ofText` reads the groups one after the other; a screen has one group.
-/

namespace BlockApp

/-- A view as a line of its screen. The root has no parent. -/
structure ViewRecord where
  line : Nat
  id : String
  type : String
  parent : Option String
  attributes : List ViewAttribute
  deriving Repr, DecidableEq

/-- The first attribute of a name. -/
def ViewRecord.attribute? (record : ViewRecord) (name : String) : Option ViewAttribute :=
  record.attributes.find? (·.name == name)

/-- A screen with its views in order. -/
structure ViewScreen where
  name : String
  records : List ViewRecord
  deriving Repr, DecidableEq

/-- The view section: its screens in order. -/
structure ViewSection where
  screens : List ViewScreen
  deriving Repr, DecidableEq

namespace ViewSection

/-- The names of the screens. -/
def screenNames (view : ViewSection) : List String := view.screens.map (·.name)

/-- The name of the section in messages. -/
def sectionName : String := SectionName.view.name

/-- The endings of groups that are skipped unless told otherwise. -/
def defaultSkipped : List String := ["xml_fab"]

/-- The screen and the ending of a header `screen.xml` or `screen.xml_ending`. -/
def readHeader? (header : String) : Option (String × String) :=
  let s := header.toList
  let screen := s.takeWhile Text.isNamePart
  match s.dropWhile Text.isNamePart with
  | '.' :: 'x' :: 'm' :: 'l' :: more =>
    let wellFormed : Bool := match more with
      | [] => true
      | '_' :: name => !name.isEmpty && name.all Text.isNamePart
      | _ => false
    if Text.isBareIdentifier screen && wellFormed then
      some (String.ofList screen, String.ofList ('x' :: 'm' :: 'l' :: more))
    else none
  | _ => none

/-- Reads a view. The parent field is an escaped name inside an escaped field. -/
def readView (record : Record) : Except Failure ViewRecord :=
  match record.fields with
  | [idField, typeField, parentField, cell] => do
    let parentName := Text.unescape parentField
    let id ← Section.identifierField sectionName "view id" record.line idField
    let type ← Section.identifierField sectionName "view type" record.line typeField
    let parent ←
      if parentName = "" then pure none
      else some <$> Section.identifierField sectionName "parent id" record.line parentName
    let attributes ← Section.attributes sectionName record.line cell
    return ⟨record.line, id, type, parent, attributes⟩
  | _ => Section.wrongCount sectionName "view" record 4

/-- Reads groups, given the screens of those before. -/
def readGroups (skipped seen : List String) : List Group → Except Failure (List ViewScreen)
  | [] => .ok []
  | group :: groups =>
    match readHeader? group.header with
    | none => Section.failAt sectionName group.line (.invalid "view header" group.header)
    | some (screen, ending) =>
      if ending ∈ skipped then readGroups skipped seen groups
      else if ending ≠ "xml" then
        Section.failAt sectionName group.line (.unknown "view extension" ending)
      else if screen ∈ seen then
        Section.failAt sectionName group.line (.duplicate "view header" group.header)
      else do
        let records ← group.records.mapM readView
        let others ← readGroups skipped (screen :: seen) groups
        return ⟨screen, records⟩ :: others

/-- Reads the view section, skipping groups with the given endings. -/
def ofText (text : String) (skipped : List String) : Except Failure ViewSection := do
  let groups ← Section.splitGroups sectionName text
  return ⟨← readGroups skipped [] groups⟩

end ViewSection

end BlockApp
